import ScopedCheck.Script.Format

namespace ScopedCheck.Script.Tool.Records

inductive Value where
  | unset
  | number (x : Float)
  | text (t : Octets)
  /-- A text that was read or given, not written in the program. -/
  | given (t : Octets)
  deriving Inhabited

/-- The nearest number to `whole * 10 ^ power`. -/
def scaled (whole : Nat) (power : Int) : Float :=
  let length := (Nat.toDigits 10 whole).length
  if whole = 0 then 0
  else if 320 < length + power then 1 / 0
  else if length + power < -340 then 0
  else Float.ofScientific whole (power < 0) power.natAbs

/-- A finite number as a fraction of whole numbers, without its sign. -/
def fractionOf (x : Float) : Nat × Nat :=
  let bits := x.toBits.toNat
  let exponent := bits / 0x10000000000000 % 0x800
  let low := bits % 0x10000000000000
  if exponent = 0 then Magnitude.shifted low 1 (-1074)
  else Magnitude.shifted (low + 0x10000000000000) 1 ((exponent : Int) - 1075)

def isNegative (x : Float) : Bool := 0x8000000000000000 ≤ x.toBits.toNat

/-- The whole part of a finite number. -/
def wholeOf (x : Float) : Int :=
  let (num, den) := fractionOf x
  if isNegative x then -Int.ofNat (num / den) else Int.ofNat (num / den)

def isFinite (x : Float) : Bool := !(x.isNaN || x.isInf)

/-- What is left of a number after it was divided as often as that goes, with its own sign. -/
def remainder (x y : Float) : Float :=
  if !isFinite x || y.isNaN || y == 0 then 0 / 0
  else if y.isInf then x
  else
    let (a, b) := fractionOf x
    let (c, d) := fractionOf y
    let rest := a * d % (c * b)
    let result := match Magnitude.nearest? rest (b * d) with
      | some m => Float.scaleB (Float.ofNat m.significand) m.exponent
      | none => 0
    if isNegative x then -result else result

def sharp (negative : Bool) (x : Float) : Float := if negative then -x else x

/-- Digits with a point in them somewhere: all of them, and how many come after the point. -/
def spanDigits (base : Nat) (text : Octets) : Octets × Nat × Octets :=
  let whole := text.takeWhile (Octets.isDigitOf base)
  match text.drop whole.length with
  | '.' :: rest =>
    let part := rest.takeWhile (Octets.isDigitOf base)
    if whole = [] && part = [] then ([], 0, text) else (whole ++ part, part.length, rest.drop part.length)
  | rest => (whole, 0, rest)

/-- A power after its letter, if there is one. -/
def spanPower (letter : Char) (text : Octets) : Int × Octets :=
  match text with
  | c :: rest =>
    let negative := rest.head? = some '-'
    let body := if negative || rest.head? = some '+' then rest.tail else rest
    let digits := body.takeWhile Char.isDigit
    if c.toLower = letter && digits ≠ [] then
      let n := Octets.natOf 10 (if digits.length < 8 then digits else "9999999".toList)
      (if negative then -Int.ofNat n else Int.ofNat n, body.drop digits.length)
    else (0, text)
  | [] => (0, text)

/-- A number without a sign that a text begins with. -/
def unsigned? (text : Octets) : Option (Float × Octets) :=
  let low := (text.take 8).map Char.toLower
  if "infinity".toList.isPrefixOf low then some (1 / 0, text.drop 8)
  else if "inf".toList.isPrefixOf low then some (1 / 0, text.drop 3)
  else if "nan".toList.isPrefixOf low then some (0 / 0, text.drop 3)
  else
    let hexadecimal := if "0x".toList.isPrefixOf low then spanDigits 16 (text.drop 2) else ([], 0, [])
    if hexadecimal.1 ≠ [] then
      let (digits, places, rest) := hexadecimal
      let (power, rest) := spanPower 'p' rest
      let exact := max (-3000) (min 3000 (power - 4 * Int.ofNat places))
      let n := Octets.natOf 16 digits
      let (num, den) := Magnitude.shifted n 1 exact
      let value := match Magnitude.nearest? num den with
        | some m => Float.scaleB (Float.ofNat m.significand) m.exponent
        | none => 1 / 0
      some (value, rest)
    else
      let (digits, places, rest) := spanDigits 10 text
      if digits = [] then none
      else
        let (power, rest) := spanPower 'e' rest
        some (scaled (Octets.natOf 10 digits) (power - Int.ofNat places), rest)

/-- The number that a text begins with, after blanks, and what comes after it. -/
def number? (text : Octets) : Option (Float × Octets) :=
  let body := text.dropWhile Octets.isSpace
  let negative := body.head? = some '-'
  let digits := if negative || body.head? = some '+' then body.tail else body
  (unsigned? digits).map fun (x, rest) => (sharp negative x, rest)

/-- The number that a whole text is. It begins like one in decimal digits, and ends in a digit or a
point. -/
def wholeNumber? (text : Octets) : Option Float :=
  let body := text.dropWhile Octets.isSpace
  let body := (body.reverse.dropWhile Octets.isSpace).reverse
  let starts := body.head?.any fun c => c.isDigit || "+-.".toList.contains c
  let ends := body.getLast?.any fun c => c.isDigit || c = '.'
  if !starts || !ends then none
  else match number? body with
    | some (x, []) => some x
    | _ => none

/-- The greatest whole number that is shown as one. -/
def greatestShown : Nat := 18446744073709551615

/-- A number without a fraction that has a place among the machine's whole numbers. -/
def shownWhole? (x : Float) : Option Int :=
  if !isFinite x then none
  else
    let n := wholeOf x
    let (num, den) := fractionOf x
    if num % den ≠ 0 || n < -Octets.maxWhole - 1 || Int.ofNat greatestShown + 1 < n then none
    else some (min n greatestShown)

/-- The text of a number that is none. -/
def oddText (x : Float) : Octets :=
  if x.isNaN then "-nan".toList else if x < 0 then "-inf".toList else "inf".toList

/-- Sets a number by a directive of this letter. -/
def setReal (l : Format.Layout) (letter : Char) (x : Float) : Octets :=
  if isFinite x then
    let (num, den) := fractionOf x
    l.setReal letter (isNegative x) num den
  else
    let text := oddText x
    let sign := if text.head? = some '-' then [] else if l.has '+' then ['+'] else if l.has ' ' then [' '] else []
    let text := sign ++ text
    l.pad (if letter.isUpper then text.map Char.toUpper else text)

/-- The whole number nearest to zero, within the limits of the machine. -/
def clamped (x : Float) : Int :=
  if x.isNaN then -Octets.maxWhole - 1
  else if x.isInf then (if x < 0 then -Octets.maxWhole - 1 else greatestShown)
  else max (-Octets.maxWhole - 1) (min (wholeOf x) greatestShown)

namespace Value

def ofNat (n : Nat) : Value := .number (Float.ofNat n)

def ofBool (b : Bool) : Value := .number (if b then 1 else 0)

def toNumber : Value → Float
  | unset => 0
  | number x => x
  | text t | given t => ((number? t).map Prod.fst).getD 0

/-- The number that a value counts as in comparisons, if it counts as one. -/
def numeric? : Value → Option Float
  | unset => some 0
  | number x => some x
  | text _ => none
  | given t => wholeNumber? t

def isTrue (v : Value) : Bool :=
  match v with
  | unset => false
  | number x => x != 0
  | text t => t ≠ []
  | given t => match wholeNumber? t with
    | some x => x != 0
    | none => t ≠ []

end Value

end ScopedCheck.Script.Tool.Records
