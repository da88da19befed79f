import ScopedCheck.Script.Format
import ScopedCheck.Script.Tool.Passing
import ScopedCheck.Script.Tool.Sizes

namespace ScopedCheck.Script.Sequence

open Script.Action
open Passing (complain putOut)

/-- A decimal number: so many units of a negative power of ten. -/
structure Decimal where
  units : Int
  places : Nat

namespace Decimal

/-- The power of ten that a text after a number asks for. -/
def power? : Octets → Option Int
  | [] => some 0
  | e :: rest =>
    let digits := if rest.head? = some '-' || rest.head? = some '+' then rest.tail else rest
    if e.toLower ≠ 'e' || digits = [] || !digits.all Char.isDigit then none
    else
      let n : Int := min (Octets.natOf 10 digits) 5000
      some (if rest.head? = some '-' then -n else n)

/-- So many units of a power of ten; what is left of the places after the point is kept. -/
def shifted (units : Int) (places : Nat) (power : Int) : Decimal :=
  if power < 0 then ⟨units, places + power.natAbs⟩
  else if power.natAbs ≤ places then ⟨units, places - power.natAbs⟩
  else ⟨units * Nat.pow 10 (power.natAbs - places), 0⟩

def read? (text : Octets) : Option Decimal :=
  let text := text.dropWhile Octets.isSpace
  let negative := text.head? = some '-'
  let body := if negative || text.head? = some '+' then text.tail else text
  if ["0x", "0X"].any (·.toList.isPrefixOf body) then
    let (n, rest) := Octets.spanPrefixed body
    if rest = [] then some ⟨if negative then -n else n, 0⟩ else none
  else
    let whole := body.takeWhile Char.isDigit
    let rest := body.drop whole.length
    let fraction := if rest.head? = some '.' then rest.tail.takeWhile Char.isDigit else []
    let rest := if rest.head? = some '.' then rest.drop (fraction.length + 1) else rest
    let n : Int := Octets.natOf 10 (whole ++ fraction)
    if whole ++ fraction = [] then none
    else (power? rest).map (shifted (if negative then -n else n) fraction.length)

/-- The number with at least so many places. -/
def scaled (d : Decimal) (places : Nat) : Int := d.units * Nat.pow 10 (places - d.places)

/-- The text of so many units, with so many places. -/
def write (places : Nat) (units : Int) : Octets :=
  let digits := Octets.ofNat units.natAbs
  let digits := List.replicate (places + 1 - digits.length) '0' ++ digits
  let (whole, fraction) := digits.splitAt (digits.length - places)
  (if units < 0 then ['-'] else []) ++ whole ++ (if places = 0 then [] else '.' :: fraction)

end Decimal

/-- The numbers of a sequence in units of its smallest place, and how they are written. -/
structure Plan where
  first : Int
  step : Int
  last : Int
  places : Nat
  /-- Text before and after the numbers, and the layout and letter of a directive between them. -/
  format : Option (Octets × Format.Layout × Char × Octets) := none
  width : Nat := 0
  separator : Octets

def Plan.write (p : Plan) (units : Int) : Octets :=
  match p.format with
  | some (before, layout, c, after) =>
    before ++ layout.setReal c (units < 0) units.natAbs (Nat.pow 10 p.places) ++ after
  | none =>
    let text := Decimal.write p.places units
    let sign := if units < 0 then ['-'] else []
    sign ++ List.replicate (p.width - text.length) '0' ++ text.drop sign.length

/-- Reads a format with one directive for a number. -/
def readFormat (text : Octets) : Except String (Octets × Format.Layout × Char × Octets) :=
  let rec before : (steps : Nat) → (done : Octets) → Octets → Option (Octets × Octets)
    | 0, _, _ => none
    | _, _, [] => none
    | steps + 1, done, '%' :: '%' :: rest => before steps ('%' :: done) rest
    | _, done, '%' :: rest => some (done.reverse, rest)
    | steps + 1, done, c :: rest => before steps (c :: done) rest
  match before (text.length + 1) [] text with
  | none => .error ("format " ++ Tool.quoted text ++ " has no % directive")
  | some (lead, rest) =>
    let flags := rest.takeWhile fun c => "#-+ 0'".toList.contains c
    let rest := rest.drop flags.length
    let width := rest.takeWhile Char.isDigit
    let rest := rest.drop width.length
    let (precision, rest) := match rest with
      | '.' :: more =>
        let digits := more.takeWhile Char.isDigit
        (some (Octets.natOf 10 digits), more.drop digits.length)
      | _ => (none, rest)
    match rest with
    | c :: after =>
      if "eEfFgG".toList.contains c then
        if after.contains '%' && !"%%".toList.isPrefixOf (after.dropWhile (· ≠ '%')) then
          .error ("format " ++ Tool.quoted text ++ " has too many % directives")
        else .ok (lead, ⟨flags, Octets.natOf 10 width, precision⟩, c, after)
      else .error ("format " ++ Tool.quoted text ++ " has unknown %" ++ Octets.text [c] ++ " directive")
    | [] => .error ("format " ++ Tool.quoted text ++ " ends in %")

/-- Whether an argument is a number, though it may begin like an option. -/
def isNumber (a : Octets) : Bool := (Decimal.read? a).isSome

/-- Separates the options from the numbers. -/
def arrange : List Octets → List Octets
  | [] => []
  | a :: rest => if isNumber a then "--".toList :: a :: rest else a :: arrange rest

def plan (arguments : List Octets) : Except (String × Bool) Plan := do
  let o := Tool.Options.read
    { letters := "w", valued := "sf", anywhere := false
      long := [("separator", 's'), ("equal-width", 'w'), ("format", 'f')] } (arrange arguments)
  if let some fault := o.fault? then throw (fault, true)
  match o.operands with
  | [] => throw ("missing operand", true)
  | _ :: _ :: _ :: extra :: _ => throw ("extra operand " ++ Tool.cited extra, true)
  | operands =>
    if let some wrong := operands.find? (!isNumber ·) then
      throw ("invalid floating point argument: " ++ Tool.cited wrong, true)
    let numbers := operands.filterMap Decimal.read?
    let one : Decimal := ⟨1, 0⟩
    let (first, step, last) := match numbers with
      | [a, b, c] => (a, b, c)
      | [a, c] => (a, one, c)
      | _ => (one, one, numbers.headD one)
    if step.units = 0 then
      throw ("invalid Zero increment value: " ++ Tool.cited (operands[1]?.getD []), true)
    let format ← match o.value? 'f' with
      | none => pure none
      | some text => match readFormat text with
        | .ok found => pure (some found)
        | .error message => throw (message, false)
    if format.isSome && o.has 'w' then
      throw ("format string may not be specified when printing equal width strings", true)
    let shown := max first.places step.places
    let places := max shown last.places
    -- numbers have as many places as the start and the step do
    let scale : Int := Nat.pow 10 (places - shown)
    let (a, s, z) := (first.scaled shown, step.scaled shown, (last.scaled places).fdiv scale)
    let z := if step.units < 0 then -((-(last.scaled places)).fdiv scale) else z
    let count := ((z - a).tdiv s).toNat
    let lengths := [a, a + s * count].map fun n => (Decimal.write shown n).length
    return {
      first := a, step := s, last := z, places := shown, format := format
      width := if o.has 'w' then lengths.foldl max 0 else 0
      separator := (o.value? 's').getD ['\n'] }

/-- How many numbers are written at once. -/
def chunk : Nat := 1000

/-- Writes numbers from one on. -/
def writeFrom (name : String) (p : Plan) : (rounds : Nat) → (next : Int) → Action Nat
  | 0, _ => return 0
  | rounds + 1, next => do
    let items := ((List.range chunk).map fun (n : Nat) => next + p.step * (n : Int)).filter fun n =>
      if p.step < 0 then p.last ≤ n else n ≤ p.last
    let following := next + p.step * (chunk : Int)
    let goesOn := if p.step < 0 then p.last ≤ following else following ≤ p.last
    let ends := if goesOn then p.separator else ['\n']
    let text := p.separator.intercalate (items.map p.write)
    if items = [] then
      return 0
    else if !(← putOut name (text ++ ends)) then return 1
    else if goesOn then
      spend stepTime
      writeFrom name p rounds following
    else return 0

def run (name : String) (arguments : List Octets) : Action Nat := do
  match plan arguments with
  | .error (message, usage) =>
    complain name (message ++ if usage then "\nTry '" ++ name ++ " --help' for more information." else "")
    return 1
  | .ok p => writeFrom name p Engine.maxRounds p.first

end ScopedCheck.Script.Sequence
