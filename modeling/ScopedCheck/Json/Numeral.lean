import ScopedCheck.Json.Value
import ScopedCheck.Json.Refusal

namespace ScopedCheck.Json

/-- How a number is written. A numeral without a fraction and an exponent whose digits fit into 64 bits is a
whole number; any other is the significand, of digits that fit, times a power of ten. -/
structure Numeral where
  negative : Bool
  whole : List Nat
  /-- The digits after the point, if there is one. -/
  fraction : Option (List Nat)
  /-- Whether the exponent is negative, and its digits, if there is one. -/
  exponent : Option (Bool × List Nat)
  deriving DecidableEq, Repr

namespace Numeral

def digitValue (c : Char) : Nat :=
  c.toNat - '0'.toNat

/-- The leading digits and what comes after them. -/
def splitDigits (cs : List Char) : List Nat × List Char :=
  ((cs.takeWhile Char.isDigit).map digitValue, cs.dropWhile Char.isDigit)

/-- The digits of the whole part: a single zero, or digits that do not open with one. -/
def readWhole (cs : List Char) : Except Refusal (List Nat × List Char) :=
  match cs with
  | [] => .error (.atEnd .unfinishedValue)
  | c :: rest =>
    if !c.isDigit then .error (.onFirst .invalidNumber cs)
    else if c = '0' && (rest.head?.any Char.isDigit) then .error (.onFirst .invalidNumber rest)
    else .ok (splitDigits cs)

def readFraction (cs : List Char) : Except Refusal (Option (List Nat) × List Char) :=
  match cs with
  | '.' :: rest =>
    match splitDigits rest with
    | ([], rest) =>
      .error (.onFirst (if rest = [] then .unfinishedValue else .invalidNumber) rest)
    | (digits, rest) => .ok (some digits, rest)
  | _ => .ok (none, cs)

def readExponent (cs : List Char) : Except Refusal (Option (Bool × List Nat) × List Char) :=
  match cs with
  | c :: rest =>
    if c = 'e' || c = 'E' then
      let negative := rest.head? = some '-'
      let rest := if negative || rest.head? = some '+' then rest.tail else rest
      match splitDigits rest with
      | ([], rest) =>
        .error (.onFirst (if rest = [] then .unfinishedValue else .invalidNumber) rest)
      | (digits, rest) => .ok (some (negative, digits), rest)
    else .ok (none, cs)
  | [] => .ok (none, cs)

def read (cs : List Char) : Except Refusal (Numeral × List Char) := do
  let negative := cs.head? = some '-'
  let (whole, cs) ← readWhole (if negative then cs.tail else cs)
  let (fraction, cs) ← readFraction cs
  let (exponent, cs) ← readExponent cs
  return (⟨negative, whole, fraction, exponent⟩, cs)

/-- Appends digits to a number while it stays below the bound; the rest is left over. -/
def absorb (bound : Nat) : Nat → List Nat → Nat × List Nat
  | n, [] => (n, [])
  | n, d :: ds => if 10 * n + d < bound then absorb bound (10 * n + d) ds else (n, d :: ds)

def significandBound : Nat := 0x10000000000000000

def exponentBound : Nat := 0x80000000

/-- The significand and the power of ten that come from the digits before and after the point, and
whether all digits of the whole part found room. -/
def mantissa (numeral : Numeral) : Nat × Int × Bool :=
  let (whole, beyond) := absorb significandBound 0 numeral.whole
  let digits := numeral.fraction.getD []
  let (significand, ignored) := absorb significandBound whole digits
  (significand, (beyond.length : Int) - (digits.length - ignored.length : Nat), beyond.isEmpty)

/-- Keeps a power of ten within 32 bits. -/
def clamp (e : Int) : Int :=
  max (-exponentBound) (min e (exponentBound - 1))

def signed (negative : Bool) (x : Magnitude) : Number :=
  .real ⟨negative, x⟩

/-- A number that is not whole, or how many exponent digits were still to come when it was found
to be too large. -/
def toReal (numeral : Numeral) : Except Nat Number :=
  let (significand, power, _) := numeral.mantissa
  let (negativePower, digits) := numeral.exponent.getD (false, [])
  let (e, beyond) := absorb exponentBound 0 digits
  if beyond ≠ [] then
    if significand ≠ 0 && !negativePower then .error (beyond.length - 1)
    else .ok (signed numeral.negative .zero)
  else
    let power := clamp (if negativePower then power - e else power + e)
    match (Magnitude.ofNat? significand).bind (·.scaleTen? power) with
    | some x => .ok (signed numeral.negative x)
    | none => .error 0

/-- A minus sign before a zero asks for the negative zero, which is not a whole number. -/
def toNumber (numeral : Numeral) : Except Nat Number :=
  let (significand, _, complete) := numeral.mantissa
  let n : Int := if numeral.negative then -significand else significand
  if numeral.fraction.isSome || numeral.exponent.isSome || !complete
      || (numeral.negative && significand = 0) then
    numeral.toReal
  else if fits : -0x8000000000000000 ≤ n ∧ n < 0x10000000000000000 then .ok (.whole n fits)
  else numeral.toReal

end Numeral

/-- Reads a number at the front of the text. -/
def readNumber (cs : List Char) : Except Refusal (Number × List Char) := do
  let (numeral, rest) ← Numeral.read cs
  match numeral.toNumber with
  | .ok n => return (n, rest)
  | .error unread => throw ⟨.numberOutOfRange, Utf8.byteLength rest + unread⟩

end ScopedCheck.Json
