import ScopedCheck.Binary64.Basic

namespace ScopedCheck

/-- The value `0.d₁d₂… * 10 ^ point` of decimal digits, of which the first and last are not zero. -/
structure Decimal where
  digits : List Char
  point : Int
  deriving DecidableEq, Repr

namespace Magnitude

/-- Whether `n * 10 ^ k` rounds to the magnitude: it lies between the halfway points to the
neighbours, which belong to the interval when the significand is even. Below a power of two the
lower neighbour is only half as far away. -/
def readsBack (x : Magnitude) (n : Nat) (k : Int) : Bool :=
  let narrow := x.significand = leastFull && x.exponent > -1074
  let low := 4 * x.significand - (if narrow then 1 else 2)
  let high := 4 * x.significand + 2
  let unit := shifted 1 1 (x.exponent - 2)
  let value := n * Nat.pow 10 k.toNat * unit.2
  let scale := unit.1 * Nat.pow 10 (-k).toNat
  if x.significand % 2 = 0 then low * scale ≤ value && value ≤ high * scale
  else low * scale < value && value < high * scale

/-- The exponent of the least power of ten above the magnitude. -/
def decimalPoint (x : Magnitude) : Int :=
  let f := shifted x.significand 1 x.exponent
  if f.2 ≤ f.1 then (Nat.toDigits 10 (f.1 / f.2)).length
  else 1 - ((Nat.toDigits 10 ((f.2 - 1) / f.1)).length : Int)

/-- The multiple of `10 ^ k` that reads back and is nearest to the magnitude, as the multiplier;
of two equally near ones the even. -/
def onGrid? (x : Magnitude) (k : Int) : Option Nat :=
  let f := shifted x.significand 1 x.exponent
  let num := f.1 * Nat.pow 10 (-k).toNat
  let den := f.2 * Nat.pow 10 k.toNat
  let below := num / den
  let twice := 2 * (num % den)
  let upFirst := den < twice || (den = twice && below % 2 = 1)
  let candidates := if upFirst then [below + 1, below] else [below, below + 1]
  candidates.find? fun n => n ≠ 0 && x.readsBack n k

def withoutFinalZeros (digits : List Char) : List Char :=
  (digits.reverse.dropWhile (· = '0')).reverse

/-- The digits of the first grid, from coarse to fine, that holds a number which reads back. -/
def shortest (x : Magnitude) : Decimal :=
  let point := x.decimalPoint
  match (List.range 17).findSome? fun (i : Nat) =>
    (x.onGrid? (point - (i + 1))).map fun n => (n, point - (i + 1)) with
  | some (n, k) =>
    let digits := Nat.toDigits 10 n
    ⟨withoutFinalZeros digits, k + digits.length⟩
  | none => ⟨['0'], 1⟩

end Magnitude

/-- The decisions on how digits become text. -/
structure Layout where
  /-- The least exponent of the first digit that is written without an exponent. -/
  plainFrom : Int
  /-- The first exponent that is written as one again. -/
  plainBelow : Int
  deriving DecidableEq, Repr

namespace Layout

/-- Plain text always has a fraction, an exponent always has a sign. -/
def render (layout : Layout) (d : Decimal) : List Char :=
  let e := d.point - 1
  if layout.plainFrom ≤ e && e < layout.plainBelow then
    if d.point ≤ 0 then
      '0' :: '.' :: (List.replicate (-d.point).toNat '0' ++ d.digits)
    else
      let whole := d.point.toNat
      let fraction := d.digits.drop whole
      d.digits.take whole ++ List.replicate (whole - d.digits.length) '0' ++
        '.' :: (if fraction = [] then ['0'] else fraction)
  else
    let fraction := d.digits.drop 1
    d.digits.take 1 ++ (if fraction = [] then [] else '.' :: fraction) ++
      'e' :: (if e < 0 then '-' else '+') :: Nat.toDigits 10 e.natAbs

end Layout

namespace Binary64

def render (layout : Layout) (x : Binary64) : List Char :=
  let digits :=
    if x.magnitude.significand = 0 then ⟨['0'], 1⟩ else x.magnitude.shortest
  (if x.negative then ['-'] else []) ++ layout.render digits

end Binary64

end ScopedCheck
