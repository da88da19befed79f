namespace ScopedCheck

/-- A finite number that is not negative: `significand * 2 ^ exponent`, with the least exponent that is not
below -1074 and leaves the significand below 2^53. -/
structure Magnitude where
  significand : Nat
  exponent : Int
  deriving DecidableEq, Repr

structure Binary64 where
  negative : Bool
  magnitude : Magnitude
  deriving DecidableEq, Repr

namespace Magnitude

def zero : Magnitude := ⟨0, -1074⟩

/-- The whole number nearest to `num / den`; a half goes to the even neighbour. -/
def roundHalfEven (num den : Nat) : Nat :=
  let q := num / den
  let r := num % den
  if 2 * r > den || (2 * r = den && q % 2 = 1) then q + 1 else q

/-- The fraction `num / den * 2 ^ e` as numerator and denominator. -/
def shifted (num den : Nat) (e : Int) : Nat × Nat :=
  (num <<< e.toNat, den <<< (-e).toNat)

/-- The least significand of 53 bits. -/
def leastFull : Nat := 0x10000000000000

/-- The magnitude nearest to `num / den`, ties to even; none from halfway beyond the largest. -/
def nearest? (num den : Nat) : Option Magnitude :=
  if num = 0 then some zero
  else
    let guess : Int := (num.log2 : Int) - den.log2 - 52
    let probe := shifted num den (-guess)
    let exact := if probe.1 < leastFull * probe.2 then guess - 1 else guess
    let e := max exact (-1074)
    let scaled := shifted num den (-e)
    let s := roundHalfEven scaled.1 scaled.2
    let rounded : Magnitude := if s = 2 * leastFull then ⟨leastFull, e + 1⟩ else ⟨s, e⟩
    if rounded.exponent ≤ 971 then some rounded else none

def ofNat? (n : Nat) : Option Magnitude :=
  nearest? n 1

def mul? (x y : Magnitude) : Option Magnitude :=
  let f := shifted (x.significand * y.significand) 1 (x.exponent + y.exponent)
  nearest? f.1 f.2

def div? (x y : Magnitude) : Option Magnitude :=
  let f := shifted x.significand y.significand (x.exponent - y.exponent)
  nearest? f.1 f.2

/-- The greatest power of ten that has a magnitude, as an exponent. -/
def maxTenPower : Nat := 308

/-- Multiplies by ten to the power `e`, in steps of at most `maxTenPower` of which each rounds
once; none when the product is too large. A power below the range is divided out repeatedly until
nothing is left. -/
def scaleTen? (x : Magnitude) (e : Int) : Option Magnitude := do
  if e.natAbs ≤ maxTenPower then
    let ten ← ofNat? (Nat.pow 10 e.natAbs)
    if 0 ≤ e then x.mul? ten else x.div? ten
  else if x.significand = 0 then some x
  else if _h : 0 ≤ e then none
  else
    let ten ← ofNat? (Nat.pow 10 maxTenPower)
    (← x.div? ten).scaleTen? (e + maxTenPower)
termination_by e.natAbs
decreasing_by
  simp only [maxTenPower] at *
  omega

end Magnitude

end ScopedCheck
