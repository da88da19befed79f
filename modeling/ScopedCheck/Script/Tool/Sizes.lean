import ScopedCheck.Script.Tool.Basic

namespace ScopedCheck.Script.Tool

/-- How much a letter after a count stands for. -/
def unitOf? (text : Octets) : Option Nat :=
  let powers : List (Char × Nat) := [('K', 1), ('k', 1), ('M', 2), ('G', 3), ('T', 4), ('P', 5), ('E', 6)]
  match text with
  | [] => some 1
  | ['b'] => some 512
  | [c] => (powers.lookup c).map (Nat.pow 1024)
  | [c, 'B'] => (powers.lookup c).map (Nat.pow 1000)
  | [c, 'i', 'B'] => (powers.lookup c).map (Nat.pow 1024)
  | _ => none

/-- A count such as `12`, `3K` or `1MB`. -/
def size? (text : Octets) : Option Nat :=
  let digits := text.takeWhile Char.isDigit
  if digits = [] then (if text = [] then none else unitOf? text)
  else (unitOf? (text.drop digits.length)).map (Octets.natOf 10 digits * ·)

/-- Which end of a text a count is for. -/
inductive Side where
  | usual
  | minus
  | plus
  deriving DecidableEq

/-- A count with an optional sign. -/
def signedSize? (text : Octets) : Option (Side × Nat) :=
  match text with
  | '-' :: rest => (size? rest).map fun n => (.minus, n)
  | '+' :: rest => (size? rest).map fun n => (.plus, n)
  | _ => (size? text).map fun n => (.usual, n)

/-- A whole number without a sign. -/
def natural? (text : Octets) : Option Nat :=
  if text ≠ [] && text.all Char.isDigit then some (Octets.natOf 10 text) else none

end ScopedCheck.Script.Tool
