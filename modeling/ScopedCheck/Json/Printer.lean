import ScopedCheck.Json.Value
import ScopedCheck.Json.Literal
import ScopedCheck.Binary64.Decimal

namespace ScopedCheck.Json

/-- Numbers are plain from 0.00001 up to below 10^16. -/
def numberLayout : Layout := ⟨-5, 16⟩

def Number.render : Number → List Char
  | .whole n _ => (if n < 0 then ['-'] else []) ++ Nat.toDigits 10 n.natAbs
  | .real x => x.render numberLayout

def lineStart (level : Nat) : List Char :=
  '\n' :: List.replicate (2 * level) ' '

mutual

def render (level : Nat) : Value → List Char
  | .null => ['n', 'u', 'l', 'l']
  | .bool true => ['t', 'r', 'u', 'e']
  | .bool false => ['f', 'a', 'l', 's', 'e']
  | .number n => n.render
  | .string s => Literal.write s
  | .array items => '[' :: (renderItems (level + 1) true items ++
      (if items.isEmpty then [] else lineStart level) ++ [']'])
  | .object members => '{' :: (renderMembers (level + 1) true members ++
      (if members.isEmpty then [] else lineStart level) ++ ['}'])

def renderItems (level : Nat) (first : Bool) : List Value → List Char
  | [] => []
  | v :: vs => (if first then [] else [',']) ++ lineStart level ++ render level v ++
      renderItems level false vs

def renderMembers (level : Nat) (first : Bool) : List (String × Value) → List Char
  | [] => []
  | (key, v) :: ms => (if first then [] else [',']) ++ lineStart level ++ Literal.write key ++
      ':' :: ' ' :: render level v ++ renderMembers level false ms

end

/-- The text of an object. -/
def Members.text (members : Members) : String :=
  String.ofList (render 0 (.object members))

end ScopedCheck.Json
