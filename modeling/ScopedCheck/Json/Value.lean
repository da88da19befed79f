import ScopedCheck.Binary64.Basic

namespace ScopedCheck.Json

/-- A whole number is kept exactly when it fits into 64 bits, signed or unsigned. -/
inductive Number where
  | whole (n : Int) (fits : -0x8000000000000000 ≤ n ∧ n < 0x10000000000000000)
  | real (x : Binary64)
  deriving DecidableEq, Repr

/-- An object keeps its members in the order of their first mention. -/
inductive Value where
  | null
  | bool (b : Bool)
  | number (n : Number)
  | string (s : String)
  | array (items : List Value)
  | object (members : List (String × Value))
  deriving Repr, Inhabited

abbrev Members := List (String × Value)

namespace Members

/-- A key that is present keeps its place and gets the new value, a new key goes to the end. -/
def insert (key : String) (value : Value) : Members → Members
  | [] => [(key, value)]
  | (k, v) :: rest => if k = key then (key, value) :: rest else (k, v) :: insert key value rest

def get? (key : String) (members : Members) : Option Value :=
  members.lookup key

def keys (members : Members) : List String :=
  members.map Prod.fst

/-- The members that are left when each pair is inserted in turn. -/
def ofPairs (pairs : List (String × Value)) : Members :=
  pairs.foldl (fun members pair => insert pair.1 pair.2 members) []

end Members

namespace Value

/-- The kind of a value, with its article. -/
def kind : Value → String
  | null => "null"
  | bool _ => "a boolean"
  | number _ => "a number"
  | string _ => "a string"
  | array _ => "an array"
  | object _ => "an object"

end Value

end ScopedCheck.Json
