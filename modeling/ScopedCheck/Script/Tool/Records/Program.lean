import ScopedCheck.Script.Tool.Records.Value
import ScopedCheck.Script.Tool.Regex

namespace ScopedCheck.Script.Tool.Records

/-- A name of the whole program, or one of the function that runs, by its place. -/
inductive Name where
  | shared (name : String)
  | own (place : Nat)

inductive Operator where
  | plus | minus | times | divided | remainder | power

inductive Comparison where
  | less | lessOrEqual | equal | unequal | greater | greaterOrEqual

/-- Where a line is read from. -/
inductive Origin where
  | file | command

/-- Where output goes. -/
inductive Outlet where
  | file | appended | command
  deriving DecidableEq

inductive Expression where
  | number (x : Float)
  | text (t : Octets)
  /-- Whether the record matches. -/
  | pattern (r : Regex)
  | name (n : Name)
  | field (index : Expression)
  | element (array : Name) (keys : List Expression)
  | assign (target value : Expression)
  | update (operator : Operator) (target value : Expression)
  /-- Changes a number by one; the value is the new one or the old one. -/
  | count (up before : Bool) (target : Expression)
  | choose (test yes no : Expression)
  | both (first second : Expression)
  | any (first second : Expression)
  | not (e : Expression)
  | minus (e : Expression)
  | plus (e : Expression)
  | arithmetic (operator : Operator) (first second : Expression)
  | compare (c : Comparison) (first second : Expression)
  | join (first second : Expression)
  | isMatch (wanted : Bool) (text expression : Expression)
  | isKey (keys : List Expression) (array : Name)
  | call (function : String) (arguments : List Expression)
  | builtin (function : String) (arguments : List Expression)
  /-- Reads the next record, or a line from elsewhere. -/
  | line (target : Option Expression) (origin : Option (Origin × Expression))
  /-- An expression in parentheses. -/
  | grouped (e : Expression)
  deriving Inhabited

inductive Statement where
  | evaluate (e : Expression)
  | print (values : List Expression) (outlet : Option (Outlet × Expression))
  | format (values : List Expression) (outlet : Option (Outlet × Expression))
  | block (body : List Statement)
  | branch (test : Expression) (yes : Statement) (no : Option Statement)
  /-- Repeats a statement as long as a test holds, which is made first or after each time. -/
  | loop (first : Option Expression) (test : Option Expression) (step : Option Expression)
      (body : Statement)
  | loopAfter (body : Statement) (test : Expression)
  | forKeys (target : Expression) (array : Name) (body : Statement)
  | remove (array : Name) (keys : Option (List Expression))
  | next
  | nextFile
  | leave (status : Option Expression)
  | giveBack (value : Option Expression)
  | stopLoop
  | nextRound
  deriving Inhabited

/-- When a rule is carried out. -/
inductive Condition where
  | always
  | holds (e : Expression)
  /-- From a record that passes the first test to one that passes the second. -/
  | between (first last : Expression)

structure Rule where
  condition : Condition
  body : List Statement

structure Function where
  name : String
  parameters : List String
  body : List Statement

structure Program where
  before : List (List Statement) := []
  rules : List Rule := []
  after : List (List Statement) := []
  functions : List Function := []
  /-- The parameters that are tables, by function and place. -/
  tables : List (String × Nat) := []

namespace Expression

/-- Whether an expression stands for a place that has a value. -/
def isPlace : Expression → Bool
  | name _ | field _ | element _ _ => true
  | _ => false

end Expression

end ScopedCheck.Script.Tool.Records
