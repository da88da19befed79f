import ScopedCheck.Script.Condition
import ScopedCheck.Script.Tool.Basic

namespace ScopedCheck.Script.Tool.Conditions

abbrev Reading := Condition.Testing

/-- What a condition is read with: the files, and the last argument, which is named where one is
missing. -/
structure Setting where
  site : Site
  last : Octets

def Setting.beyond {α : Type} (s : Setting) : Reading α :=
  throw ("missing argument after " ++ cited s.last)

def binaryOperators : List String :=
  ["=", "==", "!=", "-eq", "-ne", "-lt", "-le", "-gt", "-ge", "-ot", "-nt", "-ef"]

def isBinary (a : Octets) : Bool := binaryOperators.any (·.toList = a)

/-- Whether an argument looks like an operator with one operand. -/
def isSwitch : Octets → Bool
  | ['-', _] => true
  | _ => false

/-- A whole number of any size, with blanks around it. -/
def number (text : Octets) : Reading Int :=
  let body := text.dropWhile Octets.isSpace
  let digits := if body.head? = some '-' || body.head? = some '+' then body.tail else body
  let whole := digits.takeWhile Char.isDigit
  if whole = [] || !(digits.drop whole.length).all Octets.isSpace then
    throw ("invalid integer " ++ cited text)
  else
    let n : Int := Octets.natOf 10 whole
    return if body.head? = some '-' then -n else n

def compare (s : Setting) (operator : String) (a b : Octets) : Reading Bool := do
  let there (text : Octets) : Bool := s.site.exists? (path text)
  match operator with
  | "=" | "==" => return a = b
  | "!=" => return a ≠ b
  | "-ef" => return Condition.isSame s.site a b
  | "-nt" => return there a && (!there b || Condition.isNewer s.site a b)
  | "-ot" => return there b && (!there a || Condition.isNewer s.site b a)
  | _ =>
    let m ← number a
    let n ← number b
    match operator with
    | "-eq" => return m = n
    | "-ne" => return m ≠ n
    | "-lt" => return m < n
    | "-le" => return m ≤ n
    | "-gt" => return m > n
    | _ => return m ≥ n

/-- An operator with one operand. -/
def unary (s : Setting) : Reading Bool := do
  match ← get with
  | [] => s.beyond
  | operator :: rest =>
    if !(operator.drop 1).any fun c => "bcdefghkLnNOGprsStuwxz".toList.contains c then
      throw (cited operator ++ ": unary operator expected")
    match rest with
    | [] => s.beyond
    | a :: rest =>
      set rest
      match Octets.text operator with
      | "-z" => return a = []
      | "-n" => return a ≠ []
      | "-t" =>
        let _ ← number a
        return false
      | "-N" => return false
      | name => return Condition.onFile s.site name a

def one (s : Setting) : Reading Bool := do
  match ← get with
  | [] => s.beyond
  | a :: rest =>
    set rest
    return a ≠ []

/-- An operator between two operands. -/
def binary (s : Setting) : Reading Bool := do
  match ← get with
  | a :: operator :: b :: rest =>
    set rest
    compare s (Octets.text operator) a b
  | _ => s.beyond

def drop (count : Nat) : Reading Unit := modify (·.drop count)

def two (s : Setting) : Reading Bool := do
  match ← get with
  | ['!'] :: _ =>
    drop 1
    return !(← one s)
  | a :: _ => if isSwitch a then unary s else s.beyond
  | [] => s.beyond

/-- How many arguments stand before a closing parenthesis; all of them do if that is far. -/
def countInside (rest : List Octets) : Nat :=
  let count := 1 + (rest.tail.takeWhile (· ≠ [')'])).length
  if 4 < count then rest.length else count

/-- A part of an expression. -/
def term (s : Setting) (inner : (count : Nat) → Reading Bool) : (steps : Nat) → Reading Bool
  | 0 => s.beyond
  | steps + 1 => do
    match ← get with
    | ['!'] :: rest =>
      if rest = [] then s.beyond
      set rest
      return !(← term s inner steps)
    | ['('] :: rest =>
      if rest = [] then s.beyond
      set rest
      let result ← inner (countInside rest)
      match ← get with
      | [')'] :: rest =>
        set rest
        return result
      | a :: _ => throw (cited [')'] ++ " expected, found " ++ cited a)
      | [] => throw (cited [')'] ++ " expected")
    | a :: rest =>
      if rest.length ≥ 2 && (rest.head?.any isBinary) then binary s
      else if isSwitch a then unary s
      else one s
    | [] => s.beyond

/-- Parts that are joined by `-a` and, less tightly, by `-o`. -/
def expression (s : Setting) (inner : (count : Nat) → Reading Bool) (steps : Nat) : Reading Bool :=
  Condition.disjunction (Condition.conjunction (term s inner steps) steps) steps

def three (s : Setting) (inner : (count : Nat) → Reading Bool) (steps : Nat) : Reading Bool := do
  match ← get with
  | a :: operator :: b :: _ =>
    if isBinary operator then binary s
    else if a = ['!'] then
      drop 1
      return !(← two s)
    else if a = ['('] && b = [')'] then
      drop 1
      let result ← one s
      drop 1
      return result
    else if operator = ['-', 'a'] || operator = ['-', 'o'] then expression s inner steps
    else throw (cited operator ++ ": binary operator expected")
  | _ => s.beyond

/-- Reads so many arguments as a condition. -/
def ofCount (s : Setting) : (steps count : Nat) → Reading Bool
  | 0, _ => s.beyond
  | steps + 1, count => do
    let inner := ofCount s steps
    let rest ← get
    match count with
    | 1 => one s
    | 2 => two s
    | 3 => three s inner (steps + 1)
    | 4 =>
      if rest.head? = some ['!'] then
        drop 1
        return !(← three s inner (steps + 1))
      else if rest.head? = some ['('] && rest[3]? = some [')'] then
        drop 1
        let result ← two s
        drop 1
        return result
      else expression s inner (steps + 1)
    | _ => expression s inner (steps + 1)

/-- Whether the condition that the arguments state holds. -/
def holds (site : Site) (arguments : List Octets) : Except String Bool := do
  if arguments = [] then return false
  let s : Setting := ⟨site, arguments.getLast?.getD []⟩
  match ← (ofCount s (arguments.length + 1) arguments.length).run arguments with
  | (result, []) => return result
  | (_, extra :: _) => throw ("extra argument " ++ cited extra)

/-- Tests a condition; the tool may be called by a bracket, which is closed by another one. -/
def test (bracket : Bool) (arguments : List Octets) : Tool Unit := do
  if bracket && arguments.getLast? ≠ some [']'] then complainWith 2 ("missing " ++ cited [']'])
  else match holds (← site) (if bracket then arguments.dropLast else arguments) with
    | .ok result => setStatus (if result then 0 else 1)
    | .error message => complainWith 2 message

end ScopedCheck.Script.Tool.Conditions
