import ScopedCheck.FileSystem.Site
import ScopedCheck.Script.Octets

namespace ScopedCheck.Script.Condition

def unaryOperators : List String :=
  ["-r", "-w", "-x", "-e", "-f", "-d", "-c", "-b", "-p", "-u", "-g", "-k", "-s", "-t", "-z", "-n",
   "-h", "-O", "-G", "-L", "-S"]

def binaryOperators : List String :=
  ["=", "!=", "<", ">", "-eq", "-ne", "-ge", "-gt", "-le", "-lt", "-nt", "-ot", "-ef"]

def isUnary (a : Octets) : Bool := unaryOperators.contains (String.ofList a)

def isBinary (a : Octets) : Bool := binaryOperators.contains (String.ofList a)

abbrev Testing := StateT (List Octets) (Except String)

def number (a : Octets) : Testing Int :=
  match Octets.int? false a with
  | some n => return n
  | none => throw ("Illegal number: " ++ Octets.text a)

/-- A property of a file. -/
def onFile (site : Site) (operator : String) (a : Octets) : Bool :=
  let path : Path := ⟨Octets.text a⟩
  let attributes := match site.node path with
    | .ok (.file _ attributes) => some attributes
    | _ => none
  let hasMode (bits : Nat) : Bool := match site.node path with
    | .ok (.file _ attributes) => Nat.land attributes.mode bits ≠ 0
    | .ok (.directory _ mode) => Nat.land mode bits ≠ 0
    | _ => false
  match operator with
  | "-h" | "-L" => match site.find false path with
    | .ok (_, .link _) => true
    | _ => false
  | "-c" => (site.node path).toOption.any Node.isDevice
  | "-p" => attributes.any fun a => a.kind = .pipe
  | "-f" => site.isFile path
  | "-d" => (site.node path).toOption.any Node.isDirectory
  | "-s" => match site.node path with
    | .ok (.file content _) => content ≠ []
    | .ok (.directory ..) => true
    | _ => false
  | "-r" => site.permits .read path
  | "-w" => site.permits .write path
  | "-x" => site.permits .enter path
  | "-u" => hasMode 0o4000
  | "-g" => hasMode 0o2000
  | "-k" => hasMode 0o1000
  | "-b" | "-S" => false
  | _ => site.exists? path

/-- When the file at a path was changed. -/
def modified? (site : Site) (a : Octets) : Option Int :=
  match site.node ⟨Octets.text a⟩ with
  | .ok (.file _ attributes) => some attributes.modified
  | .ok _ => some 0
  | .error _ => none

/-- Whether paths lead to the same file. -/
def isSame (site : Site) (a b : Octets) : Bool :=
  match site.find true ⟨Octets.text a⟩, site.find true ⟨Octets.text b⟩ with
  | .ok (_, .file _ x), .ok (_, .file _ y) => x.identity = y.identity
  | .ok (p, _), .ok (q, _) => p = q
  | _, _ => false

/-- Whether the file at the first path was changed after the one at the second. -/
def isNewer (site : Site) (a b : Octets) : Bool :=
  match modified? site a, modified? site b with
  | some m, some n => n < m
  | _, _ => false

def compare (site : Site) (operator : String) (a b : Octets) : Testing Bool := do
  match operator with
  | "=" => return a = b
  | "!=" => return a ≠ b
  | "<" => return decide (a < b)
  | ">" => return decide (b < a)
  | "-eq" => return (← number a) = (← number b)
  | "-ne" => return (← number a) ≠ (← number b)
  | "-ge" => return (← number a) ≥ (← number b)
  | "-gt" => return (← number a) > (← number b)
  | "-le" => return (← number a) ≤ (← number b)
  | "-lt" => return (← number a) < (← number b)
  | "-ef" => return isSame site a b
  | "-nt" => return isNewer site a b
  | _ => return isNewer site b a

/-- Whether the first of the texts is an operand although it looks like an operator. -/
def isOperand (rest : List Octets) : Bool :=
  match rest with
  | [] => true
  | [_] => false
  | b :: _ => isBinary b

def unary (site : Site) (operator : String) (a : Octets) : Testing Bool := do
  match operator with
  | "-z" => return a = []
  | "-n" => return a ≠ []
  | "-t" =>
    let _ ← number a
    return false
  | _ => return onFile site operator a

/-- A single condition. -/
def primary (site : Site) (inner : Testing Bool) : Testing Bool := do
  match ← get with
  | [] => return false
  | a :: rest =>
    if a = ['('] && rest ≠ [] then
      set rest
      if rest.head? = some [')'] then
        set rest.tail
        return false
      let result ← inner
      match ← get with
      | [')'] :: rest =>
        set rest
        return result
      | _ => throw "closing paren expected"
    else if isUnary a && !isOperand rest then
      match rest with
      | [] => throw (Octets.text a ++ ": argument expected")
      | b :: rest =>
        set rest
        unary site (String.ofList a) b
    else match rest with
      | o :: more =>
        if isBinary o then
          match more with
          | [] => throw (Octets.text o ++ ": argument expected")
          | b :: rest =>
            set rest
            compare site (String.ofList o) a b
        else
          set rest
          return a ≠ []
      | [] =>
        set rest
        return a ≠ []

/-- A condition that may be negated. -/
def negated (site : Site) (inner : Testing Bool) : (steps : Nat) → Testing Bool
  | 0 => return false
  | steps + 1 => do
    match ← get with
    | ['!'] :: rest =>
      set rest
      return !(← negated site inner steps)
    | _ => primary site inner

/-- Conditions that must all hold. -/
def conjunction (operand : Testing Bool) : (steps : Nat) → Testing Bool
  | 0 => operand
  | steps + 1 => do
    let first ← operand
    match ← get with
    | ['-', 'a'] :: rest =>
      set rest
      return (← conjunction operand steps) && first
    | _ => return first

def disjunction (operand : Testing Bool) : (steps : Nat) → Testing Bool
  | 0 => operand
  | steps + 1 => do
    let first ← operand
    match ← get with
    | ['-', 'o'] :: rest =>
      set rest
      return (← disjunction operand steps) || first
    | _ => return first

def anyCondition (site : Site) : (steps : Nat) → Testing Bool
  | 0 => return false
  | steps + 1 =>
    let inner := anyCondition site steps
    disjunction (conjunction (negated site inner (steps + 1)) (steps + 1)) (steps + 1)

/-- Whether the condition that all the arguments state holds. -/
def whole (site : Site) (arguments : List Octets) : Except String Bool := do
  let (result, rest) ← (anyCondition site (arguments.length + 1)).run arguments
  if rest = [] then return result
  else
    let last := (arguments[arguments.length - rest.length - 1]?).getD []
    throw (if last = [] then "unexpected operator" else Octets.text last ++ ": unexpected operator")

/-- Whether the condition that the arguments state holds. Few arguments are read by their number
first: three with an operator between them, and those that are negated or stand in parentheses. -/
def holds (site : Site) : List Octets → Except String Bool
  | [] => return false
  | a :: rest => do
    let few := rest.length = 2 || rest.length = 3
    match rest with
    | [o, b] =>
      if isBinary o then
        let (result, _) ← (compare site (String.ofList o) a b).run []
        return result
    | _ => pure ()
    if few && a = ['('] && rest.getLast? = some [')'] then whole site rest.dropLast
    else if few && a = ['!'] then return !(← holds site rest)
    else whole site (a :: rest)

end ScopedCheck.Script.Condition
