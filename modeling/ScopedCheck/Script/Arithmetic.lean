import ScopedCheck.Script.Octets

namespace ScopedCheck.Script

inductive Expression where
  | number (value : Int)
  | named (name : String)
  | assign (name : String) (operator : Option String) (value : Expression)
  | unary (operator : Char) (operand : Expression)
  | binary (operator : String) (left right : Expression)
  | conditional (condition yes no : Expression)
  /-- What should follow is missing. -/
  | broken (operand : Expression) (message : String)
  /-- An operand is missing. -/
  | missing
  deriving Repr, Inhabited

namespace Expression

inductive Token where
  | number (value : Int)
  | name (text : String)
  | symbol (text : String)
  deriving DecidableEq, Repr

def symbols : List String :=
  ["<<=", ">>=", "&&", "||", "==", "!=", "<=", ">=", "<<", ">>", "+=", "-=", "*=", "/=", "%=", "&=",
   "|=", "^=", "+", "-", "*", "/", "%", "<", ">", "=", "!", "~", "&", "|", "^", "(", ")", "?", ":"]

/-- The tokens of an expression; what is none of them is a symbol by itself, which fits nowhere. -/
def tokens : (steps : Nat) → Octets → List Token
  | 0, _ => []
  | _, [] => []
  | steps + 1, c :: cs =>
    if c = ' ' || c = '\t' || c = '\n' then tokens steps cs
    else if c.isDigit then
      let (n, rest) := Octets.spanPrefixed (c :: cs)
      .number (min n Octets.maxWhole) :: tokens steps rest
    else if Octets.isNameStart c then
      .name (Octets.text ((c :: cs).takeWhile Octets.isNameChar))
        :: tokens steps ((c :: cs).dropWhile Octets.isNameChar)
    else match symbols.find? fun s => s.toList.isPrefixOf (c :: cs) with
      | some s => .symbol s :: tokens steps ((c :: cs).drop s.length)
      | none => .symbol (String.singleton c) :: tokens steps cs

/-- The binary operators, the loosest first. -/
def levels : List (List String) :=
  [["||"], ["&&"], ["|"], ["^"], ["&"], ["==", "!="], ["<", ">", "<=", ">="], ["<<", ">>"],
   ["+", "-"], ["*", "/", "%"]]

def assignments : List (String × Option String) :=
  [("=", none), ("+=", some "+"), ("-=", some "-"), ("*=", some "*"), ("/=", some "/"),
   ("%=", some "%"), ("<<=", some "<<"), (">>=", some ">>"), ("&=", some "&"), ("|=", some "|"),
   ("^=", some "^")]

/-- A reader of tokens. Where it finds a mistake it leaves none of them. -/
abbrev Reading := StateM (List Token)

def next? : Reading (Option Token) := do
  match ← get with
  | [] => return none
  | t :: rest =>
    set rest
    return some t

/-- Gives up after an operand. -/
def breakAfter (operand : Expression) (message : String) : Reading Expression := do
  set ([] : List Token)
  return .broken operand message

def giveUp : Reading Expression := do
  set ([] : List Token)
  return .missing

def acceptOne (texts : List String) : Reading (Option String) := do
  match ← get with
  | .symbol s :: rest =>
    if texts.contains s then
      set rest
      return some s
    else return none
  | _ => return none

/-- A number, a variable, or an expression in parentheses, after signs and negations. -/
def readUnary (inner : Reading Expression) : (steps : Nat) → Reading Expression
  | 0 => giveUp
  | steps + 1 => do
    match ← next? with
    | some (.number n) => return .number n
    | some (.name text) => return .named text
    | some (.symbol "(") =>
      let e ← inner
      if (← acceptOne [")"]).isSome then return e else breakAfter e "expecting ')'"
    | some (.symbol s) =>
      if ["+", "-", "!", "~"].contains s then
        return .unary (s.toList.headD '+') (← readUnary inner steps)
      else giveUp
    | none => giveUp

/-- Operands that are joined by the operators of one level. -/
def joinLevel (operators : List String) (operand : Reading Expression) :
    (steps : Nat) → Expression → Reading Expression
  | 0, left => return left
  | steps + 1, left => do
    match ← acceptOne operators with
    | some o =>
      let right ← operand
      joinLevel operators operand steps (.binary o left right)
    | none => return left

def readLevel (inner : Reading Expression) (steps : Nat) : List (List String) → Reading Expression
  | [] => readUnary inner steps
  | operators :: tighter => do
    let first ← readLevel inner steps tighter
    joinLevel operators (readLevel inner steps tighter) steps first

/-- Assignments and conditions, which bind loosest and to the right. The last part of a condition is
no assignment. -/
def readAny : (assigns : Bool) → (steps : Nat) → Reading Expression
  | _, 0 => giveUp
  | assigns, steps + 1 => do
    let conditional : Reading Expression := do
      let condition ← readLevel (readAny true steps) (steps + 1) levels
      if (← acceptOne ["?"]).isNone then return condition
      let yes ← readAny true steps
      if (← acceptOne [":"]).isNone then
        let message := "expecting ':'"
        return .conditional condition (← breakAfter yes message) (.broken (.number 0) message)
      return .conditional condition yes (← readAny false steps)
    match ← get with
    | .name text :: .symbol s :: rest =>
      match if assigns then assignments.lookup s else none with
      | some operator =>
        set rest
        return .assign text operator (← readAny true steps)
      | none => conditional
    | _ => conditional

def read (text : Octets) : Expression :=
  let all := tokens (text.length + 1) text
  let (e, rest) := (readAny true (all.length + 1)).run all
  if rest = [] then e else .broken e "expecting EOF"

def missingMessage : String := "expecting primary"

/-- What is wrong in a part that is not evaluated. -/
def fault? : Expression → Option String
  | number _ | named _ => none
  | assign _ _ value => value.fault?
  | unary _ operand => operand.fault?
  | binary _ left right => left.fault? <|> right.fault?
  | conditional condition yes no => condition.fault? <|> yes.fault? <|> no.fault?
  | broken operand message => operand.fault? <|> some message
  | missing => some missingMessage

/-- The variables: what they hold before, and the assignments since, the last one first. -/
structure Memory where
  initial : String → Octets
  assigned : List (String × Int) := []

/-- Why an expression has no value. -/
inductive Trouble where
  | told (message : String)
  /-- The text is wrong, or what it asks for cannot be computed. -/
  | inText (message : String)
  /-- The quotient does not fit into a word, and the processor refuses it. -/
  | overflow

abbrev Evaluation := StateT Memory (Except Trouble)

def wrap (n : Int) : Int := Int.bmod n 18446744073709551616

def truth (b : Bool) : Int := if b then 1 else 0

def valueOf (name : String) : Evaluation Int := do
  let memory ← get
  match memory.assigned.lookup name with
  | some n => return n
  | none =>
    match Octets.int? true (memory.initial name) with
    | some n => return n
    | none => throw (.told ("Illegal number: " ++ Octets.text (memory.initial name)))

/-- A word of 64 bits as a number without a sign. -/
def bits (n : Int) : Nat := (n % 18446744073709551616).toNat

/-- The least number of a word. -/
def least : Int := -9223372036854775808

/-- A quotient or a remainder, which are found together. -/
def divide (result : Int → Int → Int) (a b : Int) : Except Trouble Int :=
  if b = 0 then .error (.inText "division by zero")
  else if a = least && b = -1 then .error .overflow
  else .ok (result a b)

def applyBinary (operator : String) (a b : Int) : Except Trouble Int :=
  match operator with
  | "+" => .ok (wrap (a + b))
  | "-" => .ok (wrap (a - b))
  | "*" => .ok (wrap (a * b))
  | "/" => divide Int.tdiv a b
  | "%" => divide Int.tmod a b
  | "<<" => .ok (wrap (Int.ofNat (bits a <<< (bits b % 64))))
  | ">>" => .ok (a >>> (bits b % 64))
  | "&" => .ok (wrap (Int.ofNat (bits a &&& bits b)))
  | "|" => .ok (wrap (Int.ofNat (bits a ||| bits b)))
  | "^" => .ok (wrap (Int.ofNat (bits a ^^^ bits b)))
  | "==" => .ok (truth (a = b))
  | "!=" => .ok (truth (a ≠ b))
  | "<" => .ok (truth (a < b))
  | ">" => .ok (truth (a > b))
  | "<=" => .ok (truth (a ≤ b))
  | _ => .ok (truth (a ≥ b))

def applyUnary (operator : Char) (a : Int) : Int :=
  match operator with
  | '-' => wrap (-a)
  | '!' => truth (a = 0)
  | '~' => -a - 1
  | _ => a

/-- Leaves a part out, which has to be right all the same. -/
def skip (e : Expression) : Evaluation Unit := do
  if let some message := e.fault? then throw (.inText message)

def eval : Expression → Evaluation Int
  | number value => return value
  | named name => valueOf name
  | assign name operator value => do
    let value ← eval value
    let result ← match operator with
      | none => pure value
      | some o => do
        match applyBinary o (← valueOf name) value with
        | .ok n => pure n
        | .error e => throw e
    modify fun memory => { memory with assigned := (name, result) :: memory.assigned }
    return result
  | unary operator operand => return applyUnary operator (← eval operand)
  | binary operator left right => do
    let a ← eval left
    if operator = "||" && a ≠ 0 then
      skip right
      return 1
    else if operator = "&&" && a = 0 then
      skip right
      return 0
    else if operator = "||" || operator = "&&" then return truth ((← eval right) ≠ 0)
    else
      match applyBinary operator a (← eval right) with
      | .ok n => return n
      | .error e => throw e
  | conditional condition yes no => do
    if (← eval condition) ≠ 0 then
      let n ← eval yes
      skip no
      return n
    else
      skip yes
      eval no
  | broken operand message => do
    let _ ← eval operand
    throw (.inText message)
  | missing => throw (.inText missingMessage)

end Expression

/-- The value of an expression, and the assignments in it, first to last. -/
def evaluate (initial : String → Octets) (text : Octets) :
    Except Expression.Trouble (Int × List (String × Int)) := do
  match (Expression.eval (Expression.read text)).run { initial := initial } with
  | .ok (n, memory) => return (n, memory.assigned.reverse)
  | .error (.inText message) =>
    throw (.told ("arithmetic expression: " ++ message ++ ": \"" ++ Octets.text text ++ "\""))
  | .error e => throw e

end ScopedCheck.Script
