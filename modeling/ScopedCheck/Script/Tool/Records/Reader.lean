import ScopedCheck.Script.Tool.Records.Program
import ScopedCheck.Script.Tool.Records.Token

namespace ScopedCheck.Script.Tool.Records.Reader

inductive Use where
  | single | table
  deriving DecidableEq

/-- A call of a function, for a look at its arguments when all functions are known. -/
structure Call where
  function : String
  count : Nat
  line : Nat

structure Source where
  token : Token := .newline
  /-- The token as messages show it. -/
  shown : String := "end of line"
  /-- The text that the token begins, and what comes after the token. -/
  start : Octets := []
  rest : Octets
  line : Nat := 1
  nextLine : Nat := 1
  parentheses : Nat := 0
  braces : Nat := 0
  /-- Whether a mark for more or for a pipe tells where output goes. -/
  printing : Bool := false
  /-- The function that is being read, with its parameters. -/
  owner : Option (String × List String) := none
  /-- Whether the statements are for single records. -/
  perRecord : Bool := false
  loops : Nat := 0
  /-- The mistakes, last first. -/
  mistakes : List String := []
  uses : List (String × Use) := []
  /-- The parameters that are tables, and those that are tables if others are. -/
  tables : List (String × Nat) := []
  links : List ((String × Nat) × (String × Nat)) := []
  calls : List Call := []
  functions : List (String × Nat) := []

inductive Stuck where
  /-- The statement makes no sense. -/
  | statement
  /-- Nothing more can be read. -/
  | over

abbrev Reading := ExceptT Stuck (StateM Source)

/-- How many mistakes are told at most. -/
def maxMistakes : Nat := 5

def note (message : String) : Reading Unit := do
  modify fun s => { s with mistakes := message :: s.mistakes }
  if maxMistakes ≤ (← get).mistakes.length then throw .over

def noteLine (message : String) : Reading Unit := do
  note ("line " ++ toString (← get).line ++ ": " ++ message)

def giveUp {α : Type} (message : String) : Reading α := do
  noteLine message
  throw .over

/-- Tells that a token is out of place. -/
def misplaced {α : Type} : Reading α := do
  let s ← get
  let ends : Bool := s.token == .newline || s.token == .finish || s.shown = ";" || s.shown = "\x7d"
  if s.parentheses ≠ 0 && ends then noteLine ("missing ) near " ++ s.shown)
  else noteLine ("syntax error at or near " ++ s.shown)
  throw .statement

/-- Goes on to the next line that has something in it. -/
def skipLines : (steps : Nat) → Reading Unit
  | 0 => return
  | steps + 1 => do
    let s ← get
    let (lines, rest) := Token.skipBlanks (s.rest.length + 1) s.rest
    match rest with
    | '\n' :: rest =>
      set { s with rest := rest, nextLine := s.nextLine + lines + 1 }
      skipLines steps
    | _ => set { s with rest := rest, nextLine := s.nextLine + lines }

def skipAllLines : Reading Unit := do
  skipLines ((← get).rest.length + 1)

/-- The tokens after which lines may end without a meaning. -/
def continues (t : Token) : Bool :=
  t == .newline || t == .word "else" || t == .word "do" ||
    ["&&", "||", ",", ";", "\x7b"].any fun m => t == .mark m

/-- Whether a statement is over before a brace that closes. -/
def isOver (t : Token) : Bool := t == .newline || t == .mark ";" || t == .mark "\x7d"

def describe (t : Token) (text : Octets) : String :=
  match t with
  | .newline | .finish => "end of line"
  | .text t => Octets.text t
  | _ => Octets.text text

/-- Goes on to the next token. Before a brace that closes a semicolon may be missing. -/
def advance : (steps : Nat) → Reading Unit
  | 0 => throw .over
  | steps + 1 => do
    let s ← get
    let (lines, text) := Token.skipBlanks (s.rest.length + 1) s.rest
    let line := s.nextLine + lines
    let s := { s with rest := text, start := text, line := line, nextLine := line }
    set s
    match Token.first text with
    | .error (.unexpected c) =>
      set { s with rest := text.tail }
      note (toString line ++ ": unexpected character '" ++ Octets.text [c] ++ "'")
      throw .statement
    | .error (.endless message) => giveUp message
    | .ok (token, rest) =>
      let shown := describe token (text.take (text.length - rest.length))
      let next := { s with token := token, shown := shown, rest := rest }
      if token == .mark "\x7d" && s.braces = 0 then
        set { s with rest := rest }
        noteLine "extra '\x7d'"
        advance steps
      else if token == .mark "\x7d" && !isOver s.token then
        set { s with token := .mark ";", shown := "\x7d" }
      else if token == .mark "\x7d" then
        set { next with braces := s.braces - 1 }
        if s.braces = 1 then
          let (lines, after) := Token.skipBlanks (rest.length + 1) rest
          if lines = 0 && after.head? = some ';' then modify fun s => { s with rest := after.tail }
        skipAllLines
      else if token == .mark ")" && s.parentheses = 0 then
        set { s with rest := rest }
        noteLine "extra ')'"
        advance steps
      else
        let parentheses := if token == .mark "(" then s.parentheses + 1
          else if token == .mark ")" then s.parentheses - 1 else s.parentheses
        let braces := if token == .mark "\x7b" then s.braces + 1 else s.braces
        let nextLine := if token == .newline then line + 1 else line
        set { next with parentheses := parentheses, braces := braces, nextLine := nextLine }
        if token == .finish && s.braces ≠ 0 then giveUp "missing \x7d near end of file"
        if continues token then skipAllLines

def goOn : Reading Unit := do advance ((← get).rest.length + 2)

def looksAt (m : String) : Reading Bool := return (← get).token == .mark m

def looksAtWord (w : String) : Reading Bool := return (← get).token == .word w

/-- Takes a mark if it comes next. -/
def accept (m : String) : Reading Bool := do
  if ← looksAt m then
    goOn
    return true
  else return false

def expect (m : String) : Reading Unit := do
  if !(← accept m) then misplaced

/-- Takes a parenthesis that closes, after which lines may end. -/
def expectClosing : Reading Unit := do
  if ← looksAt ")" then
    skipAllLines
    goOn
  else misplaced

def looksAtEnd : Reading Bool := return (← looksAt ";") || (← get).token == .newline

/-- Takes the end of a statement. -/
def expectEnd : Reading Unit := do
  if ← looksAtEnd then goOn else misplaced

/-- Whether the mark that comes next tells where output goes. -/
def looksAtOutlet : Reading Bool := do
  let s ← get
  return s.printing && s.parentheses = 0 && [">", ">>", "|"].any fun m => s.token == .mark m

/-- Notes what a name is used for, and tells what it stands for. -/
def resolve (name : String) (use : Option Use) : Reading Name := do
  let s ← get
  match s.owner with
  | some (function, parameters) =>
    if let some place := parameters.idxOf? name then
      if use = some .table then
        modify fun s => { s with tables := (function, place) :: s.tables }
      return .own place
  | none => pure ()
  if let some use := use then
    match s.uses.lookup name with
    | some known =>
      if known ≠ use then
        let what := if known = .table then "array " else "variable "
        noteLine ("illegal reference to " ++ what ++ name)
    | none => set { s with uses := (name, use) :: s.uses }
  return .shared name

/-- The name of a table. -/
def table : Reading Name := do
  match (← get).token with
  | .name n _ =>
    goOn
    resolve n (some .table)
  | _ => misplaced

/-- Reads an expression between slashes; the token is the first slash. -/
def slashed : Reading Regex := do
  let s ← get
  match Token.upToSlash (s.start.length + 1) false s.start.tail with
  | none => giveUp ("runaway regular expression /" ++ Token.shownStart s.start.tail)
  | some (text, rest) =>
    set { s with rest := rest, token := .text text }
    goOn
    match Pattern.read text with
    | .ok r => return r
    | .error message =>
      noteLine ("regular expression compile failed (" ++ message ++ ")\n" ++ Octets.text text)
      return .empty

/-- How many arguments a function takes. -/
def arity : String → Nat × Nat
  | "substr" => (2, 3)
  | "split" => (2, 3)
  | "sub" | "gsub" => (2, 3)
  | "index" | "match" | "atan2" => (2, 2)
  | "length" | "srand" | "fflush" => (0, 1)
  | "rand" | "systime" => (0, 0)
  | "strftime" => (0, 3)
  | "mktime" => (1, 2)
  | "sprintf" => (1, 1000)
  | _ => (1, 1)

def comparisonOf : String → Option Comparison
  | "<" => some .less
  | "<=" => some .lessOrEqual
  | "==" => some .equal
  | "!=" => some .unequal
  | ">" => some .greater
  | ">=" => some .greaterOrEqual
  | _ => none

def operatorOf : String → Option Operator
  | "+" => some .plus
  | "-" => some .minus
  | "*" => some .times
  | "/" => some .divided
  | "%" => some .remainder
  | "^" => some .power
  | _ => none

/-- The operator of a mark that changes a value by it. -/
def updateOf (m : String) : Option Operator :=
  if m.length = 2 && m.endsWith "=" then operatorOf (String.ofList (m.toList.take 1)) else none

/-- The mark that comes next, if it is one. -/
def markAhead : Reading String := do
  match (← get).token with
  | .mark m => return m
  | _ => return ""

/-- Whether the next token begins an expression that can be joined to one before it. -/
def beginsOperand : Reading Bool := do
  match (← get).token with
  | .number _ | .text _ | .name _ _ | .builtin _ | .word "getline" => return true
  | .mark m => return ["(", "$", "!", "++", "--"].contains m
  | _ => return false

/-- Texts that are used as expressions are checked when they are read. -/
def checkText (e : Expression) : Reading Expression := do
  match e with
  | .text t =>
    match Pattern.read t with
    | .ok _ => return e
    | .error message =>
      noteLine ("regular expression compile failed (" ++ message ++ ")\n" ++ Octets.text t)
      return e
  | _ => return e

/-- Expressions with commas between them, up to a parenthesis that closes. -/
def listed (expression : Reading Expression) : (steps : Nat) → Reading (List Expression)
  | 0 => throw .over
  | steps + 1 => do
    let first ← expression
    if ← accept "," then return first :: (← listed expression steps) else return [first]

/-- The keys in brackets. -/
def keys (expression : Reading Expression) : Reading (List Expression) := do
  let found ← listed expression ((← get).rest.length + 2)
  expect "]"
  return found

/-- A name, an element or a field, whichever comes next. -/
def place (expression factor : Reading Expression) : Reading Expression := do
  match (← get).token with
  | .name n _ =>
    goOn
    if ← accept "[" then
      let array ← resolve n (some .table)
      return .element array (← keys expression)
    else return .name (← resolve n (some .single))
  | .mark "$" =>
    goOn
    return .field (← factor)
  | _ => misplaced

/-- Whether a place comes next. -/
def looksAtPlace : Reading Bool := do
  let s ← get
  match s.token with
  | .name n opens => return !opens && (s.functions.lookup n).isNone
  | .mark "$" => return true
  | _ => return false

/-- The arguments of a call, up to the parenthesis that closes. A name alone may be a table. -/
def arguments (expression : Reading Expression) (function : String) :
    (steps number : Nat) → Reading (List Expression)
  | 0, _ => throw .over
  | steps + 1, number => do
    let before ← get
    let alone : Option String ← match before.token with
      | .name n false => do
        goOn
        let single : Bool := (← looksAt ",") || (← looksAt ")")
        if !single then set before
        pure (if single then some n else none)
      | _ => pure none
    let argument ← match alone with
      | some n => do
        let name ← resolve n none
        match name, before.owner with
        | .own place, some (owner, _) =>
          modify fun s => { s with links := ((owner, place), (function, number)) :: s.links }
        | _, _ => pure ()
        pure (Expression.name name)
      | none => expression
    if ← accept "," then return argument :: (← arguments expression function steps (number + 1))
    else return [argument]

/-- The arguments of a function of the language, in parentheses. -/
def builtinArguments (expression : Reading Expression) (f : String) : Reading (List Expression) := do
  if !(← looksAt "(") then
    if f = "length" then return [] else misplaced
  goOn
  if ← accept ")" then return []
  let steps := (← get).rest.length + 2
  let isName (n : Nat) : Bool := (f = "split" && n = 1) || (f = "length" && n = 0)
  let rec go (steps number : Nat) : Reading (List Expression) := do
    match steps with
    | 0 => throw .over
    | steps + 1 =>
      let before ← get
      let named : Option Expression ← match before.token, isName number with
        | .name n _, true => do
          goOn
          if (← looksAt ",") || (← looksAt ")") then
            let name ← resolve n (if f = "split" then some .table else none)
            pure (some (Expression.name name))
          else
            set before
            pure none
        | _, _ => pure none
      let argument ← match named with
        | some e => pure e
        | none => expression
      if ← accept "," then return argument :: (← go steps (number + 1)) else return [argument]
  let found ← go steps 0
  expect ")"
  return found

/-- Extends an expression as long as something comes that extends it. -/
def extended (extend : Expression → Reading (Option Expression)) :
    (steps : Nat) → Expression → Reading Expression
  | 0, e => return e
  | steps + 1, e => do
    match ← extend e with
    | some e => extended extend steps e
    | none => return e

/-- An expression followed by what extends it. -/
def chain (first : Reading Expression) (extend : Expression → Reading (Option Expression)) :
    Reading Expression := do
  let e ← first
  extended extend ((← get).rest.length + 2) e

/-- How deep expressions may lie within each other. -/
def maxDepth : Nat := 100

/-- What comes after a mark for a field. -/
def prefixed (factor : Reading Expression → Reading Expression) : (depth : Nat) → Reading Expression
  | 0 => throw .over
  | depth + 1 => do
    match ← markAhead with
    | "!" => goOn; return .not (← prefixed factor depth)
    | "-" => goOn; return .minus (← prefixed factor depth)
    | "+" => goOn; return .plus (← prefixed factor depth)
    | _ => factor (prefixed factor depth)

/-- What is read into, where a line is read into something. -/
def target? (outer indexed : Reading Expression) : Reading (Option Expression) := do
  if ← looksAtPlace then return some (← place outer indexed) else return none

/-- The smallest expressions. They may have whole expressions in them, operands without signs, and
those that tell which field is meant. -/
def factor (outer operand indexed : Reading Expression) : Reading Expression := do
  let steps := (← get).rest.length + 2
  match (← get).token with
  | .number x => goOn; return .number x
  | .text t => goOn; return .text t
  | .mark "/" | .mark "/=" => return .pattern (← slashed)
  | .mark "$" => goOn; return .field (← indexed)
  | .mark "++" => goOn; return .count true true (← place outer indexed)
  | .mark "--" => goOn; return .count false true (← place outer indexed)
  | .mark "(" =>
    goOn
    let found ← listed outer steps
    expect ")"
    match found with
    | [e] => return .grouped e
    | found =>
      if ← looksAtWord "in" then
        goOn
        return .isKey found (← table)
      else misplaced
  | .word "getline" =>
    goOn
    let target ← target? outer indexed
    if ← accept "<" then return .line target (some (.file, ← operand)) else return .line target none
  | .builtin f =>
    let line := (← get).line
    goOn
    let found ← builtinArguments outer f
    let (least, most) := arity f
    if found.length < least || most < found.length then
      note ("line " ++ toString line ++ ": wrong number of arguments in call to " ++ f)
    return .builtin f found
  | .name n opens =>
    let s ← get
    let isFunction := (s.functions.lookup n).isSome || (opens && (s.uses.lookup n).isNone)
    if isFunction then
      let line := s.line
      goOn
      expect "("
      let found ← if ← looksAt ")" then pure [] else arguments outer n steps 0
      expect ")"
      modify fun s => { s with calls := ⟨n, found.length, line⟩ :: s.calls }
      return .call n found
    else place outer indexed
  | _ => misplaced

/-- A factor, which may be counted up or down after it was looked at, and its power. -/
def powered (outer : Reading Expression) : (depth : Nat) → Reading Expression
  | 0 => throw .over
  | depth + 1 => do
    let operand := powered outer depth
    let e ← factor outer operand (prefixed (factor outer operand) maxDepth)
    let m ← markAhead
    let first ← if e.isPlace && (m = "++" || m = "--") then do
        goOn
        pure (.count (m = "++") false e)
      else pure e
    if ← accept "^" then
      let second ← match ← markAhead with
        | "!" => do goOn; pure (.not (← operand))
        | "-" => do goOn; pure (.minus (← operand))
        | "+" => do goOn; pure (.plus (← operand))
        | _ => operand
      return .arithmetic .power first second
    else return first

/-- An expression, and what is read from the command that it names. -/
def piped (outer : Reading Expression) : Reading Expression :=
  chain (powered outer maxDepth) fun e => do
    match ← looksAt "|", ← looksAtOutlet with
    | true, false =>
      goOn
      if !(← looksAtWord "getline") then misplaced
      goOn
      let operand := powered outer maxDepth
      let target ← target? outer (prefixed (factor outer operand) maxDepth)
      return some (.line target (some (.command, e)))
    | _, _ => return none

def signed (outer : Reading Expression) : (depth : Nat) → Reading Expression
  | 0 => throw .over
  | depth + 1 => do
    match ← markAhead with
    | "!" => goOn; return .not (← signed outer depth)
    | "-" => goOn; return .minus (← signed outer depth)
    | "+" => goOn; return .plus (← signed outer depth)
    | _ => piped outer

/-- Operands with some operators between them, the first two of which belong together. -/
def arithmetic (operand : Reading Expression) (marks : List String) : Reading Expression :=
  chain operand fun e => do
    let m ← markAhead
    match operatorOf m, marks.contains m with
    | some operator, true =>
      goOn
      return some (.arithmetic operator e (← operand))
    | _, _ => return none

def sum (outer : Reading Expression) : Reading Expression :=
  arithmetic (arithmetic (signed outer maxDepth) ["*", "/", "%"]) ["+", "-"]

/-- Expressions that are joined, or a place that is given a value. -/
def joined (outer : Reading Expression) : Reading Expression := do
  let first ← sum outer
  let m ← markAhead
  if first.isPlace && m = "=" then
    goOn
    return .assign first (← outer)
  match updateOf m, first.isPlace with
  | some operator, true =>
    goOn
    return .update operator first (← outer)
  | _, _ =>
    chain (return first) fun e => do
      if ← beginsOperand then return some (.join e (← sum outer)) else return none

def comparing (outer : Reading Expression) : Reading Expression :=
  chain (joined outer) fun e => do
    match comparisonOf (← markAhead), ← looksAtOutlet with
    | some c, false =>
      goOn
      return some (.compare c e (← joined outer))
    | _, _ => return none

def matching (outer : Reading Expression) : Reading Expression :=
  chain (comparing outer) fun e => do
    let m ← markAhead
    if m = "~" || m = "!~" then
      goOn
      return some (.isMatch (m = "~") e (← checkText (← comparing outer)))
    else return none

def membership (outer : Reading Expression) : Reading Expression :=
  chain (matching outer) fun e => do
    if ← looksAtWord "in" then
      goOn
      return some (.isKey [e] (← table))
    else return none

def conjunction (outer : Reading Expression) : Reading Expression :=
  chain (membership outer) fun e => do
    if ← accept "&&" then return some (.both e (← membership outer)) else return none

def disjunction (outer : Reading Expression) : Reading Expression :=
  chain (conjunction outer) fun e => do
    if ← accept "||" then return some (.any e (← conjunction outer)) else return none

def expression : (depth : Nat) → Reading Expression
  | 0 => throw .over
  | depth + 1 => do
    let outer := expression depth
    let test ← disjunction outer
    if ← accept "?" then
      let yes ← outer
      expect ":"
      return .choose test yes (← outer)
    else return test

def whole : Reading Expression := expression maxDepth

/-- What is printed, before a mark that tells where to. A list may be in parentheses. -/
def printed : Reading (List Expression) := do
  let before ← get
  let steps := before.rest.length + 2
  let attempt : Reading (Option (List Expression)) := do
    if !(← accept "(") then return none
    if ← accept ")" then return some []
    let found ← listed whole steps
    expect ")"
    if (← looksAtEnd) || (← looksAtOutlet) then return some found else return none
  let found ← tryCatch attempt fun _ => return none
  match found with
  | some found => return found
  | none =>
    set before
    if (← looksAtEnd) || (← looksAtOutlet) then return []
    listed whole steps

/-- Where output goes. -/
def outlet : Reading (Option (Outlet × Expression)) := do
  let isThere ← looksAtOutlet
  modify fun s => { s with printing := false }
  if !isThere then return none
  let kind := match ← markAhead with
    | ">" => Outlet.file
    | ">>" => .appended
    | _ => .command
  goOn
  return some (kind, ← whole)

/-- Skips what is left of a statement that makes no sense. -/
def skipStatement : (steps : Nat) → Reading Unit
  | 0 => throw .over
  | steps + 1 => do
    modify fun s => { s with parentheses := 0, printing := false }
    if (← get).token == .finish then throw .over
    else if ← looksAtEnd then
      let next : Reading Unit := goOn
      tryCatch next fun stuck => do
        match stuck with
        | .statement => skipStatement steps
        | .over => throw .over
    else
      let next : Reading Unit := goOn
      tryCatch next fun stuck => do
        match stuck with
        | .statement => pure ()
        | .over => throw .over
      skipStatement steps

/-- Reads a statement. After a mistake in it an empty one stands in its place. -/
def guarded (read : Reading Statement) : Reading Statement :=
  tryCatch read fun stuck => do
    match stuck with
    | .over => throw .over
    | .statement =>
      skipStatement ((← get).rest.length + 2)
      return .block []

def inLoop (read : Reading Statement) : Reading Statement := do
  modify fun s => { s with loops := s.loops + 1 }
  let body ← read
  modify fun s => { s with loops := s.loops - 1 }
  return body

def optional : Reading (Option Expression) := do
  if ← looksAtEnd then return none else some <$> whole

/-- Complains unless a statement is where it belongs. -/
def requires (holds : Source → Bool) (message : String) : Reading Unit := do
  if !holds (← get) then noteLine message

/-- The name and the table of a loop over keys, if that is what comes next. -/
def overKeys? : Reading (Option (Expression × Name)) := do
  let before ← get
  match before.token with
  | .name n _ =>
    goOn
    if ← looksAtWord "in" then
      goOn
      match (← get).token with
      | .name a _ =>
        goOn
        if ← looksAt ")" then
          let target ← resolve n (some .single)
          let array ← resolve a (some .table)
          expectClosing
          return some (.name target, array)
      | _ => pure ()
    set before
    return none
  | _ => return none

/-- The test after the body of a loop. After a mistake in it another one is looked for. -/
def testAfter : (steps : Nat) → Reading Expression
  | 0 => throw .over
  | steps + 1 => do
    let read : Reading Expression := do
      if !(← looksAtWord "while") then misplaced
      goOn
      expect "("
      let test ← whole
      expect ")"
      expectEnd
      return test
    tryCatch read fun stuck => do
      match stuck with
      | .over => throw .over
      | .statement =>
        skipStatement ((← get).rest.length + 2)
        testAfter steps

mutual

/-- The statements up to a brace that closes. -/
def statements : (fuel : Nat) → Reading (List Statement)
  | 0 => throw .over
  | fuel + 1 => do
    if ← accept "\x7d" then return []
    let first ← statement fuel
    return first :: (← statements fuel)

def statement : (fuel : Nat) → Reading Statement
  | 0 => throw .over
  | fuel + 1 => guarded do
    match (← get).token with
    | .mark "\x7b" =>
      goOn
      return .block (← statements fuel)
    | .mark ";" | .newline =>
      goOn
      return .block []
    | .word "if" =>
      goOn
      expect "("
      let test ← whole
      expectClosing
      let yes ← statement fuel
      if ← looksAtWord "else" then
        goOn
        return .branch test yes (some (← statement fuel))
      else return .branch test yes none
    | .word "while" =>
      goOn
      expect "("
      let test ← whole
      expectClosing
      return .loop none (some test) none (← inLoop (statement fuel))
    | .word "do" =>
      goOn
      let body ← inLoop (statement fuel)
      return .loopAfter body (← testAfter ((← get).rest.length + 2))
    | .word "for" =>
      goOn
      expect "("
      match ← overKeys? with
      | some (target, array) => return .forKeys target array (← inLoop (statement fuel))
      | none =>
        let first ← if ← looksAt ";" then pure none else some <$> whole
        expect ";"
        let test ← if ← looksAt ";" then pure none else some <$> whole
        expect ";"
        let step ← if ← looksAt ")" then pure none else some <$> whole
        expectClosing
        return .loop first test step (← inLoop (statement fuel))
    | .word "break" =>
      goOn
      requires (fun s => s.loops ≠ 0) "break statement outside of loop"
      expectEnd
      return .stopLoop
    | .word "continue" =>
      goOn
      requires (fun s => s.loops ≠ 0) "continue statement outside of loop"
      expectEnd
      return .nextRound
    | .word "next" =>
      goOn
      requires (fun s => s.perRecord || s.owner.isSome) "improper use of next"
      expectEnd
      return .next
    | .word "nextfile" =>
      goOn
      requires (fun s => s.perRecord || s.owner.isSome) "improper use of nextfile"
      expectEnd
      return .nextFile
    | .word "exit" =>
      goOn
      let value ← optional
      expectEnd
      return .leave value
    | .word "return" =>
      goOn
      let value ← optional
      requires (fun s => s.owner.isSome) "return outside function body"
      expectEnd
      return .giveBack value
    | .word "delete" =>
      goOn
      let array ← table
      let found ← if ← accept "[" then some <$> keys whole else pure none
      expectEnd
      return .remove array found
    | .word "print" =>
      modify fun s => { s with printing := true }
      goOn
      let values ← printed
      let target ← outlet
      expectEnd
      return .print values target
    | .word "printf" =>
      modify fun s => { s with printing := true }
      goOn
      let values ← printed
      if values.isEmpty then noteLine "no arguments in call to printf"
      let target ← outlet
      expectEnd
      return .format values target
    | _ =>
      let e ← whole
      expectEnd
      return .evaluate e

end

/-- The statements in braces. -/
def body : Reading (List Statement) := do
  expect "\x7b"
  statements (2 * (← get).rest.length + 10)

/-- The names in a list of parameters. -/
def parameters : (steps : Nat) → Reading (List String)
  | 0 => throw .over
  | steps + 1 => do
    match (← get).token with
    | .name n _ =>
      goOn
      if ← accept "," then return n :: (← parameters steps) else return [n]
    | _ => misplaced

def function : Reading Function := do
  goOn
  match (← get).token with
  | .name n _ =>
    goOn
    expect "("
    let found ← if ← looksAt ")" then pure [] else parameters ((← get).rest.length + 2)
    if let some repeated := found.find? fun p => 1 < found.count p then
      noteLine (repeated ++ " is duplicated in argument list")
    let s ← get
    if (s.functions.lookup n).isSome then noteLine ("redefinition of " ++ n)
    if (s.uses.lookup n).isSome then noteLine ("illegal reference to variable " ++ n)
    modify fun s => { s with functions := (n, found.length) :: s.functions, owner := some (n, found) }
    expectClosing
    let statements ← body
    modify fun s => { s with owner := none }
    return ⟨n, found, statements⟩
  | _ => misplaced

/-- What a rule without statements does. -/
def usual : List Statement := [.print [] none]

/-- Reads a part of a program into it. -/
def part (p : Program) : Reading Program := do
  match (← get).token with
  | .word "BEGIN" =>
    goOn
    return { p with before := p.before ++ [← body] }
  | .word "END" =>
    goOn
    return { p with after := p.after ++ [← body] }
  | .word "function" =>
    let f ← function
    return { p with functions := p.functions ++ [f] }
  | _ =>
    modify fun s => { s with perRecord := true }
    let condition ← if ← looksAt "\x7b" then pure Condition.always
      else do
        let first ← whole
        if ← accept "," then pure (Condition.between first (← whole)) else pure (Condition.holds first)
    let statements ← if ← looksAt "\x7b" then body
      else do
        expectEnd
        pure usual
    modify fun s => { s with perRecord := false }
    return { p with rules := p.rules ++ [⟨condition, statements⟩] }

def parts : (steps : Nat) → Program → Reading Program
  | 0, p => return p
  | steps + 1, p => do
    if (← get).token == .finish then return p
    let next ← part p
    parts steps next

/-- The parameters that are tables because of what they are given to. -/
def closure (links : List ((String × Nat) × (String × Nat))) :
    (rounds : Nat) → List (String × Nat) → List (String × Nat)
  | 0, found => found
  | rounds + 1, found =>
    let more := links.filterMap fun (giver, taker) =>
      if found.contains taker && !found.contains giver then some giver else none
    if more.isEmpty then found else closure links rounds (more.eraseDups ++ found)

/-- Looks at the calls once all functions are known. -/
def checkCalls : Reading Unit := do
  let s ← get
  if s.mistakes.isEmpty then
    for c in s.calls.reverse do
      match s.functions.lookup c.function with
      | none => noteLine ("function " ++ c.function ++ " never defined")
      | some count =>
        if count < c.count then
          note ("line " ++ toString c.line ++ ": too many arguments in call to " ++ c.function)

def program : Reading Program := do
  skipAllLines
  goOn
  let p ← parts ((← get).rest.length + 2) {}
  checkCalls
  let s ← get
  return { p with tables := closure s.links (s.links.length + 1) s.tables.eraseDups }

/-- The program that a text is, or the mistakes in it. -/
def read (text : Octets) : Except (List String) Program :=
  let text := if text.getLast? = some '\n' then text else text ++ ['\n']
  let (result, s) := program.run.run { rest := text }
  match result, s.mistakes with
  | .ok p, [] => .ok p
  | _, mistakes => .error mistakes.reverse

end ScopedCheck.Script.Tool.Records.Reader
