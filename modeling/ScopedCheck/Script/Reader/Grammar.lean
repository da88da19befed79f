import ScopedCheck.Script.Reader.Word

namespace ScopedCheck.Script.Reader

def redirections : List String := ["<<-", "<<", "<&", "<>", ">>", ">&", ">|", "<", ">"]

/-- The descriptor and the symbol of a redirection, if one comes next. -/
def acceptRedirection : Reader (Option (Option Nat × String)) := do
  let rest := (← get).rest
  let digits := (rest.take 1).takeWhile Char.isDigit
  let after := rest.drop digits.length
  match redirections.find? fun o => o.toList.isPrefixOf after with
  | none => return none
  | some o =>
    drop (digits.length + o.length)
    return some (digits.head?.map Octets.digit, o)

/-- The word that must come next. -/
def expectWord (nested : Nested) (wish : Option String) : Reader Word := do
  blanks
  let rest := (← get).rest
  let numbered := rest.head?.any Char.isDigit && rest.tail.head?.any fun c => c = '<' || c = '>'
  if numbered then refuse "redirection unexpected"
  match rest with
  | [] => unexpected wish
  | c :: _ => if endsWord c then unexpected wish else nested.word .bare

/-- The word that ends a here-document is taken as it stands. -/
def delimiterText (w : Word) : Octets :=
  w.flatMap fun part => match part with
    | .text cs _ => cs
    | .parameter name _ _ => '$' :: name.toList
    | _ => []

def isLiteral (w : Word) : Bool :=
  w.all fun part => match part with
    | .text _ quoted => !quoted
    | _ => true

def readDocument (nested : Nested) (descriptor : Nat) (stripTabs : Bool) : Reader Redirect := do
  let delimiter ← expectWord nested none
  let body ← cutDocument (delimiterText delimiter) stripTabs (isLiteral delimiter)
  if isLiteral delimiter then
    return .document descriptor (← within body (← get).line (nested.word .document))
  else return .document descriptor [.text body true]

/-- The redirection that comes next, if one does. -/
def readRedirect (nested : Nested) : Reader (Option Redirect) := do
  blanks
  match ← acceptRedirection with
  | none => return none
  | some (descriptor, symbol) =>
    let input := descriptor.getD 0
    let output := descriptor.getD 1
    match symbol with
    | "<<" => return some (← readDocument nested input false)
    | "<<-" => return some (← readDocument nested input true)
    | "<&" => return some (.duplicate input (← expectWord nested none))
    | ">&" => return some (.duplicate output (← expectWord nested none))
    | "<" => return some (.file input .read (← expectWord nested none))
    | "<>" => return some (.file input .both (← expectWord nested none))
    | ">>" => return some (.file output .append (← expectWord nested none))
    | ">|" => return some (.file output .clobber (← expectWord nested none))
    | _ => return some (.file output .write (← expectWord nested none))

def readRedirects (nested : Nested) : (steps : Nat) → Reader (List Redirect)
  | 0 => return []
  | steps + 1 => do
    match ← readRedirect nested with
    | some redirect => return redirect :: (← readRedirects nested steps)
    | none => return []

/-- The name and the value of an assignment. -/
def assignment? (w : Word) : Option (String × Word) :=
  match w with
  | .text cs false :: rest =>
    let name := cs.takeWhile (· ≠ '=')
    match cs.drop name.length with
    | _ :: value =>
      if Octets.isName name then
        some (Octets.text name, if value = [] then rest else .text value false :: rest)
      else none
    | [] => none
  | _ => none

/-- The assignments, words and redirections of a simple command. -/
structure Simple where
  /-- The line in which the first of them ends. -/
  line : Option Nat := none
  assignments : List (String × Word) := []
  words : List Word := []
  redirects : List Redirect := []

/-- Reads on to the end of a simple command; what was read comes last first. -/
def readSimple (nested : Nested) : (steps : Nat) → Simple → Reader (Simple ⊕ String)
  | 0, simple => return .inl simple
  | steps + 1, simple => do
    blanks
    let line := (← get).line
    match ← readRedirect nested with
    | some redirect =>
      readSimple nested steps { simple with
        line := simple.line <|> some line, redirects := redirect :: simple.redirects }
    | none =>
      match ← peek with
      | none => return .inl simple
      | some c =>
        if c = '(' then
          match simple with
          | ⟨_, [], [name], []⟩ =>
            drop 1
            blanks
            if !(← accept ")") then unexpected (some (quote ")"))
            match name.plain? with
            | some text =>
              if Octets.isName text && !Command.specials.contains (Octets.text text) then
                return .inr (Octets.text text)
              else refuse "Bad function name"
            | none => refuse "Bad function name"
          | _ => unexpected none
        else if endsWord c then return .inl simple
        else
          let opens ← leaveAliases
          if simple.words = [] || opens then aliases false
          let w ← nested.word .bare
          let simple := { simple with line := simple.line <|> some (← get).line }
          match if simple.words = [] then assignment? w else none with
          | some pair =>
            readSimple nested steps { simple with assignments := pair :: simple.assignments }
          | none => readSimple nested steps { simple with words := w :: simple.words }

/-- A simple command, or the definition of a function. -/
def readSimpleOrDefinition (nested : Nested) : Reader Command := do
  let line := (← get).line
  match ← readSimple nested (← steps) {} with
  | .inr name =>
    newlines
    return .define line name (← nested.command)
  | .inl ⟨_, [], [], []⟩ => unexpected none
  | .inl simple =>
    return .simple (simple.line.getD line) simple.assignments.reverse simple.words.reverse simple.redirects.reverse

def joinPipes (nested : Nested) : (steps : Nat) → Reader (List Command)
  | 0 => return []
  | steps + 1 => do
    blanks
    if (← looksAt "|") && !(← looksAt "||") then
      drop 1
      newlines
      let next ← nested.command
      return next :: (← joinPipes nested steps)
    else return []

/-- Commands that are joined by pipes, and perhaps negated. -/
def readPipeline (nested : Nested) : Reader Command := do
  blanks
  let negated ← acceptKeyword "!"
  if negated then blanks
  let first ← nested.command
  let more ← joinPipes nested (← steps)
  let pipeline := if more = [] then first else .pipeline (first :: more)
  return if negated then .negate pipeline else pipeline

def joinConditions (nested : Nested) : (steps : Nat) → Command → Reader Command
  | 0, first => return first
  | steps + 1, first => do
    blanks
    if ← accept "&&" then
      newlines
      let second ← readPipeline nested
      joinConditions nested steps (.both first second)
    else if ← accept "||" then
      newlines
      let second ← readPipeline nested
      joinConditions nested steps (.either first second)
    else return first

/-- Pipelines that are joined by conditions, which bind to the left. -/
def readChain (nested : Nested) : Reader Command := do
  let first ← readPipeline nested
  joinConditions nested (← steps) first

/-- The words and operators that end a list. -/
def closers : List String := ["\x7d", "do", "done", "elif", "else", "esac", "fi", "then"]

def atCloser : Reader Bool := do
  if (← peek).isNone || (← looksAt ")") || (← looksAt ";;") then return true
  closers.anyM atKeyword

/-- What stands after a command. -/
inductive Separator where
  | missing
  | symbol
  | newline
  deriving DecidableEq

/-- Reads the separator after a command, which may put the command into the background. -/
def readSeparator (command : Command) : Reader (Command × Separator) := do
  blanks
  if (← looksAt ";") && !(← looksAt ";;") then
    drop 1
    return (command, .symbol)
  else if (← looksAt "&") && !(← looksAt "&&") then
    drop 1
    return (.background command, .symbol)
  else if ← accept "\n" then return (command, .newline)
  else return (command, .missing)

/-- Commands up to what closes the list. -/
def readList (nested : Nested) : (steps : Nat) → Reader (List Command)
  | 0 => return []
  | steps + 1 => do
    newlines
    aliases true
    if ← atCloser then return []
    match ← readSeparator (← readChain nested) with
    | (command, .missing) => return [command]
    | (command, _) => return command :: (← readList nested steps)

def joined : List Command → Option Command
  | [] => none
  | [command] => some command
  | command :: rest =>
    match joined rest with
    | some more => some (.sequence command more)
    | none => some command

/-- The commands of a list that must not be empty, up to what closes it. -/
def readBody (nested : Nested) (closer : String) : Reader Command := do
  match joined (← nested.script) with
  | some body => return body
  | none =>
    newlines
    unexpected (if (← peek).isNone then some (quote closer) else none)

def readLoop (nested : Nested) (whileTrue : Bool) : Reader Command := do
  let condition ← readBody nested "do"
  expectKeyword "do"
  let body ← readBody nested "done"
  expectKeyword "done"
  return .loop condition whileTrue body

def readWords (nested : Nested) : (steps : Nat) → Reader (List Word)
  | 0 => return []
  | steps + 1 => do
    blanks
    match ← peek with
    | none => return []
    | some c =>
      if endsWord c then return []
      else
        let w ← nested.word .bare
        return w :: (← readWords nested steps)

/-- Reads what follows `for`. Without words it goes over the arguments. -/
def readEach (nested : Nested) : Reader Command := do
  let line := (← get).line
  blanks
  let isWord := (← peek).any (!endsWord ·)
  let name ← if isWord then nested.word .bare else pure []
  let name := name.plain?.getD []
  if !Octets.isName name then refuse "Bad for loop variable"
  newlines
  let words ←
    if ← acceptKeyword "in" then
      let words ← readWords nested (← steps)
      if !(← accept ";") && !(← accept "\n") then unexpected none
      pure words
    else
      let _ ← accept ";"
      pure [[.parameter "@" .value true]]
  expectKeyword "do"
  let body ← readBody nested "done"
  expectKeyword "done"
  return .each line (Octets.text name) words body

/-- Moves past an operator. -/
def dropOperator : Reader Unit := do
  let rest := (← get).rest
  drop (((operators.find? fun o => o.toList.isPrefixOf rest).map String.length).getD 1)

/-- The alternative patterns of a case. An operator may stand for one, with no text. -/
def readPatterns (nested : Nested) : (steps : Nat) → Reader (List Word)
  | 0 => return []
  | steps + 1 => do
    blanks
    match ← peek with
    | none => unexpected (some (quote ")"))
    | some c =>
      let pattern : Reader Word := do
        if endsWord c then
          dropOperator
          return []
        else nested.word .bare
      let w ← pattern
      blanks
      if (← looksAt "|") then
        drop 1
        return w :: (← readPatterns nested steps)
      else if ← accept ")" then return [w]
      else unexpected (some (quote ")")) false

def readCases (nested : Nested) : (steps : Nat) → Reader (List (List Word × Option Command))
  | 0 => return []
  | steps + 1 => do
    newlines
    if ← acceptKeyword "esac" then return []
    let _ ← accept "("
    let patterns ← readPatterns nested (← Reader.steps)
    let body := joined (← nested.script)
    newlines
    if ← accept ";;" then return (patterns, body) :: (← readCases nested steps)
    else if ← acceptKeyword "esac" then return [(patterns, body)]
    else unexpected (some (quote ";;"))

/-- Reads what follows `case`. -/
def readChoice (nested : Nested) : Reader Command := do
  let line := (← get).line
  let subject ← expectWord nested (some "word")
  newlines
  if !(← acceptKeyword "in") then unexpected (some (quote "in"))
  return .choose line subject (← readCases nested (← steps))

/-- Reads what follows `if` or `elif`. -/
def readBranch (nested : Nested) : (steps : Nat) → Reader Command
  | 0 => unexpected none
  | steps + 1 => do
    let condition ← readBody nested "then"
    expectKeyword "then"
    let yes ← readBody nested "fi"
    newlines
    if ← acceptKeyword "elif" then
      return .branch condition yes (some (← readBranch nested steps))
    else if ← acceptKeyword "else" then
      let no ← readBody nested "fi"
      expectKeyword "fi"
      return .branch condition yes (some no)
    else
      expectKeyword "fi"
      return .branch condition yes none

def readCompound (nested : Nested) : Reader (Option Command) := do
  let line := (← get).line
  if ← acceptKeyword "if" then return some (← readBranch nested (← steps))
  else if ← acceptKeyword "while" then return some (← readLoop nested true)
  else if ← acceptKeyword "until" then return some (← readLoop nested false)
  else if ← acceptKeyword "for" then return some (← readEach nested)
  else if ← acceptKeyword "case" then return some (← readChoice nested)
  else if ← acceptKeyword "\x7b" then
    let body ← readBody nested "\x7d"
    expectKeyword "\x7d"
    return some body
  else if ← accept "(" then
    let body ← readBody nested ")"
    newlines
    if ← accept ")" then return some (.subshell line body)
    else unexpected (some (quote ")"))
  else return none

/-- A command with redirections. A subshell has no more than one list of them, the outermost. -/
def redirected (line : Nat) (redirects : List Redirect) : Command → Command
  | .redirected line (.subshell begin body) _ => .redirected line (.subshell begin body) redirects
  | command => .redirected line command redirects

/-- Reads one command with its redirections. -/
def readCommand (nested : Nested) : Reader Command := do
  blanks
  aliases true
  let line := (← get).line
  match ← readCompound nested with
  | some command =>
    let redirects ← readRedirects nested (← steps)
    return if redirects.isEmpty then command else redirected line redirects command
  | none =>
    if ← keywords.anyM atKeyword then unexpected none
    else readSimpleOrDefinition nested

/-- The readers for so many levels. -/
def nested : (levels : Nat) → Nested
  | 0 => ⟨fun _ => refuse "Too deep", refuse "Too deep", refuse "Too deep"⟩
  | levels + 1 =>
    let inner := nested levels
    { word := fun context => do readParts inner context (← steps) 0
      script := do readList inner (← steps)
      command := readCommand inner }

def maxLevels : Nat := 200

/-- The commands of one line. -/
def readLine (nested : Nested) : (steps : Nat) → Reader (List Command)
  | 0 => return []
  | steps + 1 => do
    blanks
    if (← peek).isNone || (← accept "\n") then return []
    match ← readSeparator (← readChain nested) with
    | (command, .newline) => return [command]
    | (command, .symbol) => return command :: (← readLine nested steps)
    | (command, .missing) =>
      if (← peek).isNone then return [command] else unexpected none

end Reader

/-- A text that is expanded as within a document, if it can be read like that. -/
def readPrompt? (text : Octets) : Option Word :=
  match ((Reader.nested Reader.maxLevels).word .document).run { rest := text } with
  | .ok (word, _) => some word
  | .error _ => none

/-- The next commands of a script, which are run before the rest is read, or nothing at its end. -/
def readNext (source : Source) : Except Refusal (Option Command × Source) :=
  let levels := Reader.nested Reader.maxLevels
  (do
    Reader.newlines
    return Reader.joined (← Reader.readLine levels (← Reader.steps))).run source

end ScopedCheck.Script
