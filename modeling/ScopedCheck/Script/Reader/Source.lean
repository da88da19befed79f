import ScopedCheck.Script.Command

namespace ScopedCheck.Script

/-- An alias whose text is read in its place: how much of the text comes after it, and whether the
word after it may be an alias too. -/
structure Entered where
  name : Octets
  after : Nat
  opens : Bool

structure Source where
  rest : Octets
  line : Nat := 1
  /-- Lines that were cut out and that the next end of line brings with it. -/
  held : Nat := 0
  /-- Whether the text ended before a here-document did. -/
  unfinished : Bool := false
  /-- The texts that names stand for at the beginning of a command. -/
  aliases : List (Octets × Octets) := []
  entered : List Entered := []

/-- What lies between a source and a later state of it. -/
def Source.passed (before after : Source) : Octets :=
  before.rest.take (before.rest.length - after.rest.length)

/-- The source when more of its text is known. -/
def Source.append (s : Source) (more : Octets) : Source :=
  { s with
    rest := s.rest ++ more
    entered := s.entered.map fun e => { e with after := e.after + more.length } }

/-- Why a script cannot be read, and in which line. -/
structure Refusal where
  line : Nat
  message : String

abbrev Reader := StateT Source (Except Refusal)

namespace Reader

def refuse {α : Type} (message : String) : Reader α := do
  throw ⟨(← get).line, message⟩

def peek : Reader (Option Char) :=
  return (← get).rest.head?

/-- Moves past characters that were looked at. -/
def drop (count : Nat) : Reader Unit :=
  modify fun s =>
    let newlines := (s.rest.take count).count '\n'
    if newlines = 0 then { s with rest := s.rest.drop count }
    else { s with rest := s.rest.drop count, line := s.line + newlines + s.held, held := 0 }

def looksAt (text : String) : Reader Bool :=
  return text.toList.isPrefixOf (← get).rest

/-- Moves past a text if it comes next. -/
def accept (text : String) : Reader Bool := do
  if ← looksAt text then
    drop text.length
    return true
  else return false

/-- The characters up to one that fails the test. -/
def takeWhile (test : Char → Bool) : Reader Octets := do
  let taken := (← get).rest.takeWhile test
  drop taken.length
  return taken

/-- Removes what joins a line to the next one. -/
def skipJoins : (steps : Nat) → Reader Unit
  | 0 => return
  | steps + 1 => do if ← accept "\\\n" then skipJoins steps

def endsWord (c : Char) : Bool :=
  " \t\n;&|<>()".toList.contains c

/-- Moves past blanks and a comment. -/
def skipBlanks : (steps : Nat) → Reader Unit
  | 0 => return
  | steps + 1 => do
    let blanks ← takeWhile fun c => c = ' ' || c = '\t'
    if ← accept "\\\n" then skipBlanks steps
    else if (← peek) = some '#' then
      let _ ← takeWhile (· ≠ '\n')
    else if blanks ≠ [] then skipBlanks steps

/-- Moves past blanks, comments and empty lines. -/
def skipLines : (steps : Nat) → Reader Unit
  | 0 => return
  | steps + 1 => do
    skipBlanks (steps + 1)
    if ← accept "\n" then skipLines steps

/-- A number that bounds what can be read step by step from here. -/
def steps : Reader Nat :=
  return (← get).rest.length + 1

def blanks : Reader Unit := do skipBlanks (← steps)

def newlines : Reader Unit := do skipLines (← steps)

/-- Whether a keyword comes next, as a word of its own. -/
def atKeyword (keyword : String) : Reader Bool := do
  let rest := (← get).rest
  let after := rest.drop keyword.length
  return keyword.toList.isPrefixOf rest && (after.head?.all endsWord)

def acceptKeyword (keyword : String) : Reader Bool := do
  if ← atKeyword keyword then
    drop keyword.length
    return true
  else return false

def keywords : List String :=
  ["!", "case", "do", "done", "elif", "else", "esac", "fi", "for", "if", "in", "then", "until",
   "while", "\x7b", "\x7d"]

def operators : List String :=
  ["&&", "||", ";;", "<<-", "<<", "<&", "<>", ">>", ">&", ">|", "<", ">", ";", "&", "|", "(", ")"]

def quote (text : String) : String := "\"" ++ text ++ "\""

/-- What comes next, as a refusal names it. Keywords are words where none is looked for. -/
def describe (hasKeywords : Bool) : Reader String := do
  let rest := (← get).rest
  match rest with
  | [] => return "end of file"
  | '\n' :: _ => return "newline"
  | '<' :: _ | '>' :: _ => return "redirection"
  | _ =>
    match operators.find? fun o => o.toList.isPrefixOf rest with
    | some o => return quote o
    | none =>
      match keywords.find? fun k =>
          k.toList.isPrefixOf rest && (rest.drop k.length).head?.all endsWord with
      | some k => return if hasKeywords then quote k else "word"
      | none => return "word"

/-- Refuses what comes next. -/
def unexpected {α : Type} (expected : Option String) (hasKeywords : Bool := true) : Reader α := do
  let found ← describe hasKeywords
  let _ ← accept "\n"
  let wish := match expected with
    | some e => " (expecting " ++ e ++ ")"
    | none => ""
  refuse (found ++ " unexpected" ++ wish)

def expectKeyword (keyword : String) : Reader Unit := do
  newlines
  if !(← acceptKeyword keyword) then unexpected (some (quote keyword))

/-- Leaves the aliases whose texts have been read, and tells whether the next word may be one. -/
def leaveAliases : Reader Bool := do
  let s ← get
  let isOver (e : Entered) : Bool := s.rest.length ≤ e.after
  if !s.entered.any isOver then return false
  set { s with entered := s.entered.filter (!isOver ·) }
  return s.entered.any fun e => isOver e && e.opens

/-- Puts the text of an alias in the place of the word that comes next, as long as that is one. No
text is entered again within itself. -/
def enterAliases (sparesKeywords : Bool) : (steps : Nat) → Reader Unit
  | 0 => return
  | steps + 1 => do
    let _ ← leaveAliases
    let s ← get
    let name := s.rest.takeWhile fun c => !endsWord c
    if sparesKeywords && keywords.any (·.toList = name) then return
    if let some value := s.aliases.lookup name then
      if !s.entered.any (·.name = name) then
        let entered : Entered :=
          ⟨name, s.rest.length - name.length, value.getLast?.any fun c => c = ' ' || c = '\t'⟩
        set { s with rest := value ++ s.rest.drop name.length, entered := entered :: s.entered }
        blanks
        enterAliases sparesKeywords steps

def aliases (sparesKeywords : Bool) : Reader Unit := do
  let s ← get
  if s.aliases ≠ [] then enterAliases sparesKeywords (s.aliases.length * (s.aliases.length + 1))

/-- How many characters a line has that goes on through quotes and joins. -/
def lineLength : Octets → (single double : Bool) → Nat
  | [], _, _ => 0
  | c :: cs, single, double =>
    if c = '\\' && !single then
      match cs with
      | _ :: rest => 2 + lineLength rest single double
      | [] => 1
    else if c = '\'' && !double then 1 + lineLength cs (!single) double
    else if c = '"' && !single then 1 + lineLength cs single (!double)
    else if single || double then 1 + lineLength cs single double
    else if c = '\n' then 0
    else if endsWord c && cs.head? = some '#' then 1 + (cs.takeWhile (· ≠ '\n')).length
    else 1 + lineLength cs single double

/-- What the next line of a document is within: the parentheses and quotes of a substitution, or the
line before, which goes on. -/
structure Inside where
  depth : Nat := 0
  single : Bool := false
  double : Bool := false
  back : Bool := false
  joins : Bool := false

namespace Inside

def isNothing (i : Inside) : Bool := i.depth = 0 && !i.back && !i.joins

/-- What comes next is within, after a piece of text. -/
def follow : Octets → Inside → Inside
  | [], i => i
  | '\\' :: c :: rest, i =>
    if i.single then follow (c :: rest) i
    else follow rest { i with joins := c = '\n' && i.depth = 0 && !i.back }
  | '$' :: '(' :: '(' :: rest, i =>
    follow rest (if i.depth = 0 || i.single then i else { i with depth := i.depth + 2 })
  | '$' :: '(' :: rest, i =>
    follow rest (if i.single || i.back then i else { i with depth := i.depth + 1 })
  | c :: rest, i =>
    let quoted := i.single || i.double
    follow rest <|
      if c = '\x60' && i.depth = 0 then { i with back := !i.back }
      else if i.depth = 0 || i.back then i
      else if c = '\'' && !i.double then { i with single := !i.single }
      else if c = '"' && !i.single then { i with double := !i.double }
      else if c = '(' && !quoted then { i with depth := i.depth + 1 }
      else if c = ')' && !quoted then { i with depth := i.depth - 1 }
      else i

end Inside

/-- The lines up to one that is the delimiter, and what comes after that. A line within a
substitution is none, nor is one that goes on from the line before. -/
def splitDocument (delimiter : Octets) (stripTabs expands : Bool) (inside : Inside) :
    List Octets → List Octets × List Octets
  | [] => ([], [])
  | line :: rest =>
    let bare := if stripTabs && inside.isNothing then line.dropWhile (· = '\t') else line
    if inside.isNothing && Octets.chomp bare = delimiter then ([], rest)
    else
      let next := if expands then Inside.follow bare { inside with joins := false } else {}
      let (body, after) := splitDocument delimiter stripTabs expands next rest
      (bare :: body, after)

/-- Cuts out the document that begins after this line. -/
def cutDocument (delimiter : Octets) (stripTabs expands : Bool) : Reader Octets := do
  let s ← get
  let length := lineLength s.rest false false
  let lines := Octets.lines (s.rest.drop (length + 1))
  let (body, after) := splitDocument delimiter stripTabs expands {} lines
  let cut := ((lines.take (lines.length - after.length)).flatten).count '\n'
  let ended := body.length + after.length < lines.length
  let rest := s.rest.take (length + 1) ++ after.flatten
  let moved (e : Entered) : Entered := { e with after := e.after - (s.rest.length - rest.length) }
  set { s with
    rest := rest
    held := s.held + cut
    unfinished := s.unfinished || !ended
    entered := s.entered.map moved }
  return body.flatten

end Reader

end ScopedCheck.Script
