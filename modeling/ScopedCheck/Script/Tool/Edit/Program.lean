import ScopedCheck.Script.Tool.Basic
import ScopedCheck.Script.Tool.Regex

namespace ScopedCheck.Script.Tool.Edit

/-- Which lines a command is for. An expression that is left empty is the one that was used last. -/
inductive Address where
  | line (n : Nat)
  | last
  | matching (r : Option Regex)
  | stepped (first step : Nat)
  | after (count : Nat)
  | multiple (n : Nat)

/-- How the letters of a replacement are written from a point on, or the next one only. -/
inductive Casing where
  | upper
  | lower
  | upperNext
  | lowerNext
  | plain

inductive Replacement where
  | text (c : Char)
  | group (n : Nat)
  | casing (c : Casing)

/-- When a jump is taken: at all times, or as a line was or was not changed since it was read. -/
inductive Jump where
  | always
  | changed
  | unchanged

/-- What is said after a replacement: which match it is for, and what is done with the result. -/
structure Flags where
  every : Bool := false
  prints : Bool := false
  anyCase : Bool := false
  lines : Bool := false
  nth : Option Nat := none
  file : Option Octets := none

inductive Action where
  | open (finish : Nat)
  | close
  | substitute (r : Option Regex) (replacement : List Replacement) (flags : Flags)
  | exchange (source target : List Char)
  | delete
  | deleteFirst
  | print
  | printFirst
  | printName
  | next
  | appendNext
  | number
  | quit (prints : Bool) (status : Nat)
  | append (text : Octets)
  | insert (text : Octets)
  | change (text : Octets)
  | appendFile (file : Octets)
  | appendLine (file : Octets)
  | writeTo (file : Octets)
  | writeFirst (file : Octets)
  | hold (appends : Bool)
  | get (appends : Bool)
  | swap
  | clear
  | list (width : Option Nat)
  | label (name : Octets)
  | jump (name : Octets) (jump : Jump)
  | nothing

structure Command where
  first : Option Address := none
  second : Option Address := none
  negated : Bool := false
  action : Action

instance : Inhabited Command := ⟨{ action := .close }⟩

/-- What is wrong with a program. Most faults are found at a place, told by how much was still to be
read there. -/
inductive Refusal where
  | here (message : String) (left : Nat)
  | unclosed (left : Nat)
  | noLabel (name : Octets)

abbrev Reading := StateT Octets (Except Refusal)

def refuse {α : Type} (message : String) : Reading α := do
  throw (.here message (← get).length)

def orRefuse {α : Type} : Except String α → Reading α
  | .ok a => return a
  | .error message => refuse message

def peek : Reading (Option Char) := return (← get).head?

def skip (count : Nat) : Reading Unit := modify (List.drop count)

def isBlank (c : Char) : Bool := c = ' ' || c = '\t'

def skipBlanks : Reading Unit := modify (List.dropWhile isBlank)

def readNumber : Reading Nat := do
  let digits := (← get).takeWhile Char.isDigit
  skip digits.length
  return Octets.natOf 10 digits

/-- A number after blanks, if there is one. -/
def readNumber? : Reading (Option Nat) := do
  skipBlanks
  if (← peek).any Char.isDigit then return some (← readNumber) else return none

/-- The members of a set up to its closing bracket, and what comes after that. Within a class that
has a name brackets close the name only. -/
def spanMembers : (named : Bool) → Octets → Octets × Octets
  | _, [] => ([], [])
  | true, ':' :: ']' :: cs =>
    let (members, rest) := spanMembers false cs
    (':' :: ']' :: members, rest)
  | false, ']' :: cs => ([']'], cs)
  | false, '[' :: ':' :: cs =>
    let (members, rest) := spanMembers true cs
    ('[' :: ':' :: members, rest)
  | false, '\\' :: 'n' :: cs =>
    let (members, rest) := spanMembers false cs
    ('\n' :: members, rest)
  | named, c :: cs =>
    let (members, rest) := spanMembers named cs
    (c :: members, rest)

/-- A set after its opening bracket; a closing bracket that comes first is a member. -/
def spanSet (text : Octets) : Octets × Octets :=
  let front := if text.head? = some '^' then ['^'] else []
  let front := if (text.drop front.length).head? = some ']' then front ++ [']'] else front
  let (members, rest) := spanMembers false (text.drop front.length)
  (front ++ members, rest)

/-- The text up to a delimiter, whose escaped forms lose their backslash. A newline needs a backslash
before it. In an expression the delimiter means nothing within a set, and `\n` is a newline. -/
def upTo (delimiter : Char) (inExpression : Bool) : (steps : Nat) → Octets → Option (Octets × Octets)
  | 0, _ => none
  | _, [] => none
  | steps + 1, '\\' :: c :: cs => do
    let (text, rest) ← upTo delimiter inExpression steps cs
    if c = delimiter && (inExpression || c ≠ '&') then return (c :: text, rest)
    else if c = '\n' || (c = 'n' && inExpression) then return ('\n' :: text, rest)
    else return ('\\' :: c :: text, rest)
  | steps + 1, c :: cs =>
    if c = delimiter then some ([], cs)
    else if c = '\n' then none
    else if c = '[' && inExpression then do
      let (members, cs) := spanSet cs
      let (text, rest) ← upTo delimiter inExpression steps cs
      return (c :: members ++ text, rest)
    else do
      let (text, rest) ← upTo delimiter inExpression steps cs
      return (c :: text, rest)

/-- Reads up to a delimiter; where there is none all of the line is passed over. -/
def delimited (delimiter : Char) (inExpression : Bool) (complaint : String) : Reading Octets := do
  let s ← get
  match upTo delimiter inExpression (s.length + 1) s with
  | some (text, rest) =>
    set rest
    return text
  | none =>
    set (s.dropWhile (· ≠ '\n'))
    refuse complaint

/-- The character that an escape names, read after its backslash, and what comes after it. -/
def escape? : Octets → Option (Char × Octets)
  | 'a' :: cs => some ('\x07', cs)
  | 'f' :: cs => some ('\x0c', cs)
  | 'r' :: cs => some ('\r', cs)
  | 't' :: cs => some ('\t', cs)
  | 'v' :: cs => some ('\x0b', cs)
  | 'c' :: c :: cs => some (Char.ofNat (Nat.xor c.toUpper.toNat 64), cs)
  | 'd' :: cs => numbered 10 3 cs
  | 'o' :: cs => numbered 8 3 cs
  | 'x' :: cs => numbered 16 2 cs
  | _ => none
where
  numbered (base most : Nat) (text : Octets) : Option (Char × Octets) :=
    let digits := (text.take most).takeWhile (Octets.isDigitOf base)
    if digits = [] then none
    else some (Char.ofNat (Octets.natOf base digits % 256), text.drop digits.length)

/-- Writes the escapes of an expression out. -/
def expandEscapes : (steps : Nat) → Octets → Octets
  | 0, text => text
  | _, [] => []
  | steps + 1, '\\' :: rest =>
    match escape? rest, rest with
    | some (c, after), _ => c :: expandEscapes steps after
    | none, d :: after => '\\' :: d :: expandEscapes steps after
    | none, [] => ['\\']
  | steps + 1, c :: rest => c :: expandEscapes steps rest

/-- The expression that a text between delimiters is; an empty one stands for the last one used. -/
def expression (style : Regex.Style) (text : Octets) : Reading (Option Regex) := do
  if text = [] then
    if style.anyCase || style.lines then refuse "cannot specify modifiers on empty regexp"
    return none
  else
    let chars := Octets.toChars (expandEscapes (text.length + 1) text)
    return some (← orRefuse (Regex.read { style with allLetters := true } chars))

/-- The letters after an expression that say how it is meant. -/
def expressionStyle : (steps : Nat) → Regex.Style → Reading Regex.Style
  | 0, style => return style
  | steps + 1, style => do
    match ← peek with
    | some 'I' =>
      skip 1
      expressionStyle steps { style with anyCase := true }
    | some 'M' =>
      skip 1
      expressionStyle steps { style with lines := true }
    | _ => return style

def readMatching (style : Regex.Style) (delimiter : Char) : Reading Address := do
  let text ← delimited delimiter true "unterminated address regex"
  let style ← expressionStyle ((← get).length + 1) style
  return .matching (← expression style text)

def address? (style : Regex.Style) : Reading (Option Address) := do
  match ← peek with
  | some '$' =>
    skip 1
    return some .last
  | some '/' =>
    skip 1
    return some (← readMatching style '/')
  | some '+' =>
    skip 1
    return some (.after (← readNumber))
  | some '~' =>
    skip 1
    return some (.multiple (← readNumber))
  | some '\\' =>
    skip 1
    match ← peek with
    | none => refuse "unterminated address regex"
    | some delimiter =>
      skip 1
      return some (← readMatching style delimiter)
  | some c =>
    if c.isDigit then
      let n ← readNumber
      if (← peek) = some '~' then
        skip 1
        return some (.stepped n (← readNumber))
      return some (.line n)
    else return none
  | none => return none

def firstAddress? (style : Regex.Style) : Reading (Option Address) := do
  match ← address? style with
  | some (.after _) | some (.multiple _) => refuse "invalid usage of +N or ~N as first address"
  | found => return found

def secondAddress? (style : Regex.Style) : Reading (Option Address) := do
  skipBlanks
  if (← peek) ≠ some ',' then return none
  skip 1
  skipBlanks
  match ← address? style with
  | some a => return some a
  | none =>
    skip 1
    refuse "unexpected `,'"

/-- What a character of a replacement stands for after a backslash. -/
def escaped (c : Char) : Replacement :=
  if c.isDigit then .group (Octets.digit c)
  else match c with
    | 'n' => .text '\n'
    | 'U' => .casing .upper
    | 'L' => .casing .lower
    | 'u' => .casing .upperNext
    | 'l' => .casing .lowerNext
    | 'E' => .casing .plain
    | _ => .text c

def replacement : (steps : Nat) → List Char → List Replacement
  | 0, _ => []
  | _, [] => []
  | steps + 1, '\\' :: c :: cs =>
    match escape? (c :: cs) with
    | some (d, rest) => .text d :: replacement steps rest
    | none => escaped c :: replacement steps cs
  | steps + 1, '&' :: cs => .group 0 :: replacement steps cs
  | steps + 1, c :: cs => .text c :: replacement steps cs

/-- The characters of an exchange. -/
def unescape : Octets → Octets
  | '\\' :: 'n' :: cs => '\n' :: unescape cs
  | '\\' :: 't' :: cs => '\t' :: unescape cs
  | '\\' :: c :: cs => c :: unescape cs
  | c :: cs => c :: unescape cs
  | [] => []

/-- The name of a file, which takes up the rest of the line. -/
def fileName : Reading Octets := do
  skipBlanks
  let name := (← get).takeWhile (· ≠ '\n')
  if name = [] then refuse "missing filename in r/R/w/W commands"
  skip (name.length + 1)
  return name

/-- Nothing but blanks may come between an action and the end of its command. -/
def endCommand : Reading Unit := do
  skipBlanks
  match ← peek with
  | none | some '\x7d' | some '#' => return
  | some c =>
    skip 1
    if c ≠ ';' && c ≠ '\n' then refuse "extra characters after command"

def readFlags : (steps : Nat) → Flags → Reading Flags
  | 0, flags => return flags
  | steps + 1, flags => do
    match ← peek with
    | none | some '\x7d' | some '#' => return flags
    | some c =>
      if c.isDigit then
        if flags.nth.isSome then
          skip 1
          refuse "multiple number options to `s' command"
        let n ← readNumber
        if n = 0 then refuse "number option to `s' command may not be zero"
        readFlags steps { flags with nth := some n }
      else
        skip 1
        match c with
        | ' ' => readFlags steps flags
        | ';' | '\n' => return flags
        | 'i' | 'I' => readFlags steps { flags with anyCase := true }
        | 'm' | 'M' => readFlags steps { flags with lines := true }
        | 'g' =>
          if flags.every then refuse "multiple `g' options to `s' command"
          readFlags steps { flags with every := true }
        | 'p' =>
          if flags.prints then refuse "multiple `p' options to `s' command"
          readFlags steps { flags with prints := true }
        | 'w' => return { flags with file := some (← fileName) }
        | _ => refuse "unknown option to `s'"

def delimiter (complaint : String) : Reading Char := do
  match ← peek with
  | none | some '\n' | some '\\' => refuse complaint
  | some c =>
    skip 1
    return c

def substitution (style : Regex.Style) : Reading Action := do
  let complaint := "unterminated `s' command"
  let d ← delimiter complaint
  let pattern ← delimited d true complaint
  let text ← delimited d false complaint
  let flags ← readFlags ((← get).length + 1) {}
  let r ← expression { style with anyCase := flags.anyCase, lines := flags.lines } pattern
  let parts := replacement (text.length + 1) (Octets.toChars text)
  for part in parts do
    if let .group n := part then
      if r.any fun r => r.groupCount < n then
        refuse ("invalid reference \\" ++ toString n ++ " on `s' command's RHS")
  return .substitute r parts flags

def exchange : Reading Action := do
  let complaint := "unterminated `y' command"
  let d ← delimiter complaint
  let source := Octets.toChars (unescape (← delimited d false complaint))
  let target := Octets.toChars (unescape (← delimited d false complaint))
  if source.length ≠ target.length then refuse "strings for `y' command are different lengths"
  endCommand
  return .exchange source target

/-- Lines up to one that does not end with a backslash, and what comes after them. -/
def spanText : (steps : Nat) → Octets → Octets × Octets
  | 0, text => (text, [])
  | _, [] => ([], [])
  | _, '\n' :: cs => (['\n'], cs)
  | steps + 1, '\\' :: cs =>
    let (c, cs) := match escape? cs, cs with
      | some found, _ => found
      | none, 'n' :: cs => ('\n', cs)
      | none, c :: cs => (c, cs)
      | none, [] => ('\\', [])
    let (text, rest) := spanText steps cs
    (c :: text, rest)
  | steps + 1, c :: cs =>
    let (text, rest) := spanText steps cs
    (c :: text, rest)

/-- The text of an insertion: it begins on the next line after a backslash, or on this one. -/
def insertion : Reading Octets := do
  skipBlanks
  let s ← match ← get with
    | [] => refuse "expected \\ after `a', `c' or `i'"
    | '\\' :: '\n' :: rest => pure rest
    | '\\' :: rest => pure rest
    | rest => pure rest
  let (text, rest) := spanText (s.length + 1) s
  set rest
  return if text = [] || text.getLast? = some '\n' then text else text ++ ['\n']

def labelName : Reading Octets := do
  skipBlanks
  let name := (← get).takeWhile fun c => !(Octets.isSpace c || c = ';' || c = '\x7d')
  skip name.length
  return name

/-- The version that programs may ask for. -/
def version : List Nat := [4, 9]

/-- The action of a letter. Where text, a name or flags follow, they tell where the command ends. -/
def action (style : Regex.Style) (c : Char) : Reading Action := do
  let plain (a : Action) : Reading Action := do
    endCommand
    return a
  match c with
  | '{' => return .open 0
  | '}' => plain .close
  | 's' => substitution style
  | 'y' => exchange
  | 'd' => plain .delete
  | 'D' => plain .deleteFirst
  | 'p' => plain .print
  | 'P' => plain .printFirst
  | 'F' => plain .printName
  | 'n' => plain .next
  | 'N' => plain .appendNext
  | '=' => plain .number
  | 'q' | 'Q' =>
    let status ← readNumber?
    plain (.quit (c = 'q') (status.getD 0))
  | 'a' => return .append (← insertion)
  | 'i' => return .insert (← insertion)
  | 'c' => return .change (← insertion)
  | 'r' => return .appendFile (← fileName)
  | 'R' => return .appendLine (← fileName)
  | 'w' => return .writeTo (← fileName)
  | 'W' => return .writeFirst (← fileName)
  | 'h' => plain (.hold false)
  | 'H' => plain (.hold true)
  | 'g' => plain (.get false)
  | 'G' => plain (.get true)
  | 'x' => plain .swap
  | 'z' => plain .clear
  | 'l' =>
    let width ← readNumber?
    plain (.list width)
  | ':' =>
    let name ← labelName
    if name = [] then refuse "\":\" lacks a label"
    return .label name
  | 'b' => return .jump (← labelName) .always
  | 't' => return .jump (← labelName) .changed
  | 'T' => return .jump (← labelName) .unchanged
  | 'v' =>
    let wanted := (Text.split '.' (← labelName)).map (Octets.natOf 10 ·)
    if compare wanted version == .gt then refuse "expected newer version of sed"
    return .nothing
  | _ => refuse ("unknown command: `" ++ String.singleton c ++ "'")

/-- What is wrong with the addresses of a command. -/
def addressFault? (first second : Option Address) (depth : Nat) (c : Char) : Option String :=
  let isZero := match first with
    | some (.line 0) => true
    | some (.stepped 0 0) => true
    | _ => false
  let untilMatch := match second with
    | some (.matching _) => true
    | _ => false
  if isZero && !untilMatch then some "invalid usage of line address 0"
  else if c = ':' && first.isSome then some ": doesn't want any addresses"
  else if c = '#' && first.isSome then some "comments don't accept any addresses"
  else if c = '\x7d' && (depth = 0 || first.isSome) then some "unexpected `\x7d'"
  else if (c = 'q' || c = 'Q') && second.isSome then some "command only uses one address"
  else none

/-- The commands from here on; `opened` tells how much was left where blocks were opened that are still
open. -/
def commands (style : Regex.Style) : (steps : Nat) → (opened : List Nat) → Reading (List Command)
  | 0, _ => return []
  | steps + 1, opened => do
    modify (List.dropWhile fun c => Octets.isSpace c || c = ';')
    match ← get with
    | [] =>
      match opened with
      | [] => return []
      | left :: _ => throw (.unclosed left)
    | '#' :: rest =>
      set (rest.dropWhile (· ≠ '\n'))
      commands style steps opened
    | _ =>
      let first ← firstAddress? style
      let second ← if first.isSome then secondAddress? style else pure none
      skipBlanks
      let negated := (← peek) = some '!'
      if negated then
        skip 1
        skipBlanks
        if (← peek) = some '!' then
          skip 1
          refuse "multiple `!'s"
      match ← peek with
      | none => refuse "missing command"
      | some c =>
        skip 1
        if let some fault := addressFault? first second opened.length c then refuse fault
        let left := (← get).length
        let act ← action style c
        let opened :=
          if c = '\x7b' then left :: opened else if c = '\x7d' then opened.drop 1 else opened
        return ⟨first, second, negated, act⟩ :: (← commands style steps opened)

/-- The number of the brace that closes the block which is open at this point. -/
def closing : (depth index : Nat) → List Command → Nat
  | _, index, [] => index
  | depth, index, c :: rest =>
    match c.action with
    | .open _ => closing (depth + 1) (index + 1) rest
    | .close => if depth = 0 then index else closing (depth - 1) (index + 1) rest
    | _ => closing depth (index + 1) rest

/-- Tells each opening brace where its closing one is. -/
def linkBlocks : (index : Nat) → List Command → List Command
  | _, [] => []
  | index, c :: rest =>
    let linked := match c.action with
      | .open _ => { c with action := .open (closing 0 (index + 1) rest) }
      | _ => c
    linked :: linkBlocks (index + 1) rest

abbrev Program := Array Command

def Program.labelled? (program : Program) (name : Octets) : Option Nat :=
  program.findIdx? fun c => match c.action with
    | .label n => n = name
    | _ => false

/-- The files that a program writes to. -/
def Program.files (program : Program) : List Octets :=
  program.toList.filterMap fun c => match c.action with
    | .writeTo file | .writeFirst file => some file
    | .substitute _ _ flags => flags.file
    | _ => none

/-- The program of a script. Every label that is jumped to has to be there. -/
def Program.read (style : Regex.Style) (script : Octets) : Except Refusal Program := do
  let (found, _) ← (commands style (script.length + 1) []).run script
  let program : Program := (linkBlocks 0 found).toArray
  for c in found do
    if let .jump name _ := c.action then
      if name ≠ [] && (program.labelled? name).isNone then throw (.noLabel name)
  return program

end ScopedCheck.Script.Tool.Edit
