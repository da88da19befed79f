import ScopedCheck.Script.Reader.Source

namespace ScopedCheck.Script

/-- Where a word stands, which says what ends it and what is special in it. -/
inductive Context where
  /-- Ends before a blank or an operator. -/
  | bare
  /-- Ends with a double quote. -/
  | quotes
  /-- Ends with a brace; the text counts as quoted if it stands in quotes. -/
  | braces (quoted : Bool)
  /-- Ends with the text. -/
  | document
  /-- Ends with two parentheses. -/
  | arithmetic
  deriving DecidableEq, Repr

namespace Context

def isQuoted : Context → Bool
  | bare | braces false => false
  | _ => true

/-- The characters that a backslash takes the meaning from; elsewhere that is any character. -/
def escapable : Context → Octets
  | quotes | arithmetic => "$`\"\\".toList
  | document => "$`\\".toList
  | _ => "$`\"\\\x7d".toList

end Context

/-- Readers for what is one level further inside. -/
structure Nested where
  word : Context → Reader Word
  /-- Commands up to a word or an operator that cannot begin one. -/
  script : Reader (List Command)
  command : Reader Command

namespace Reader

/-- Runs a reader on a text of its own, to its end. -/
def within {α : Type} (text : Octets) (line : Nat) (reader : Reader α) : Reader α := do
  let (result, _) ← reader.run { rest := text, line := line, aliases := (← get).aliases }
  return result

/-- The text up to the closing backquote, without the backslashes that keep characters from
ending it. -/
def splitBackquoted (inQuotes : Bool) : Octets → Option (Octets × Nat)
  | [] => none
  | '\x60' :: _ => some ([], 1)
  | '\\' :: c :: cs => do
    let (text, length) ← splitBackquoted inQuotes cs
    let escaped := "`\\$".toList.contains c || (inQuotes && c = '"')
    return (if escaped then c :: text else '\\' :: c :: text, length + 2)
  | c :: cs => do
    let (text, length) ← splitBackquoted inQuotes cs
    return (c :: text, length + 1)

/-- The commands of a list that must end where its text ends. -/
def wholeScript (nested : Nested) : Reader (List Command) := do
  let body ← nested.script
  newlines
  if (← peek).isSome then unexpected none
  return body

def readBackquoted (nested : Nested) (quoted : Bool) : Reader Part := do
  match splitBackquoted quoted (← get).rest with
  | none =>
    drop (← get).rest.length
    refuse "EOF in backquote substitution"
  | some (text, length) =>
    let body ← within text 1 (wholeScript nested)
    drop length
    return .output body quoted

def isSpecial (c : Char) : Bool := "@*#?-$!".toList.contains c || c.isDigit

/-- Reads the name of a parameter in braces. -/
def readName : Reader (Option String) := do
  match ← peek with
  | none => return none
  | some c =>
    if Octets.isNameStart c then return some (Octets.text (← takeWhile Octets.isNameChar))
    else if c.isDigit then return some (Octets.text (← takeWhile Char.isDigit))
    else if isSpecial c then
      drop 1
      return some (String.singleton c)
    else return none

/-- Reads what follows the name of a parameter, and the closing brace. -/
def readUse (nested : Nested) (quoted : Bool) : Reader Use := do
  let fallbacks : List (String × Fallback) :=
    [("-", .substitute), ("=", .assign), ("?", .complain), ("+", .instead)]
  if ← accept "\x7d" then return .value
  for (symbol, kind) in fallbacks do
    if ← accept (":" ++ symbol) then
      return .fallback kind true (← nested.word (.braces quoted))
    if ← accept symbol then
      return .fallback kind false (← nested.word (.braces quoted))
  for (symbol, fromEnd, longest) in
      [("##", false, true), ("#", false, false), ("%%", true, true), ("%", true, false)] do
    if ← accept symbol then return .trim fromEnd longest (← nested.word (.braces false))
  let _ ← nested.word (.braces quoted)
  return .bad

/-- Reads what follows an opening brace. -/
def readBraces (nested : Nested) (quoted : Bool) : Reader Part := do
  let rest := (← get).rest
  let next := rest.tail.head?
  let measures := rest.head? = some '#' && next.any fun c =>
    Octets.isNameStart c || (isSpecial c && (rest.drop 2).head? = some '}')
  if measures then
    drop 1
    match ← readName with
    | some name =>
      if ← accept "\x7d" then return .parameter name .length quoted
      let _ ← nested.word (.braces quoted)
      return .parameter name .bad quoted
    | none => return .parameter "" .bad quoted
  match ← readName with
  | some name => return .parameter name (← readUse nested quoted) quoted
  | none =>
    let _ ← nested.word (.braces quoted)
    return .parameter "" .bad quoted

/-- Reads what follows a dollar sign, if that is an expansion. -/
def readExpansion (nested : Nested) (quoted : Bool) : Reader (Option Part) := do
  if ← accept "((" then return some (.arithmetic (← nested.word .arithmetic) quoted)
  else if ← accept "(" then
    let body ← nested.script
    newlines
    if ← accept ")" then return some (.output body quoted)
    else unexpected (some (quote ")"))
  else if ← accept "\x7b" then return some (← readBraces nested quoted)
  else match ← peek with
    | none => return none
    | some c =>
      if Octets.isNameStart c then
        return some (.parameter (Octets.text (← takeWhile Octets.isNameChar)) .value quoted)
      else if isSpecial c then
        drop 1
        return some (.parameter (String.singleton c) .value quoted)
      else return none

/-- What is refused when the text ends inside of a word. -/
def unclosed {α : Type} : Context → Reader α
  | .braces _ => refuse "Missing '\x7d'"
  | .arithmetic => refuse "Missing '))'"
  | _ => refuse "Unterminated quoted string"

/-- Reads a word piece by piece. Within an expression it counts the open parentheses. -/
def readParts (nested : Nested) (context : Context) : (steps parens : Nat) → Reader Word
  | 0, _ => return []
  | steps + 1, parens => do
    let quoted := context.isQuoted
    match ← peek with
    | none => if context = .bare || context = .document then return [] else unclosed context
    | some '\\' =>
      if (← get).rest.tail = [] then
        drop 1
        return Word.cons '\\' true (← readParts nested context steps parens)
      if ← accept "\\\n" then readParts nested context steps parens
      else
        drop 1
        let next := (← peek).getD '\\'
        if !quoted || context.escapable.contains next then
          drop 1
          return Word.cons next true (← readParts nested context steps parens)
        else return Word.cons '\\' true (← readParts nested context steps parens)
    | some '$' =>
      drop 1
      match ← readExpansion nested quoted with
      | some part => return part :: (← readParts nested context steps parens)
      | none => return Word.cons '$' quoted (← readParts nested context steps parens)
    | some '\x60' =>
      drop 1
      let part ← readBackquoted nested quoted
      return part :: (← readParts nested context steps parens)
    | some c =>
      if c = '\'' && !quoted then
        drop 1
        let text ← takeWhile (· ≠ '\'')
        if !(← accept "'") then unclosed context
        return .text text true :: (← readParts nested context steps parens)
      else if c = '"' && context = .quotes then
        drop 1
        return []
      else if c = '"' && context ≠ .document && context ≠ .arithmetic then
        drop 1
        let inside ← nested.word .quotes
        let marked := if inside = [] then [.text [] true] else inside
        return marked ++ (← readParts nested context steps parens)
      else if c = '}' && (context = .braces true || context = .braces false) then
        drop 1
        return []
      else if context = .bare && endsWord c then return []
      else if context = .arithmetic && parens = 0 && "))".toList.isPrefixOf (← get).rest then
        drop 2
        return []
      else
        drop 1
        let parens := if c = '(' then parens + 1 else if c = ')' then parens - 1 else parens
        return Word.cons c quoted (← readParts nested context steps parens)

end Reader

end ScopedCheck.Script
