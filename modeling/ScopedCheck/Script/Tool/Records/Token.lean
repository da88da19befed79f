import ScopedCheck.Script.Tool.Records.Pattern
import ScopedCheck.Script.Tool.Records.Value

namespace ScopedCheck.Script.Tool.Records

inductive Token where
  /-- The end of a line. -/
  | newline
  /-- The end of the program. -/
  | finish
  | number (x : Float)
  | text (t : Octets)
  /-- A name, and whether a parenthesis comes right after it. -/
  | name (n : String) (opens : Bool)
  | word (w : String)
  | builtin (f : String)
  | mark (m : String)
  deriving BEq

/-- Why no token can be read. -/
inductive Obstacle where
  | unexpected (c : Char)
  | endless (message : String)

namespace Token

def words : List String :=
  ["BEGIN", "END", "break", "continue", "delete", "do", "else", "exit", "for", "function", "getline",
   "if", "in", "next", "nextfile", "print", "printf", "return", "while"]

def builtins : List String :=
  ["atan2", "close", "cos", "exp", "fflush", "gsub", "index", "int", "length", "log", "match",
   "mktime", "rand", "sin", "split", "sprintf", "sqrt", "srand", "strftime", "sub", "substr",
   "system", "systime", "tolower", "toupper"]

/-- The marks, those first that begin with others. -/
def marks : List String :=
  ["&&", "||", "!~", "==", "!=", "<=", ">=", ">>", "++", "--", "+=", "-=", "*=", "/=", "%=", "^=",
   "+", "-", "*", "/", "%", "^", "!", "<", ">", "|", "?", ":", "~", "$", "=", "(", ")", "\x7b",
   "\x7d", "[", "]", ";", ","]

/-- Blanks, comments and joined lines that come first, and how many lines they are. -/
def skipBlanks : (steps : Nat) → Octets → Nat × Octets
  | 0, rest => (0, rest)
  | steps + 1, rest =>
    match rest with
    | '\\' :: '\r' :: '\n' :: rest | '\\' :: '\n' :: rest =>
      let (lines, rest) := skipBlanks steps rest
      (lines + 1, rest)
    | '#' :: rest => skipBlanks steps (rest.dropWhile (· ≠ '\n'))
    | c :: rest => if c ≠ '\n' && Octets.isSpace c then skipBlanks steps rest else (0, c :: rest)
    | [] => (0, [])

/-- The text up to a mark that no backslash comes before, and what comes after it. -/
def upTo (close : Char) : Octets → Option (Octets × Octets)
  | [] => none
  | '\\' :: c :: rest => (upTo close rest).map fun (inside, after) => ('\\' :: c :: inside, after)
  | c :: rest =>
    if c = close then some ([], rest)
    else if c = '\n' then none
    else (upTo close rest).map fun (inside, after) => (c :: inside, after)

/-- How much is shown of a text that does not end. -/
def shownStart (text : Octets) : String :=
  Octets.text ((text.takeWhile (· ≠ '\n')).take 10) ++ " ..."

/-- The length of a named class in a set that a text begins with. -/
def classLength (text : Octets) : Nat :=
  match text with
  | '[' :: ':' :: rest =>
    let name := rest.takeWhile Char.isAlpha
    if ":]".toList.isPrefixOf (rest.drop name.length) then name.length + 4 else 0
  | _ => 0

/-- The text of an expression up to its slash, and what comes after it. A slash in a set is part of the
set, and one after a backslash loses the backslash. -/
def upToSlash : (steps : Nat) → (inSet : Bool) → Octets → Option (Octets × Octets)
  | 0, _, _ | _, _, [] => none
  | steps + 1, inSet, c :: rest =>
    let text := c :: rest
    let go (count : Nat) (inSet : Bool) : Option (Octets × Octets) :=
      (upToSlash steps inSet (text.drop count)).map fun (inside, after) => (text.take count ++ inside, after)
    if c = '\n' then none
    else if c = '\\' then
      if rest.head? = some '/' then
        (upToSlash steps inSet rest.tail).map fun (inside, after) => ('/' :: inside, after)
      else go 2 inSet
    else if inSet then
      if c = ']' then go 1 false else go (max 1 (classLength text)) true
    else if c = '/' then some ([], rest)
    else if c = '[' then
      let opening := if rest.head? = some '^' then 2 else 1
      go (if (text.drop opening).head? = some ']' then opening + 1 else opening) true
    else go 1 false

/-- The token that a text begins with, after blanks, and what comes after it. -/
def first (text : Octets) : Except Obstacle (Token × Octets) :=
  match text with
  | [] => .ok (finish, [])
  | '\n' :: rest => .ok (newline, rest)
  | '"' :: rest =>
    match upTo '"' rest with
    | some (inside, after) => .ok (.text (unescaped (inside.length + 1) inside), after)
    | none => .error (.endless ("runaway string constant \"" ++ shownStart rest))
  | c :: rest =>
    if c.isDigit || (c = '.' && rest.head?.any Char.isDigit) then
      let (digits, places, after) := spanDigits 10 text
      let (power, after) := spanPower 'e' after
      .ok (number (scaled (Octets.natOf 10 digits) (power - Int.ofNat places)), after)
    else if Octets.isNameStart c then
      let found := text.takeWhile Octets.isNameChar
      let after := text.drop found.length
      let name := String.ofList found
      if words.contains name then .ok (word name, after)
      else if builtins.contains name then .ok (builtin name, after)
      else .ok (.name name (after.head? = some '('), after)
    else match marks.find? fun m => m.toList.isPrefixOf text with
      | some m => .ok (mark m, text.drop m.length)
      | none => .error (.unexpected c)

end Token

end ScopedCheck.Script.Tool.Records
