import ScopedCheck.Text.Utf8

namespace ScopedCheck.Script

abbrev Octets := List Char

/-- The bindings that a process is started with; each name has one at most. -/
abbrev Environment := List (String × Octets)

instance : Hashable Octets where
  hash text := hash (text.map Char.toNat)

namespace Octets

/-- Whether a text comes before another one, or is the same. -/
def isAtMost (a b : Octets) : Bool :=
  !List.lex b a fun c d => Nat.blt c.toNat d.toNat

def ofBytes (bytes : Utf8.Bytes) : Octets :=
  bytes.map fun b => Char.ofNat b.toNat

def toBytes (text : Octets) : Utf8.Bytes :=
  text.map fun c => UInt8.ofNat c.toNat

def ofString (s : String) : Octets :=
  ofBytes (Utf8.encode s)

/-- The text that the bytes stand for. -/
def text (octets : Octets) : String :=
  Utf8.decodeLossy octets.toBytes

/-- The character that stands for a byte which belongs to none. -/
def damaged (c : Char) : Char := Char.ofNat (0x10FF00 + c.toNat)

def isDamaged (c : Char) : Bool := 0x10FF00 ≤ c.toNat

/-- The character that stands for a byte where each byte is a character of its own. -/
def lone (c : Char) : Char := if c.toNat < 0x80 then c else Char.ofNat (0x10FE00 + c.toNat % 256)

def isLone (c : Char) : Bool := 0x10FE00 ≤ c.toNat && c.toNat < 0x10FF00

/-- The byte that such a character stands for. -/
def unlone (c : Char) : Char := if isLone c then Char.ofNat (c.toNat % 256) else c

/-- The characters that the bytes are read as. -/
def widen : (steps : Nat) → Octets → List Char
  | 0, _ => []
  | _, [] => []
  | steps + 1, c :: cs =>
    if c.toNat < 0x80 || isLone c then c :: widen steps cs
    else
      let count := if c.toNat < 0xE0 then 2 else if c.toNat < 0xF0 then 3 else 4
      match (Utf8.decode? (toBytes ((c :: cs).take count))).map String.toList with
      | some [w] => w :: widen steps (cs.drop (count - 1))
      | _ => damaged c :: widen steps cs

def toChars (text : Octets) : List Char :=
  if text.all fun c => c.toNat < 0x80 then text else widen text.length text

/-- The bytes of characters. -/
def ofChars (cs : List Char) : Octets :=
  cs.flatMap fun c =>
    if c.toNat < 0x80 || isLone c then [c]
    else if isDamaged c then [Char.ofNat (c.toNat - 0x10FF00)]
    else ofBytes (String.utf8EncodeChar c)

/-- A message without marks of quotation that are not found everywhere. -/
def withPlainQuotes : Octets → Octets
  | a :: b :: c :: rest =>
    if a.toNat = 0xE2 && b.toNat = 0x80 && (c.toNat = 0x98 || c.toNat = 0x99) then
      '\'' :: withPlainQuotes rest
    else a :: withPlainQuotes (b :: c :: rest)
  | text => text

/-- Whether a character may take several bytes, as an environment says. It may where nothing is said. -/
def isWide (environment : Environment) : Bool :=
  let given := ["LC_ALL", "LC_CTYPE", "LANG"].findSome? fun name =>
    (environment.lookup name).filter (· ≠ [])
  match given with
  | none => true
  | some value => ["c.utf-8", "c.utf8"].contains (text (value.map Char.toLower))

def isNameStart (c : Char) : Bool := c.isAlpha || c = '_'

def isNameChar (c : Char) : Bool := c.isAlphanum || c = '_'

def isName (text : Octets) : Bool :=
  text.head?.any isNameStart && text.all isNameChar

def isSpace (c : Char) : Bool :=
  c = ' ' || (0x09 ≤ c.toNat && c.toNat ≤ 0x0D)

/-- The pieces that end in a character, each with it; a last piece may lack it. -/
def records (ends : Char) (text : Octets) : List Octets :=
  let (current, found) := text.foldl (fun (current, found) c =>
    if c = ends then ([], (c :: current).reverse :: found) else (c :: current, found)) ([], [])
  (if current = [] then found else current.reverse :: found).reverse

/-- The pieces between newlines, each with its newline; a last piece may lack it. -/
def lines (text : Octets) : List Octets := records '\n' text

/-- A line without its newline. -/
def chomp (line : Octets) : Octets :=
  if line.getLast? = some '\n' then line.dropLast else line

/-- Drops the newlines at the end. -/
def trimEnd (text : Octets) : Octets :=
  (text.reverse.dropWhile (· = '\n')).reverse

def digit (c : Char) : Nat :=
  if c.isDigit then c.toNat - 48 else c.toLower.toNat - 87

def isDigitOf (base : Nat) (c : Char) : Bool :=
  (c.isDigit || ('a' ≤ c.toLower && c.toLower ≤ 'z')) && digit c < base

def natOf (base : Nat) (digits : Octets) : Nat :=
  digits.foldl (fun n c => n * base + digit c) 0

/-- The number that digits of a base begin with, and what comes after it. -/
def spanNat (base : Nat) (text : Octets) : Nat × Octets :=
  (natOf base (text.takeWhile (isDigitOf base)), text.dropWhile (isDigitOf base))

/-- A number as it is written in expressions: hexadecimal after `0x`, binary after `0b`, octal after
`0`. -/
def spanPrefixed (text : Octets) : Nat × Octets :=
  match text with
  | '0' :: x :: c :: rest =>
    if x.toLower = 'x' && isDigitOf 16 c then spanNat 16 (c :: rest)
    else if x.toLower = 'b' && isDigitOf 2 c then spanNat 2 (c :: rest)
    else spanNat 8 text
  | '0' :: _ => spanNat 8 text
  | _ => spanNat 10 text

def maxWhole : Int := 9223372036854775807

/-- A number with an optional sign, blanks before it and blanks after it. Nothing but blanks is
zero where the base is left open. -/
def int? (anyBase : Bool) (text : Octets) : Option Int :=
  let body := text.dropWhile isSpace
  let negative := body.head? = some '-'
  let digits := if negative || body.head? = some '+' then body.tail else body
  if digits.head?.any Char.isDigit then
    let (n, rest) := if anyBase then spanPrefixed digits else spanNat 10 digits
    let value : Int := if negative then -n else n
    if rest.all isSpace && -maxWhole - 1 ≤ value && value ≤ maxWhole then some value else none
  else if anyBase && body = [] then some 0
  else none

def ofInt (n : Int) : Octets := (toString n).toList

def ofNat (n : Nat) : Octets := (toString n).toList

/-- A text cut at every blank, empty pieces left out. -/
def fields (text : Octets) : List Octets :=
  let step (c : Char) (state : List Octets × Octets) : List Octets × Octets :=
    if isSpace c then (if state.2 = [] then state.1 else state.2 :: state.1, [])
    else (state.1, c :: state.2)
  let (found, current) := text.foldr step ([], [])
  if current = [] then found else current :: found

end Octets

/-- What a name leads to in a directory of that path. -/
def inside (directory name : Octets) : Octets :=
  if directory.getLast? = some '/' then directory ++ name else directory ++ '/' :: name

end ScopedCheck.Script
