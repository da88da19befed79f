import ScopedCheck.Json.Refusal

namespace ScopedCheck.Json.Literal

def hexValue? (c : Char) : Option Nat :=
  if c.isDigit then some (c.toNat - '0'.toNat)
  else if 'a' ≤ c ∧ c ≤ 'f' then some (c.toNat - 'a'.toNat + 10)
  else if 'A' ≤ c ∧ c ≤ 'F' then some (c.toNat - 'A'.toNat + 10)
  else none

/-- The number written by four hexadecimal digits. -/
def hex4? (a b c d : Char) : Option Nat := do
  let a ← hexValue? a
  let b ← hexValue? b
  let c ← hexValue? c
  let d ← hexValue? d
  return ((a * 16 + b) * 16 + c) * 16 + d

/-- Why no four hexadecimal digits stand at the front: there are not four bytes, or the four that
are there do not form a number. -/
def hexRefusal (cs : List Char) : Refusal :=
  if Utf8.byteLength cs < 4 then .atEnd .unfinishedString else .inside .invalidEscape 4 cs

def isHighSurrogate (n : Nat) : Bool := 0xD800 ≤ n && n < 0xDC00

def isLowSurrogate (n : Nat) : Bool := 0xDC00 ≤ n && n < 0xE000

def joinSurrogates (high low : Nat) : Char :=
  Char.ofNat (0x10000 + (high - 0xD800) * 0x400 + (low - 0xDC00))

/-- Why the second half of a surrogate pair does not stand at the front. -/
def secondHalfRefusal : List Char → Refusal
  | [] => .atEnd .unfinishedString
  | ['\\'] => .atEnd .unfinishedString
  | '\\' :: 'u' :: rest => hexRefusal rest
  | '\\' :: rest => .onFirst .unfinishedSurrogatePair rest
  | cs => .onFirst .unfinishedSurrogatePair cs

/-- The character that a backslash and one letter stand for. -/
def escaped? : Char → Option Char
  | '"' => some '"'
  | '\\' => some '\\'
  | '/' => some '/'
  | 'b' => some '\x08'
  | 'f' => some '\x0c'
  | 'n' => some '\n'
  | 'r' => some '\r'
  | 't' => some '\t'
  | _ => none

def push (c : Char) (result : Except Refusal (List Char × List Char)) :
    Except Refusal (List Char × List Char) :=
  result.map fun (cs, rest) => (c :: cs, rest)

/-- Reads up to the closing quote. -/
def read : List Char → Except Refusal (List Char × List Char)
  | [] => .error (.atEnd .unfinishedString)
  | '"' :: cs => .ok ([], cs)
  | '\\' :: 'u' :: a :: b :: c :: d :: cs =>
    match hex4? a b c d with
    | none => .error (hexRefusal (a :: b :: c :: d :: cs))
    | some n =>
      if isLowSurrogate n then .error (.before .loneSurrogate cs)
      else if isHighSurrogate n then
        match cs with
        | '\\' :: 'u' :: a' :: b' :: c' :: d' :: rest =>
          match hex4? a' b' c' d' with
          | none => .error (secondHalfRefusal cs)
          | some n' =>
            if isLowSurrogate n' then push (joinSurrogates n n') (read rest)
            else .error (.before .loneSurrogate rest)
        | _ => .error (secondHalfRefusal cs)
      else push (Char.ofNat n) (read cs)
  | '\\' :: 'u' :: cs => .error (hexRefusal cs)
  | '\\' :: c :: cs =>
    match escaped? c with
    | some e => push e (read cs)
    | none => .error (.onFirst .invalidEscape (c :: cs))
  | ['\\'] => .error (.atEnd .unfinishedString)
  | c :: cs =>
    if c.toNat < 0x20 then .error (.before .controlCharacter cs) else push c (read cs)

/-- How a character is written inside a literal. -/
def writeChar (c : Char) : List Char :=
  if c = '"' then ['\\', '"']
  else if c = '\\' then ['\\', '\\']
  else if c = '\x08' then ['\\', 'b']
  else if c = '\x0c' then ['\\', 'f']
  else if c = '\n' then ['\\', 'n']
  else if c = '\r' then ['\\', 'r']
  else if c = '\t' then ['\\', 't']
  else if c.toNat < 0x20 then
    ['\\', 'u', '0', '0', Nat.digitChar (c.toNat / 16), Nat.digitChar (c.toNat % 16)]
  else [c]

/-- A literal with both quotes. -/
def write (s : String) : List Char :=
  '"' :: (s.toList.flatMap writeChar ++ ['"'])

end ScopedCheck.Json.Literal
