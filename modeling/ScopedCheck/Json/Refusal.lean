import ScopedCheck.Text.Utf8

namespace ScopedCheck.Json

inductive Reason where
  | unfinishedValue
  | unfinishedList
  | unfinishedObject
  | unfinishedString
  | expectedIdent
  | expectedValue
  | expectedListEnd
  | expectedObjectEnd
  | expectedColon
  | keyNotString
  | trailingComma
  | trailingCharacters
  | nestingTooDeep
  | invalidNumber
  | numberOutOfRange
  | invalidEscape
  | loneSurrogate
  | unfinishedSurrogatePair
  | controlCharacter
  deriving DecidableEq, Repr

namespace Reason

def text : Reason → String
  | unfinishedValue => "EOF while parsing a value"
  | unfinishedList => "EOF while parsing a list"
  | unfinishedObject => "EOF while parsing an object"
  | unfinishedString => "EOF while parsing a string"
  | expectedIdent => "expected ident"
  | expectedValue => "expected value"
  | expectedListEnd => "expected `,` or `]`"
  | expectedObjectEnd => "expected `,` or `\x7d`"
  | expectedColon => "expected `:`"
  | keyNotString => "key must be a string"
  | trailingComma => "trailing comma"
  | trailingCharacters => "trailing characters"
  | nestingTooDeep => "recursion limit exceeded"
  | invalidNumber => "invalid number"
  | numberOutOfRange => "number out of range"
  | invalidEscape => "invalid escape"
  | loneSurrogate => "lone leading surrogate in hex escape"
  | unfinishedSurrogatePair => "unexpected end of hex escape"
  | controlCharacter => "control character (\\u0000-\\u001F) found while parsing a string"

end Reason

/-- A refusal tells its place as the number of bytes that are left after it. -/
structure Refusal where
  reason : Reason
  left : Nat
  deriving DecidableEq, Repr

namespace Refusal

/-- Refused between the characters read so far and `rest`. -/
def before (reason : Reason) (rest : List Char) : Refusal :=
  ⟨reason, Utf8.byteLength rest⟩

/-- Refused so many bytes into `rest`, or at the end where there are fewer. -/
def inside (reason : Reason) (bytes : Nat) (rest : List Char) : Refusal :=
  ⟨reason, Utf8.byteLength rest - bytes⟩

/-- Refused at the first byte of `rest`, or at the end where there is none. -/
def onFirst (reason : Reason) (rest : List Char) : Refusal :=
  inside reason 1 rest

def atEnd (reason : Reason) : Refusal :=
  ⟨reason, 0⟩

end Refusal

structure Position where
  line : Nat
  column : Nat
  deriving DecidableEq, Repr

namespace Position

/-- The position after some bytes: lines count from one, a column counts the bytes since the last
line end. -/
def after (bytes : Utf8.Bytes) : Position :=
  ⟨1 + bytes.count 10, (bytes.reverse.takeWhile (· ≠ 10)).length⟩

end Position

namespace Refusal

def position (text : List Char) (refusal : Refusal) : Position :=
  let bytes := Utf8.encodeChars text
  .after (bytes.take (bytes.length - refusal.left))

def message (text : List Char) (refusal : Refusal) : String :=
  let p := refusal.position text
  refusal.reason.text ++ " at line " ++ toString p.line ++ " column " ++ toString p.column

end Refusal

end ScopedCheck.Json
