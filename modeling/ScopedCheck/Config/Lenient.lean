import ScopedCheck.Text.Blank

namespace ScopedCheck.Lenient

/-- What a character of commented text belongs to. -/
inductive Mode where
  | code
  | literal
  | lineComment
  | blockComment
  deriving DecidableEq, Repr

/-- Replaces every character of a comment by a space and keeps the line ends. A backslash in a
literal takes the next character with it. -/
def blankComments : Mode → List Char → List Char
  | _, [] => []
  | .code, '"' :: cs => '"' :: blankComments .literal cs
  | .code, '/' :: '/' :: cs => ' ' :: ' ' :: blankComments .lineComment cs
  | .code, '/' :: '*' :: cs => ' ' :: ' ' :: blankComments .blockComment cs
  | .code, c :: cs => c :: blankComments .code cs
  | .literal, '"' :: cs => '"' :: blankComments .code cs
  | .literal, '\\' :: c :: cs => '\\' :: c :: blankComments .literal cs
  | .literal, c :: cs => c :: blankComments .literal cs
  | .lineComment, '\n' :: cs => '\n' :: blankComments .code cs
  | .lineComment, _ :: cs => ' ' :: blankComments .lineComment cs
  | .blockComment, '*' :: '/' :: cs => ' ' :: ' ' :: blankComments .code cs
  | .blockComment, c :: cs => (if c = '\n' then '\n' else ' ') :: blankComments .blockComment cs

def withoutComments (cs : List Char) : List Char :=
  blankComments .code cs

/-- Whether the next character that is not blank closes an array or an object. -/
def closesNext (cs : List Char) : Bool :=
  match cs.dropWhile Text.isBlank with
  | c :: _ => c = ']' || c = '}'
  | [] => false

/-- Replaces every comma that stands before a closing bracket by a space. -/
def blankCommas : (inLiteral : Bool) → List Char → List Char
  | _, [] => []
  | true, '\\' :: c :: cs => '\\' :: c :: blankCommas true cs
  | true, c :: cs => c :: blankCommas (c ≠ '"') cs
  | false, c :: cs => (if c = ',' && closesNext cs then ' ' else c) :: blankCommas (c = '"') cs

def withoutTrailingCommas (cs : List Char) : List Char :=
  blankCommas false cs

/-- The strict text that stands for a lenient one. The comments go first, and the commas are then looked
for in text that has none left. -/
def strip (cs : List Char) : List Char :=
  withoutTrailingCommas (withoutComments cs)

end ScopedCheck.Lenient
