import ScopedCheck.Text.Split

namespace ScopedCheck

/-- A path as it is written: nothing is normalised. A segment of it is a *component* unless it is empty
or a `.` that does not open a relative path. -/
structure Path where
  text : String
  deriving DecidableEq, Repr, Inhabited

namespace Path

def segments (p : Path) : List String :=
  (Text.split '/' p.text.toList).map String.ofList

/-- The path that leads from the root through these names. -/
def ofNames : List String → Path
  | [] => ⟨"/"⟩
  | names => ⟨String.join (names.map ("/" ++ ·))⟩

def isAbsolute (p : Path) : Bool :=
  p.text.toList.head? = some '/'

/-- An absolute second path replaces the first, an empty first path gives the second; otherwise
one slash stands between them, unless the first ends in one already. -/
def join (p q : Path) : Path :=
  if q.isAbsolute || p.text = "" then q
  else if p.text.toList.getLast? = some '/' then ⟨p.text ++ q.text⟩
  else ⟨p.text ++ "/" ++ q.text⟩

/-- The path of an entry of the directory `p`. -/
def child (p : Path) (name : String) : Path :=
  p.join ⟨name⟩

/-- Whether a segment names something; `opens` says that no segment stands before it. -/
def isComponent (segment : String) (opens : Bool) : Bool :=
  segment ≠ "" && (segment ≠ "." || opens)

/-- Drops what names nothing from segments that are given last first. -/
def skipIdle : List String → List String
  | [] => []
  | s :: above => if isComponent s above.isEmpty then s :: above else skipIdle above

/-- The text of segments that are given last first; without any it is the root or nothing. -/
def ofUpward (absolute : Bool) (upward : List String) : Path :=
  if upward = [] then ⟨if absolute then "/" else ""⟩
  else ⟨String.ofList (Text.join '/' (upward.reverse.map String.toList))⟩

/-- One list of segments, last first, for every proper ancestor, nearest first. -/
def above : List String → List (List String)
  | [] => []
  | s :: rest => if isComponent s rest.isEmpty then skipIdle rest :: above rest else above rest

def upward (p : Path) : List String :=
  p.segments.reverse

/-- The path without its last component; the root and the empty path have none. -/
def parent? (p : Path) : Option Path :=
  (above p.upward).head?.map (ofUpward p.isAbsolute)

/-- The path, its parent, the parent of that, and so on. -/
def ancestors (p : Path) : List Path :=
  p :: (above p.upward).map (ofUpward p.isAbsolute)

/-- The last component, if it is a name. -/
def fileName? (p : Path) : Option String :=
  match skipIdle p.upward with
  | [] => none
  | s :: _ => if s = "." ∨ s = ".." then none else some s

/-- A name up to its last dot; a name without a dot, or with its only dot in front, is kept whole. -/
def stemOf (name : String) : String :=
  let cs := name.toList
  let stem := (cs.reverse.dropWhile (· ≠ '.')).drop 1
  if stem = [] then name else String.ofList stem.reverse

def stem? (p : Path) : Option String :=
  p.fileName?.map stemOf

end Path

end ScopedCheck
