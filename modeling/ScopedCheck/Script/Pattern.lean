import ScopedCheck.Script.Octets

namespace ScopedCheck.Script

/-- A character of a pattern, and whether it is quoted. -/
abbrev Marked := Char × Bool

namespace Pattern

inductive Piece where
  | exactly (c : Char)
  | any
  | many
  | oneOf (negated : Bool) (members : List (Char → Bool))

/-- The classes of characters that have a name. -/
def classes : List (String × (Char → Bool)) :=
  [("alpha", Char.isAlpha), ("digit", Char.isDigit), ("alnum", Char.isAlphanum),
   ("lower", Char.isLower), ("upper", Char.isUpper), ("space", Octets.isSpace),
   ("blank", fun c => c = ' ' || c = '\t'),
   ("punct", fun c => 0x21 ≤ c.toNat && c.toNat ≤ 0x7E && !c.isAlphanum),
   ("print", fun c => 0x20 ≤ c.toNat && c.toNat ≤ 0x7E),
   ("graph", fun c => 0x21 ≤ c.toNat && c.toNat ≤ 0x7E),
   ("cntrl", fun c => c.toNat < 0x20 || c.toNat = 0x7F),
   ("xdigit", Octets.isDigitOf 16)]

/-- The test of a class that is named at the front, and how long its name is with the marks. -/
def class? (text : Octets) : Option ((Char → Bool) × Nat) :=
  classes.findSome? fun (name, test) =>
    let written := "[:".toList ++ name.toList ++ ":]".toList
    if written.isPrefixOf text then some (test, written.length) else none

/-- The members of a bracket set and what comes after its closing bracket, if it has one. A closing
bracket that comes first is a member. -/
def members : (steps : Nat) → (first : Bool) → List Marked →
    Option (List (Char → Bool) × List Marked)
  | 0, _, _ => none
  | _, _, [] => none
  | steps + 1, first, (c, quoted) :: rest =>
    if c = ']' && !quoted && !first then some ([], rest)
    else match if c = '[' && !quoted then class? (c :: rest.map Prod.fst) else none with
      | some (test, length) => do
        let (found, after) ← members steps false (rest.drop (length - 1))
        return (test :: found, after)
      | none =>
        let (c, rest) := match c, quoted, rest with
          | '\\', false, (d, _) :: rest => (d, rest)
          | _, _, _ => (c, rest)
        match rest with
        | ('-', false) :: (high, marked) :: after =>
          if high = ']' && !marked then do
            let (found, after) ← members steps false rest
            return ((fun d => decide (d = c)) :: found, after)
          else do
            let (found, after) ← members steps false after
            return ((fun d => decide (c ≤ d) && decide (d ≤ high)) :: found, after)
        | _ => do
          let (found, after) ← members steps false rest
          return ((fun d => decide (d = c)) :: found, after)

def ofMarked : (steps : Nat) → List Marked → List Piece
  | 0, _ => []
  | _, [] => []
  | steps + 1, (c, true) :: rest => .exactly c :: ofMarked steps rest
  | steps + 1, ('*', false) :: rest => .many :: ofMarked steps rest
  | steps + 1, ('?', false) :: rest => .any :: ofMarked steps rest
  | steps + 1, ('\\', false) :: (c, _) :: rest => .exactly c :: ofMarked steps rest
  | steps + 1, ('[', false) :: rest =>
    let (negated, inside) := match rest with
      | ('!', false) :: inside => (true, inside)
      | inside => (false, inside)
    match members (inside.length + 1) true inside with
    | some (found, after) => .oneOf negated found :: ofMarked steps after
    | none => .exactly '[' :: ofMarked steps rest
  | steps + 1, (c, _) :: rest => .exactly c :: ofMarked steps rest

end Pattern

/-- A pattern is matched piece by piece against a whole text. -/
abbrev Pattern := List Pattern.Piece

namespace Pattern

def ofText (text : List Marked) : Pattern := ofMarked (text.length + 1) text

def matchesText : Pattern → Octets → Bool
  | [], cs => cs = []
  | .many :: pieces, cs =>
    (List.range (cs.length + 1)).any fun n => matchesText pieces (cs.drop n)
  | .exactly e :: pieces, c :: cs => c = e && matchesText pieces cs
  | .any :: pieces, _ :: cs => matchesText pieces cs
  | .oneOf negated tests :: pieces, c :: cs =>
    (tests.any fun test => test c) != negated && matchesText pieces cs
  | _ :: _, [] => false

/-- Whether anything in the text has to be looked for. A backslash that is not quoted takes the
meaning from what comes after it. -/
def isMagic : List Marked → Bool
  | ('\\', false) :: _ :: rest => isMagic rest
  | (c, quoted) :: rest => !quoted && (c = '*' || c = '?' || c = '[') || isMagic rest
  | [] => false

/-- The text that a pattern without magic stands for. -/
def bareText : List Marked → Octets
  | ('\\', false) :: (c, _) :: rest => c :: bareText rest
  | (c, _) :: rest => c :: bareText rest
  | [] => []

/-- Removes the shortest or longest beginning that matches. -/
def trimStart (pattern : Pattern) (longest : Bool) (text : Octets) : Octets :=
  let cuts := (List.range (text.length + 1)).filter fun n => pattern.matchesText (text.take n)
  match if longest then cuts.getLast? else cuts.head? with
  | some n => text.drop n
  | none => text

/-- Removes the shortest or longest end that matches. -/
def trimEnd (pattern : Pattern) (longest : Bool) (text : Octets) : Octets :=
  let cuts := (List.range (text.length + 1)).filter fun n => pattern.matchesText (text.drop n)
  match if longest then cuts.head? else cuts.getLast? with
  | some n => text.take n
  | none => text

end Pattern

end ScopedCheck.Script
