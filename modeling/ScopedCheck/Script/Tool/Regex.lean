import ScopedCheck.Script.Pattern
import ScopedCheck.Text.Letters
import Std.Data.HashSet

namespace ScopedCheck.Script

inductive Regex where
  | empty
  | one (test : Char → Bool)
  /-- Where the text begins, or any line of it. -/
  | start (lines : Bool)
  /-- Where the text ends, or any line of it. -/
  | finish (lines : Bool)
  /-- Between a character of a word and another one; which side the word is on may matter. -/
  | edge (wordBefore wordAfter : Bool)
  /-- Where no word begins or ends. -/
  | smooth
  | sequence (first second : Regex)
  | either (first second : Regex)
  | many (body : Regex) (least : Nat) (most : Option Nat)
  | group (number : Nat) (body : Regex)
  /-- The text of a group once more. -/
  | again (number : Nat)
  /-- As few times as possible. -/
  | few (body : Regex) (least : Nat) (most : Option Nat)
  /-- What comes next matches or does not. -/
  | ahead (body : Regex) (wanted : Bool)
  /-- What comes right before, in so many characters, matches or does not. -/
  | behind (lengths : List Nat) (body : Regex) (wanted : Bool)
  /-- Only the first way to match counts. -/
  | firstWay (body : Regex)
  /-- The match begins here only. -/
  | keep

namespace Regex

instance : Inhabited Regex := ⟨.empty⟩

/-- A point in a text: the characters before it, the nearest one first, what comes after it, the groups
so far, and how far it lies from where the search began. -/
structure Point where
  passed : List Char
  rest : List Char
  groups : List (Nat × List Char) := []
  place : Nat := 0
  /-- Where the match was said to begin. -/
  kept : Option Nat := none

namespace Point

def step (p : Point) (c : Char) (rest : List Char) : Point :=
  { p with passed := c :: p.passed, rest := rest, place := p.place + 1 }

def advance : (count : Nat) → Point → Point
  | 0, p => p
  | count + 1, p =>
    match p.rest with
    | [] => p
    | c :: rest => (p.step c rest).advance count

def retreat : (count : Nat) → Point → Point
  | 0, p => p
  | count + 1, p =>
    match p.passed with
    | [] => p
    | c :: passed => { p with passed := passed, rest := c :: p.rest, place := p.place - 1 }.retreat count

/-- What lies between a point and a later one. -/
def upTo (p q : Point) : List Char := p.rest.take (q.place - p.place)

end Point

/-- Keeps one point of those at the same place, the first one. -/
def distinct (points : List Point) : List Point :=
  match points with
  | [] | [_] => points
  | _ =>
    let keep (state : Std.HashSet Nat × List Point) (p : Point) : Std.HashSet Nat × List Point :=
      if state.1.contains p.place then state else (state.1.insert p.place, p :: state.2)
    (points.foldl keep (∅, [])).2.reverse

/-- The points that were found by taking steps again and again, the last one first, and the places that
were visited, with the number of steps as far as it matters. -/
structure Tour where
  visited : Std.HashSet (Nat × Nat) := ∅
  found : List Point := []

/-- The points that any allowed number of steps leads to: what more steps from a point lead to comes
before the point itself, or after it if few are preferred. A step that leads nowhere is taken only
where more are demanded. -/
def iterate (step : Point → List Point) (least : Nat) (most : Option Nat) (few : Bool) :
    (rounds done : Nat) → Tour → Point → Tour
  | 0, _, tour, _ => tour
  | rounds + 1, done, tour, p =>
    let key := (p.place, if most.isSome then done else min done least)
    if tour.visited.contains key then tour
    else
      let tour := { tour with visited := tour.visited.insert key }
      let note (tour : Tour) : Tour :=
        if least ≤ done then { tour with found := p :: tour.found } else tour
      if most.any (· ≤ done) then note tour
      else
        let next := (step p).filter fun q => p.place < q.place || done < least
        let further (tour : Tour) : Tour :=
          next.foldl (fun tour q => iterate step least most few rounds (done + 1) tour q) tour
        if few then further (note tour) else note (further tour)

/-- The points of a tour from a point on, in the order in which they are preferred. -/
def tour (step : Point → List Point) (least : Nat) (most : Option Nat) (few : Bool) (p : Point) :
    List Point :=
  distinct (iterate step least most few (p.rest.length + least + 2) 0 {} p).found.reverse

/-- The points after one, two and more characters that pass a test. -/
def run (test : Char → Bool) : (most : Nat) → Point → (found : List Point) → List Point
  | 0, p, found => p :: found
  | most + 1, p, found =>
    match p.rest with
    | [] => p :: found
    | c :: rest => if test c then run test most (p.step c rest) (p :: found) else p :: found

/-- Whether a character is part of a word. -/
def isWordChar (c : Char) : Bool :=
  Octets.isNameChar c || (128 ≤ c.toNat && Letters.isLetter c)

/-- The points where a match that begins at a point may end, the preferred ones first. -/
def ends : Regex → Point → List Point
  | empty, p => [p]
  | one test, p =>
    match p.rest with
    | c :: rest => if test c then [p.step c rest] else []
    | [] => []
  | start lines, p =>
    if p.passed.isEmpty || (lines && p.passed.head? = some '\n') then [p] else []
  | finish lines, p =>
    if p.rest.isEmpty || (lines && p.rest.head? = some '\n') then [p] else []
  | edge wordBefore wordAfter, p =>
    let before := p.passed.head?.any isWordChar
    let after := p.rest.head?.any isWordChar
    if (wordBefore && before && !after) || (wordAfter && after && !before) then [p] else []
  | smooth, p =>
    if p.passed.head?.any isWordChar = p.rest.head?.any isWordChar then [p] else []
  | sequence first second, p => distinct ((ends first p).flatMap (ends second))
  | either first second, p => distinct (ends first p ++ ends second p)
  | many (one test) least most, p =>
    (run test (most.getD p.rest.length) p []).filter fun q => p.place + least ≤ q.place
  | many body least most, p => tour (ends body) least most false p
  | few body least most, p => tour (ends body) least most true p
  | group number body, p =>
    (ends body p).map fun q =>
      { q with groups := (number, p.upTo q) :: q.groups.filter (·.1 ≠ number) }
  | again number, p =>
    match p.groups.lookup number with
    | some text => if text.isPrefixOf p.rest then [p.advance text.length] else []
    | none => []
  | ahead body wanted, p =>
    match ends body p, wanted with
    | q :: _, true => [{ p with groups := q.groups }]
    | [], false => [p]
    | _, _ => []
  | behind lengths body wanted, p =>
    let found := lengths.any fun n =>
      (p.passed.take n).length = n && (ends body (p.retreat n)).any fun q => q.place = p.place
    if found = wanted then [p] else []
  | firstWay body, p => (ends body p).take 1
  | keep, p => [{ p with kept := some p.place }]

/-- A match: what comes before it, its text, what comes after it, and its groups. -/
structure Match where
  before : List Char
  text : List Char
  after : List Char
  groups : List (Nat × List Char)

/-- The longest match at a point. -/
def matchAt (r : Regex) (p : Point) : Option Point :=
  (ends r p).foldl (fun best q =>
    if best.any fun b => q.place ≤ b.place then best else some q) none

/-- The first match from a point on; the characters passed over are given last first. -/
def search (r : Regex) : (steps : Nat) → (skipped : List Char) → Point → Option Match
  | 0, _, _ => none
  | steps + 1, skipped, p =>
    match r.matchAt p with
    | some q =>
      let opening := p.advance (q.kept.getD p.place - p.place)
      some ⟨skipped.reverse ++ p.upTo opening, opening.upTo q, q.rest, q.groups⟩
    | none =>
      match p.rest with
      | [] => none
      | c :: rest => search r steps (c :: skipped) (p.step c rest)

/-- The first match in a text, given what comes before the text, the nearest character first. -/
def find? (r : Regex) (passed : List Char) (text : List Char) : Option Match :=
  r.search (text.length + 1) [] { passed := passed, rest := text }

def isMatch (r : Regex) (text : List Char) : Bool :=
  (r.find? [] text).isSome

/-- How expressions are written: with bare operators or with operators after backslashes, or only
those for repetition bare; whether the case of letters counts, and for which letters; whether each
line has a beginning and an end; and whether an operator that has nothing to work on stands for
itself. -/
structure Style where
  bare : Bool := false
  bareRepeats : Bool := false
  anyCase : Bool := false
  allLetters : Bool := false
  lines : Bool := false
  lax : Bool := false

structure Source where
  rest : List Char
  groups : Nat := 0
  /-- The greatest number of a group that has been closed. -/
  closed : Nat := 0
  /-- The operators that had nothing to work on, last first. -/
  idle : List String := []

abbrev Reading := StateT Source (Except String)

def Style.fold (style : Style) (c : Char) : Char :=
  if style.allLetters then Letters.toLower c else c.toLower

def literal (style : Style) (c : Char) : Regex :=
  if style.anyCase then .one fun d => style.fold d = style.fold c else .one fun d => d = c

def accept (text : String) : Reading Bool := do
  let s ← get
  if text.toList.isPrefixOf s.rest then
    set { s with rest := s.rest.drop text.length }
    return true
  else return false

/-- An operator, which one style writes bare and the other after a backslash. -/
def acceptOperator (style : Style) (symbol : String) : Reading Bool :=
  accept (if style.bare then symbol else "\\" ++ symbol)

/-- An operator for repetition. -/
def acceptRepeat (style : Style) (symbol : String) : Reading Bool :=
  accept (if style.bare || style.bareRepeats then symbol else "\\" ++ symbol)

def looksAtEnd (style : Style) : Reading Bool := do
  let rest := (← get).rest
  let marks := if style.bare then ["|", ")"] else ["\\|", "\\)"]
  return rest = [] || marks.any fun m => m.toList.isPrefixOf rest

/-- The classes of characters that have a name, for all letters. -/
def classTest (name : String) : Option (Char → Bool) :=
  (Pattern.classes.lookup name).map fun test => fun c =>
    if c.toNat < 128 then test c
    else if Octets.isDamaged c then false
    else match name with
      | "alpha" | "alnum" => Letters.isLetter c
      | "upper" => Letters.isUpper c
      | "lower" => Letters.isLower c
      | "print" | "graph" => 160 ≤ c.toNat
      | "punct" => 160 ≤ c.toNat && !Letters.isLetter c
      | "cntrl" => c.toNat < 160
      | _ => false

/-- One member of a set, or the start of a range. -/
inductive Member where
  | test (holds : Char → Bool)
  | char (c : Char)

/-- Reads one member. A class, an equivalence or a collating element stands in brackets. -/
def readMember (text : List Char) : Except String (Member × List Char) :=
  let close (mark : Char) (rest : List Char) : Option (List Char × List Char) :=
    let name := rest.takeWhile fun c => c ≠ mark && c ≠ ']'
    match rest.drop name.length with
    | d :: ']' :: after => if d = mark then some (name, after) else none
    | _ => none
  match text with
  | '[' :: ':' :: rest =>
    match close ':' rest with
    | some (name, after) =>
      match classTest (String.ofList name) with
      | some test => .ok (.test test, after)
      | none => .error "Invalid character class name"
    | none => .ok (.char '[', ':' :: rest)
  | '[' :: mark :: rest =>
    if mark = '=' || mark = '.' then
      match close mark rest with
      | some ([c], after) => .ok (.char c, after)
      | some _ => .error "Invalid collation character"
      | none => .error "Unmatched [, [^, [:, [., or [="
    else .ok (.char '[', mark :: rest)
  | c :: rest => .ok (.char c, rest)
  | [] => .error "Unmatched [, [^, [:, [., or [="

/-- The members of a set up to its closing bracket, and what comes after that. -/
def readMembers : (steps : Nat) → (first : Bool) → List Char →
    Except String (List (Char → Bool) × List Char)
  | 0, _, _ | _, _, [] => .error "Unmatched [, [^, [:, [., or [="
  | steps + 1, first, c :: rest => do
    if c = ']' && !first then return ([], rest)
    match ← readMember (c :: rest) with
    | (.test test, after) =>
      let (tests, after) ← readMembers steps false after
      return (test :: tests, after)
    | (.char low, '-' :: high :: after) =>
      if high = ']' then
        let (tests, after) ← readMembers steps false ('-' :: high :: after)
        return ((fun d => d = low) :: tests, after)
      else match ← readMember (high :: after) with
        | (.char high, after) =>
          if high < low then throw "Invalid range end"
          let (tests, after) ← readMembers steps false after
          return ((fun d => low ≤ d && d ≤ high) :: tests, after)
        | (.test _, _) => throw "Invalid range end"
    | (.char c, after) =>
      let (tests, after) ← readMembers steps false after
      return ((fun d => d = c) :: tests, after)

/-- The test of some members, any case of a letter counting if that is wanted. -/
def setTest (style : Style) (tests : List (Char → Bool)) (negated : Bool) : Regex :=
  let holds (c : Char) : Bool := tests.any fun test =>
    test c || (style.anyCase && (test (style.fold c) ||
      test (if style.allLetters then Letters.toUpper c else c.toUpper)))
  .one fun c => holds c != negated && !Octets.isDamaged c

def readSet (style : Style) : Reading Regex := do
  let whole := (← get).rest
  let negated ← accept "^"
  let rest := (← get).rest
  if rest.isEmpty then throw "Invalid regular expression"
  match readMembers (rest.length + 1) true rest with
  | .error message => throw message
  | .ok (tests, after) =>
    let inside := whole.take (whole.length - after.length - 1)
    if inside.length > 1 && inside.head? = some ':' && inside.getLast? = some ':' then
      throw "character class syntax is [[:space:]], not [:space:]"
    modify fun s => { s with rest := after }
    return setTest style tests negated

/-- The expression that a character after a backslash stands for. -/
def escaped (style : Style) (c : Char) : Regex :=
  match c with
  | 'w' => .one isWordChar
  | 'W' => .one fun d => !isWordChar d && !Octets.isDamaged d
  | 's' => .one Octets.isSpace
  | 'S' => .one fun d => !Octets.isSpace d
  | '<' => .edge false true
  | '>' => .edge true false
  | 'b' => .edge true true
  | 'B' => .smooth
  | '\x60' => .start false
  | '\'' => .finish false
  | _ => if c.isDigit && c ≠ '0' then .again (Octets.digit c) else literal style c

/-- The bounds of a repetition, after the opening brace. -/
def bounds? (style : Style) (text : List Char) : Option (Nat × Option Nat × List Char) :=
  let close := if style.bare then ['\x7d'] else ['\\', '\x7d']
  let low := text.takeWhile Char.isDigit
  let rest := text.drop low.length
  let least := Octets.natOf 10 low
  let (most, rest) := match rest with
    | ',' :: rest =>
      let high := rest.takeWhile Char.isDigit
      (if high = [] then none else some (Octets.natOf 10 high), rest.drop high.length)
    | _ => (some least, rest)
  if (low = [] && text.head? ≠ some ',') || !close.isPrefixOf rest then none
  else some (least, most, rest.drop close.length)

/-- One expression without what repeats it. -/
def readAtom (style : Style) (inner : Reading Regex) (opens : Bool) : Reading Regex := do
  if ← acceptOperator style "(" then
    let number := (← get).groups + 1
    modify fun s => { s with groups := number }
    let body ← inner
    if ← acceptOperator style ")" then
      modify fun s => { s with closed := max s.closed number }
      return .group number body
    else throw "Unmatched ( or \\("
  match (← get).rest with
  | [] => return .empty
  | c :: rest =>
    modify fun s => { s with rest := rest }
    match c with
    | '.' => return .one fun d => !Octets.isDamaged d
    | '[' => readSet style
    | '^' => if opens || style.bare then return .start style.lines else return literal style c
    | '$' =>
      if style.bare || (← looksAtEnd style) then return .finish style.lines
      else return literal style c
    | '\\' =>
      match rest with
      | [] => throw "Trailing backslash"
      | d :: rest =>
        modify fun s => { s with rest := rest }
        let result := escaped style d
        if let .again n := result then
          if (← get).closed < n then throw "Invalid back reference"
        return result
    | _ => return literal style c

/-- The greatest bound of a repetition. -/
def maxBound : Nat := 32767

/-- The bounds of a repetition in braces; none if the brace stands for itself. -/
def readBounds (style : Style) : Reading (Option (Nat × Option Nat)) := do
  let rest := (← get).rest
  match bounds? style rest with
  | some (least, most, after) =>
    if maxBound < least || most.any (maxBound < ·) then throw "Regular expression too big"
    if most.any (· < least) then throw "Invalid content of \\\x7b\\\x7d"
    modify fun s => { s with rest := after }
    return some (least, most)
  | none =>
    if style.lax && style.bare then return none
    let bound := rest.dropWhile fun c => c.isDigit || c = ','
    throw (if bound = [] then "Unmatched \\\x7b" else "Invalid content of \\\x7b\\\x7d")

/-- Repeats an expression as is written after it. -/
def repeated (style : Style) : (steps : Nat) → Regex → Reading Regex
  | 0, r => return r
  | steps + 1, r => do
    if ← accept "*" then repeated style steps (.many r 0 none)
    else if ← acceptRepeat style "+" then repeated style steps (.many r 1 none)
    else if ← acceptRepeat style "?" then repeated style steps (.many r 0 (some 1))
    else
      let before ← get
      if ← acceptOperator style "\x7b" then
        match ← readBounds style with
        | some (least, most) => repeated style steps (.many r least most)
        | none =>
          set before
          return r
      else return r

/-- Whether an operator for repetition comes next. -/
def looksAtRepeat (style : Style) : Reading Bool := do
  let rest := (← get).rest
  return "*+?".toList.any (rest.head? = some ·) ||
    (rest.head? = some '\x7b' && (!style.lax || (bounds? style rest.tail).isSome))

/-- Expressions one after another. A star that comes first stands for itself. -/
def readSequence (style : Style) (inner : Reading Regex) :
    (steps : Nat) → (opens : Bool) → Reading Regex
  | 0, _ => return .empty
  | steps + 1, opens => do
    if ← looksAtEnd style then return .empty
    let misplaced ← if opens && style.bare then looksAtRepeat style else pure false
    if misplaced then
      if !style.lax then throw "Invalid preceding regular expression"
      modify fun s =>
        let mark := String.ofList (s.rest.take 1)
        { s with idle := (if mark = "\x7b" then "\x7b...\x7d" else mark) :: s.idle }
    let first ←
      if misplaced then repeated style (← get).rest.length.succ .empty
      else if opens && !style.bare && (← get).rest.head? = some '*' then do
        let _ ← accept "*"
        repeated style (← get).rest.length.succ (literal style '*')
      else do
        let atom ← readAtom style inner opens
        match atom with
        | .start _ => pure atom
        | _ => repeated style (← get).rest.length.succ atom
    let stillOpens := match first with
      | .start _ => true
      | _ => false
    return .sequence first (← readSequence style inner steps stillOpens)

def readEither (style : Style) (inner : Reading Regex) : (steps : Nat) → Reading Regex
  | 0 => return .empty
  | steps + 1 => do
    let first ← readSequence style inner ((← get).rest.length + 1) true
    if ← acceptOperator style "|" then return .either first (← readEither style inner steps)
    else return first

/-- How deep groups may lie within each other. -/
def maxDepth : Nat := 64

def readDeep (style : Style) : (depth : Nat) → Reading Regex
  | 0 => throw "Regular expression too big"
  | depth + 1 => do readEither style (readDeep style depth) ((← get).rest.length + 1)

/-- The expression that is written in a style, and the operators that had nothing to work on. A closing
parenthesis without an opening one may stand for itself. -/
def readWhole (style : Style) : (steps : Nat) → Source → Except String (Regex × List String)
  | 0, source => .ok (.empty, source.idle.reverse)
  | steps + 1, source => do
    let (r, s) ← (readDeep style maxDepth).run source
    match s.rest, style.bare && style.lax with
    | [], _ => return (r, s.idle.reverse)
    | ')' :: rest, true =>
      let (more, idle) ← readWhole style steps { s with rest := rest }
      return (.sequence r (.sequence (literal style ')') more), idle)
    | _, _ => throw "Unmatched ) or \\)"

/-- The expression that is written in a style, and the operators that had nothing to work on. -/
def readTelling (style : Style) (text : List Char) : Except String (Regex × List String) :=
  readWhole style (text.length + 1) { rest := text }

def read (style : Style) (text : List Char) : Except String Regex := do
  return (← readTelling style text).1

/-- How many groups an expression has. -/
def groupCount : Regex → Nat
  | sequence first second | either first second => first.groupCount + second.groupCount
  | many body _ _ => body.groupCount
  | group _ body => body.groupCount + 1
  | few body _ _ => body.groupCount
  | ahead body _ | behind _ body _ | firstWay body => body.groupCount
  | _ => 0

/-- The expression that stands for exactly this text. -/
def ofText (style : Style) (text : List Char) : Regex :=
  text.foldr (fun c r => .sequence (literal style c) r) .empty

end Regex

end ScopedCheck.Script
