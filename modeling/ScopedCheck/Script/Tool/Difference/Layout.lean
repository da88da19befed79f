import ScopedCheck.Script.Tool.Difference.Alignment
import ScopedCheck.Script.Tool.Filters
import ScopedCheck.Script.Tool.Regex

namespace ScopedCheck.Script.Tool.Difference

/-- The forms in which differences are written. -/
inductive Form where
  | plain
  | context
  | unified
  /-- Commands of a line editor, the last change first. -/
  | script
  /-- The same commands, the first change first. -/
  | forward
  /-- Commands with counts of lines. -/
  | revisions
  /-- Both texts beside each other. -/
  | columns
  /-- One text with both versions of what differs. -/
  | merged
  deriving DecidableEq

/-- Whether a last line without an end stays as it is. -/
def Form.keepsLastLine (f : Form) : Bool := f ≠ .script && f ≠ .forward

/-- Which blanks do not count. -/
structure Blanks where
  tabs : Bool := false
  trailing : Bool := false
  runs : Bool := false
  all : Bool := false

/-- Whether blanks at the end of a line do not count. -/
def Blanks.trims (b : Blanks) : Bool := b.trailing || b.runs || b.all

/-- How lines and groups of lines are written in a merged text: those of the old text, those of the
new one, those of both, and for groups those that were changed. -/
structure Formats where
  old : Octets := "%l\n".toList
  new : Octets := "%l\n".toList
  same : Octets := "%l\n".toList
  oldGroup : Octets := "%<".toList
  newGroup : Octets := "%>".toList
  sameGroup : Octets := "%=".toList
  changedGroup : Octets := "%<%>".toList

structure Settings where
  form : Form := .plain
  /-- How many lines are shown around a change. -/
  context : Nat := 0
  blanks : Blanks := {}
  anyCase : Bool := false
  /-- Whether changes of nothing but empty lines do not count. -/
  skipEmpty : Bool := false
  /-- Changes of nothing but lines that match one of these do not count. -/
  skipped : List Regex := []
  /-- The lines that name what comes after them. -/
  headings : List Regex := []
  tabAfterMark : Bool := false
  expandTabs : Bool := false
  tabSize : Nat := 8
  /-- Whether no blank is written before an empty line. -/
  bareEmpty : Bool := false
  skipCommon : Bool := false
  leftOnly : Bool := false
  width : Nat := 130
  dropReturns : Bool := false
  thorough : Bool := false
  formats : Formats := {}

/-- Whether texts without a difference leave nothing to write. -/
def Settings.quietIfSame (s : Settings) : Bool :=
  match s.form with
  | .columns => s.skipCommon
  | .merged => s.formats.sameGroup = [] || (s.formats.sameGroup = "%=".toList && s.formats.same = [])
  | _ => true

/-- The lines of both texts, each with its end, and the changes between them. -/
structure Sides where
  old : Array Octets
  new : Array Octets
  changes : List Change

def lineAt (lines : Array Octets) (n : Nat) : Octets := lines.getD n []

def slice (lines : Array Octets) (start count : Nat) : List Octets :=
  (lines.extract start (start + count)).toList

/-- The columns that a line takes, tabs filled up with blanks. -/
def fillTabs (size : Nat) : (column : Nat) → Octets → Octets
  | _, [] => []
  | column, c :: rest =>
    if c = '\t' then
      let count := size - column % size
      List.replicate count ' ' ++ fillTabs size (column + count) rest
    else if c = '\x08' then
      if column = 0 then fillTabs size 0 rest else c :: fillTabs size (column - 1) rest
    else
      let next := if c = '\r' then 0 else if isHidden c || 128 ≤ c.toNat then column else column + 1
      c :: fillTabs size next rest

/-- A run of blanks as one blank, and no blank at the end. -/
def joinBlanks : Octets → Octets
  | [] => []
  | c :: rest =>
    if Octets.isSpace c then
      let after := rest.dropWhile Octets.isSpace
      if after = [] then [] else if rest.head?.any Octets.isSpace then joinBlanks rest
      else ' ' :: joinBlanks rest
    else c :: joinBlanks rest

def trimBlanks (text : Octets) : Octets :=
  (text.reverse.dropWhile Octets.isSpace).reverse

/-- What counts of a line, and whether it lacks its end. -/
def Settings.key (s : Settings) (line : Octets) : Octets × Bool :=
  let body := Octets.chomp line
  let text :=
    if s.blanks.all then body.filter (!Octets.isSpace ·)
    else if s.blanks.runs then joinBlanks body
    else
      let text := if s.blanks.tabs then fillTabs 8 0 body else body
      if s.blanks.trailing then trimBlanks text else text
  (if s.anyCase then text.map Char.toLower else text,
    s.form.keepsLastLine && !s.blanks.trims && body.length = line.length)

/-- Whether a line is one of those whose change does not count. -/
def Settings.skips (s : Settings) (line : Octets) : Bool :=
  let body := Octets.chomp line
  let rest := if s.blanks.runs || s.blanks.all || (s.blanks.trailing && body.all Octets.isSpace) then
    body.dropWhile Octets.isSpace else body
  (s.skipEmpty && rest = []) || s.skipped.any fun r => r.isMatch (Octets.toChars body)

/-- Whether a change counts for nothing. -/
def Sides.skips (s : Settings) (t : Sides) (c : Change) : Bool :=
  (s.skipEmpty || s.skipped ≠ []) &&
    (slice t.old c.old c.deleted).all s.skips && (slice t.new c.new c.inserted).all s.skips

/-- What is written after a line that lacks its end. -/
def missingEnd : Octets := "\n\\ No newline at end of file\n".toList

def Settings.expand (s : Settings) (line : Octets) : Octets :=
  if s.expandTabs then fillTabs s.tabSize 0 line else line

/-- A line after a mark. -/
def Settings.marked (s : Settings) (mark : String) (line : Octets) : Octets :=
  let bare := s.bareEmpty && line = ['\n']
  let start := if bare then (if mark = " " then [] else mark.toList)
    else mark.toList ++ [if s.tabAfterMark then '\t' else ' ']
  start ++ s.expand line ++ if Octets.chomp line = line then missingEnd else []

/-- The numbers of lines, counted from one; of no lines, the number of the line before. -/
def numbers (separator : Char) (start count : Nat) : Octets :=
  if count ≤ 1 then Octets.ofNat (start + count)
  else Octets.ofNat (start + 1) ++ separator :: Octets.ofNat (start + count)

/-- What happens to lines: they go, they come, or they are replaced. -/
def Change.letter (c : Change) : Char :=
  if c.inserted = 0 then 'd' else if c.deleted = 0 then 'a' else 'c'

def plainChange (s : Settings) (t : Sides) (c : Change) : Octets :=
  numbers ',' c.old c.deleted ++ c.letter :: numbers ',' c.new c.inserted ++ ['\n'] ++
    (slice t.old c.old c.deleted).flatMap (s.marked "<") ++
    (if c.letter = 'c' then "---\n".toList else []) ++
    (slice t.new c.new c.inserted).flatMap (s.marked ">")

/-- The lines that an editor is to take; one that is a lone dot would be the end of them. -/
def editedLines (s : Settings) : (inserting : Bool) → List Octets → Octets
  | inserting, [] => if inserting then ".\n".toList else []
  | inserting, line :: rest =>
    (if inserting then [] else "a\n".toList) ++
      if line = ".\n".toList then "..\n.\ns/.//\n".toList ++ editedLines s false rest
      else s.expand line ++ editedLines s true rest

def scriptChange (s : Settings) (t : Sides) (c : Change) : Octets :=
  numbers ',' c.old c.deleted ++ [c.letter, '\n'] ++
    if c.letter = 'd' then [] else editedLines s true (slice t.new c.new c.inserted)

def forwardChange (s : Settings) (t : Sides) (c : Change) : Octets :=
  c.letter :: numbers ' ' c.old c.deleted ++ ['\n'] ++
    if c.letter = 'd' then []
    else (slice t.new c.new c.inserted).flatMap s.expand ++ ".\n".toList

def revisionChange (s : Settings) (t : Sides) (c : Change) : Octets :=
  let line (letter : Char) (number count : Nat) : Octets :=
    letter :: Octets.ofNat number ++ ' ' :: Octets.ofNat count ++ ['\n']
  (if c.deleted = 0 then [] else line 'd' (c.old + 1) c.deleted) ++
    if c.inserted = 0 then []
    else line 'a' c.oldEnd c.inserted ++ (slice t.new c.new c.inserted).flatMap s.expand

/-- The changes that are shown together: those with little between them. One that counts for nothing
is shown only with one right before it. -/
def hunks (s : Settings) (t : Sides) : List Change → List (List Change)
  | [] => []
  | c :: rest =>
    match hunks s t rest with
    | (next :: group) :: more =>
      let far := if t.skips s next then s.context else 2 * s.context + 1
      if next.old - c.oldEnd < far then (c :: next :: group) :: more
      else [c] :: (next :: group) :: more
    | more => [c] :: more

/-- The lines of both texts that are shown with some changes. -/
structure Extent where
  old : Nat
  oldEnd : Nat
  new : Nat
  newEnd : Nat

def extentOf (s : Settings) (t : Sides) (group : List Change) : Extent :=
  match group.head?, group.getLast? with
  | some first, some last =>
    ⟨first.old - s.context, min (last.oldEnd + s.context) t.old.size,
      first.new - s.context, min (last.newEnd + s.context) t.new.size⟩
  | _, _ => ⟨0, 0, 0, 0⟩

/-- The last heading before a line. -/
def headingBefore? (s : Settings) (t : Sides) (n : Nat) : Option Octets :=
  (slice t.old 0 n).reverse.find? fun line =>
    s.headings.any fun r => r.isMatch (Octets.toChars (Octets.chomp line))

/-- The heading of what is shown, cut short. -/
def heading (s : Settings) (t : Sides) (n : Nat) : Octets :=
  match headingBefore? s t n with
  | none => []
  | some line => ' ' :: trimBlanks (((Octets.chomp line).dropWhile Octets.isSpace).take 40)

def unifiedRange (start stop : Nat) : Octets :=
  if stop = start then Octets.ofNat start ++ ",0".toList
  else if stop = start + 1 then Octets.ofNat stop
  else Octets.ofNat (start + 1) ++ ',' :: Octets.ofNat (stop - start)

/-- A line of a unified text: right after its mark. -/
def Settings.unifiedLine (s : Settings) (mark : Char) (line : Octets) : Octets :=
  let bare := s.bareEmpty && line = ['\n']
  (if mark = ' ' then (if bare then [] else [if s.tabAfterMark then '\t' else ' '])
    else mark :: if s.tabAfterMark && !bare then ['\t'] else []) ++
    s.expand line ++ if Octets.chomp line = line then missingEnd else []

/-- The lines of both texts from a line of the old one on, with the changes in their places. -/
def unifiedLines (s : Settings) (t : Sides) (stop : Nat) : Nat → List Change → Octets
  | start, [] => (slice t.old start (stop - start)).flatMap (s.unifiedLine ' ')
  | start, c :: rest =>
    (slice t.old start (c.old - start)).flatMap (s.unifiedLine ' ') ++
      (slice t.old c.old c.deleted).flatMap (s.unifiedLine '-') ++
      (slice t.new c.new c.inserted).flatMap (s.unifiedLine '+') ++
      unifiedLines s t stop c.oldEnd rest

def unifiedHunk (s : Settings) (t : Sides) (group : List Change) : Octets :=
  let e := extentOf s t group
  "@@ -".toList ++ unifiedRange e.old e.oldEnd ++ " +".toList ++ unifiedRange e.new e.newEnd ++
    " @@".toList ++ heading s t e.old ++ ['\n'] ++ unifiedLines s t e.oldEnd e.old group

def contextRange (start stop : Nat) : Octets :=
  if stop ≤ start + 1 then Octets.ofNat stop
  else Octets.ofNat (start + 1) ++ ',' :: Octets.ofNat stop

/-- The lines of one text, each with the mark of the change that it belongs to. -/
def contextLines (s : Settings) (lines : Array Octets) (place count opposite : Change → Nat)
    (mark : String) (group : List Change) (start stop : Nat) : Octets :=
  (List.range (stop - start)).flatMap fun n =>
    let n := start + n
    let within := group.find? fun c => place c ≤ n && n < place c + count c
    let mark := match within with
      | none => " "
      | some c => if 0 < opposite c then "!" else mark
    s.marked mark (lineAt lines n)

def contextHunk (s : Settings) (t : Sides) (group : List Change) : Octets :=
  let e := extentOf s t group
  "***************".toList ++ heading s t e.old ++ "\n*** ".toList ++ contextRange e.old e.oldEnd ++
    " ****\n".toList ++
    (if group.all (·.deleted = 0) then []
      else contextLines s t.old Change.old Change.deleted Change.inserted "-" group e.old e.oldEnd) ++
    "--- ".toList ++ contextRange e.new e.newEnd ++ " ----\n".toList ++
    (if group.all (·.inserted = 0) then []
      else contextLines s t.new Change.new Change.inserted Change.deleted "+" group e.new e.newEnd)

/-- How wide a half is, and where the second one begins. -/
def columnsOf (s : Settings) : Nat × Nat :=
  let gap := 3
  let tab := if s.expandTabs then 1 else s.tabSize
  let middle := s.width / 2 + (tab + gap) / 2 + (if s.width % 2 = 1 && (tab + gap) % 2 = 1 then 1 else 0)
  let off := middle - middle % tab
  let half := min (off - gap) (s.width - off)
  (half, if half = 0 then s.width else off)

/-- The blanks that lead from one column to another. -/
def Settings.blanksTo (s : Settings) (start goal : Nat) : Octets :=
  let stop := goal / s.tabSize * s.tabSize
  if s.expandTabs || stop ≤ start then List.replicate (goal - start) ' '
  else List.replicate (stop / s.tabSize - start / s.tabSize) '\t' ++ List.replicate (goal - stop) ' '

/-- As much of a line as fits, and the column after it. What is before the first of both columns is
in the text, what is before the second is written. -/
def halfLine (s : Settings) (indent bound : Nat) : List Char → (read shown : Nat) → List Char × Nat
  | [], _, shown => ([], shown)
  | '\n' :: _, _, shown => ([], shown)
  | c :: rest, position, shown =>
    let next (text : List Char) (position shown : Nat) : List Char × Nat :=
      let (more, column) := halfLine s indent bound rest position shown
      (text ++ more, column)
    if c = '\t' then
      let count := s.tabSize - position % s.tabSize
      let stop := shown + count
      if position ≠ shown then next [] (position + count) shown
      else if s.expandTabs then
        next (List.replicate (min stop bound - shown) ' ') (position + count) (max shown (min stop bound))
      else if stop < bound then next [c] (position + count) stop
      else next [] (position + count) shown
    else if c = '\r' then next (c :: s.blanksTo 0 indent) 0 0
    else if c = '\x08' then
      if position = 0 then next [] 0 shown
      else if bound ≤ position - 1 then next [] (position - 1) shown
      else if shown ≤ position - 1 then
        next (List.replicate (position - 1 - shown) ' ') (position - 1) (position - 1)
      else next [c] (position - 1) (position - 1)
    else if c = '\x0b' || c = '\x0c' then next (if position < bound then [c] else []) position shown
    else
      let position := position + if Octets.isDamaged c then 1 else Letters.width c
      if position ≤ bound then next [c] position position else next [] position shown

def endsLine (line : Octets) : Bool := line.getLast? = some '\n'

/-- A line of both halves. -/
def columnsLine (s : Settings) (left : Option Octets) (mark : Char) (right : Option Octets) : Octets :=
  let (half, second) := columnsOf s
  let (shown, column) := match left with
    | some line => halfLine s 0 half (Octets.toChars line) 0 0
    | none => ([], 0)
  let leftEnds := left.any endsLine
  let mark := if mark = '|' && leftEnds ≠ right.any endsLine then (if leftEnds then '/' else '\\') else mark
  let place := (half + second - 1) / 2
  let (middle, column) := if mark = ' ' then ([], column)
    else (s.blanksTo column place ++ [mark], place + 1)
  let rest := match right with
    | some line =>
      if line.head? = some '\n' then []
      else s.blanksTo column second ++ Octets.ofChars (halfLine s second half (Octets.toChars line) 0 0).1
    | none => []
  Octets.ofChars shown ++ middle ++ rest ++ if leftEnds || right.any endsLine then ['\n'] else []

/-- The lines that both texts have, up to a place in each. -/
def columnsCommon (s : Settings) (t : Sides) (old new oldEnd newEnd : Nat) : Octets :=
  if s.skipCommon then []
  else
    let lefts := slice t.old old (oldEnd - old)
    let rights := slice t.new new (newEnd - new)
    if s.leftOnly then lefts.flatMap fun line => columnsLine s (some line) '(' none
    else
      let count := min lefts.length rights.length
      ((lefts.zip rights).flatMap fun (a, b) => columnsLine s (some a) ' ' (some b)) ++
        ((rights.drop count).flatMap fun b => columnsLine s none ')' (some b)) ++
        (lefts.drop count).flatMap fun a => columnsLine s (some a) '(' none

def columnsChange (s : Settings) (t : Sides) (c : Change) : Octets :=
  let lefts := slice t.old c.old c.deleted
  let rights := slice t.new c.new c.inserted
  let count := min lefts.length rights.length
  ((lefts.zip rights).flatMap fun (a, b) => columnsLine s (some a) '|' (some b)) ++
    ((rights.drop count).flatMap fun b => columnsLine s none '>' (some b)) ++
    (lefts.drop count).flatMap fun a => columnsLine s (some a) '<' none

def columnsFrom (s : Settings) (t : Sides) : Nat → Nat → List Change → Octets
  | old, new, [] => columnsCommon s t old new t.old.size t.new.size
  | old, new, c :: rest =>
    if t.skips s c then columnsFrom s t old new rest
    else columnsCommon s t old new c.old c.new ++ columnsChange s t c ++
      columnsFrom s t c.oldEnd c.newEnd rest

/-- Lines of both texts that belong together. -/
structure Group where
  old : Nat
  oldCount : Nat
  new : Nat
  newCount : Nat

/-- The number that a letter of a format stands for; capital letters ask for the new text. -/
def Group.number? (g : Group) (letter : Char) : Option Nat :=
  let (start, count) := if letter.isUpper then (g.new, g.newCount) else (g.old, g.oldCount)
  match letter.toLower with
  | 'e' => some start
  | 'f' => some (start + 1)
  | 'l' => some (start + count)
  | 'm' => some (start + count + 1)
  | 'n' => some count
  | _ => none

/-- A number as a format asks for it: flags, a width, a base and a letter. -/
def formatNumber? (value? : Char → Option Nat) (text : Octets) : Option (Octets × Octets) := do
  let flags := text.takeWhile fun c => c = '-' || c = '\'' || c = '0'
  let rest := text.drop flags.length
  let width := rest.takeWhile Char.isDigit
  let rest := rest.drop width.length
  let digits := match rest with
    | '.' :: more => more.takeWhile Char.isDigit
    | _ => []
  let rest := if rest.head? = some '.' then rest.drop (digits.length + 1) else rest
  match rest with
  | kind :: letter :: rest =>
    let value ← value? letter
    let base ← match kind with
      | 'd' => some 10
      | 'o' => some 8
      | 'x' | 'X' => some 16
      | _ => none
    let shown := Nat.toDigits base value
    let shown := if kind = 'X' then shown.map Char.toUpper else shown
    let shown := List.replicate (Octets.natOf 10 digits - shown.length) '0' ++ shown
    let missing := Octets.natOf 10 width - shown.length
    let padded := if flags.contains '-' then shown ++ List.replicate missing ' '
      else List.replicate missing (if flags.contains '0' && digits = [] then '0' else ' ') ++ shown
    return (padded, rest)
  | _ => none

/-- A character that a format gives between quotes. -/
def formatChar? (text : Octets) : Option (Octets × Octets) :=
  match text with
  | 'c' :: '\'' :: '\\' :: rest =>
    let digits := rest.takeWhile (Octets.isDigitOf 8)
    if digits ≠ [] && digits.length ≤ 3 && (rest.drop digits.length).head? = some '\'' then
      some ([Char.ofNat (Octets.natOf 8 digits % 256)], rest.drop (digits.length + 1))
    else none
  | 'c' :: '\'' :: c :: '\'' :: rest => some ([c], rest)
  | _ => none

/-- A line in a format. -/
def formatLine (s : Settings) (number : Nat) (line : Octets) : (steps : Nat) → Octets → Octets
  | 0, _ | _, [] => []
  | steps + 1, '%' :: rest =>
    match rest with
    | '%' :: rest => '%' :: formatLine s number line steps rest
    | 'l' :: rest => s.expand (Octets.chomp line) ++ formatLine s number line steps rest
    | 'L' :: rest => s.expand line ++ formatLine s number line steps rest
    | _ =>
      match formatChar? rest <|> formatNumber? (fun c => if c = 'n' then some number else none) rest with
      | some (text, rest) => text ++ formatLine s number line steps rest
      | none => '%' :: formatLine s number line steps rest
  | steps + 1, c :: rest => c :: formatLine s number line steps rest

def formatLines (s : Settings) (format : Octets) (start : Nat) (lines : List Octets) : Octets :=
  (lines.zipIdx (start + 1)).flatMap fun (line, n) => formatLine s n line (format.length + 1) format

/-- What two values of a choice have to be: numbers, or letters that stand for them. -/
def formatOperand? (g : Group) (text : Octets) : Option (Nat × Octets) :=
  match text with
  | c :: rest =>
    if c.isDigit then some (Octets.natOf 10 (text.takeWhile Char.isDigit), text.dropWhile Char.isDigit)
    else (g.number? c).map fun n => (n, rest)
  | [] => none

/-- The condition of a choice. -/
def formatCondition? (g : Group) (text : Octets) : Option (Bool × Octets) := do
  let (a, rest) ← formatOperand? g text
  match rest with
  | '=' :: rest =>
    let (b, rest) ← formatOperand? g rest
    match rest with
    | '?' :: rest => return (a == b, rest)
    | _ => none
  | _ => none

/-- A group of lines in a format, up to a character that ends it, and what comes after. -/
def formatGroup (s : Settings) (t : Sides) (g : Group) :
    (steps : Nat) → (ends : Char) → Octets → Octets × Octets
  | 0, _, text => ([], text)
  | _, _, [] => ([], [])
  | steps + 1, ends, c :: rest =>
    let before (text rest : Octets) : Octets × Octets :=
      let (more, rest) := formatGroup s t g steps ends rest
      (text ++ more, rest)
    if c = ends then ([], c :: rest)
    else if c ≠ '%' then before [c] rest
    else
      let lines (format : Octets) (old : Bool) : Octets :=
        if old then formatLines s format g.old (slice t.old g.old g.oldCount)
        else formatLines s format g.new (slice t.new g.new g.newCount)
      match rest with
      | '%' :: rest => before ['%'] rest
      | '<' :: rest => before (lines s.formats.old true) rest
      | '=' :: rest => before (lines s.formats.same true) rest
      | '>' :: rest => before (lines s.formats.new false) rest
      | '(' :: condition =>
        match formatCondition? g condition with
        | some (holds, rest) =>
          let (first, rest) := formatGroup s t g steps ':' rest
          let (second, rest) := if rest = [] then ([], []) else formatGroup s t g steps ')' rest.tail
          before (if holds then first else second) rest.tail
        | none => before ['%'] rest
      | _ =>
        match formatChar? rest <|> formatNumber? g.number? rest with
        | some (text, rest) => before text rest
        | none => before ['%'] rest

def mergedGroup (s : Settings) (t : Sides) (format : Octets) (g : Group) : Octets :=
  (formatGroup s t g (format.length + 1) '\x00' format).1

def mergedFrom (s : Settings) (t : Sides) : Nat → Nat → List Change → Octets
  | old, new, [] =>
    if old < t.old.size || new < t.new.size then
      mergedGroup s t s.formats.sameGroup ⟨old, t.old.size - old, new, t.new.size - new⟩
    else []
  | old, new, c :: rest =>
    if t.skips s c then mergedFrom s t old new rest
    else
      let same := if old < c.old || new < c.new then
        mergedGroup s t s.formats.sameGroup ⟨old, c.old - old, new, c.new - new⟩ else []
      let format := if c.letter = 'd' then s.formats.oldGroup
        else if c.letter = 'a' then s.formats.newGroup else s.formats.changedGroup
      same ++ mergedGroup s t format ⟨c.old, c.deleted, c.new, c.inserted⟩ ++
        mergedFrom s t c.oldEnd c.newEnd rest

/-- The differences in the form that is asked for, without a header. -/
def body (s : Settings) (t : Sides) : Octets :=
  let counted := t.changes.filter fun c => !t.skips s c
  let groups := (hunks s t t.changes).filter fun group => !group.all (t.skips s)
  match s.form with
  | .plain => counted.flatMap (plainChange s t)
  | .script => counted.reverse.flatMap (scriptChange s t)
  | .forward => counted.flatMap (forwardChange s t)
  | .revisions => counted.flatMap (revisionChange s t)
  | .unified => groups.flatMap (unifiedHunk s t)
  | .context => groups.flatMap (contextHunk s t)
  | .columns => columnsFrom s t 0 0 t.changes
  | .merged => mergedFrom s t 0 0 t.changes

end ScopedCheck.Script.Tool.Difference
