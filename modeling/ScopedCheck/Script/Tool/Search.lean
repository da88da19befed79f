import ScopedCheck.Script.Tool.Filters
import ScopedCheck.Script.Tool.Listing
import ScopedCheck.Script.Tool.Lookaround

namespace ScopedCheck.Script.Tool.Search

/-- What is told about the lines that are selected. -/
inductive Report where
  | lines
  | parts
  | count
  | filesWith
  | filesWithout
  | nothing
  deriving DecidableEq

/-- What a file that is no text counts as. -/
inductive Binary where
  | binary
  | text
  | without
  deriving DecidableEq

/-- What is done with a directory. -/
inductive Directories where
  | refused
  | skipped
  | searched
  deriving DecidableEq

/-- What is searched for, what of it is shown, and how. -/
structure Settings where
  expression : Option Regex
  inverted : Bool
  ends : Char
  report : Report
  limit : Option Nat
  before : Nat
  after : Nat
  separator : Option Octets
  named : Bool
  /-- Whether files below directories are told by name. -/
  namedBelow : Bool
  numbers : Bool
  offsets : Bool
  tabs : Bool
  nameEnd : Option Char
  coloured : Bool
  label : Octets
  silent : Bool
  binary : Binary
  directories : Directories
  followsAll : Bool
  /-- The patterns of names that are left out or demanded, the last one first. -/
  names : List (Bool × Octets)
  directoryNames : List Octets

/-- A line without its end, its number, where it begins, and whether it is selected. -/
structure Line where
  number : Nat
  offset : Nat
  text : Octets
  selected : Bool

def Settings.selects (s : Settings) (text : Octets) : Bool :=
  (s.expression.any fun r => r.isMatch (Octets.toChars text)) != s.inverted

/-- The lines of a content. -/
def Settings.lines (s : Settings) (content : Octets) : List Line :=
  let step (state : Nat × Nat × List Line) (record : Octets) : Nat × Nat × List Line :=
    let (number, offset, found) := state
    let text := chompEnd s.ends record
    (number + 1, offset + record.length, ⟨number, offset, text, s.selects text⟩ :: found)
  ((Octets.records s.ends content).foldl step (1, 0, [])).2.2.reverse

/-- How many lines are looked for at most. -/
def Settings.quota? (s : Settings) : Option Nat :=
  match s.report with
  | .nothing | .filesWith | .filesWithout => some 1
  | _ => s.limit

/-- The lines up to the last one that is looked for, and the ones that are shown after it. -/
def Settings.wanted (s : Settings) : (left : Option Nat) → List Line → List Line
  | _, [] => []
  | some 0, all => (all.take s.after).map fun l => { l with selected := false }
  | left, l :: rest =>
    l :: s.wanted (if l.selected then left.map (· - 1) else left) rest

/-- Where the lines that are looked for end, if a text holds them and what is shown after them. -/
def Settings.wantedEnd? (s : Settings) (text : Octets) : Option Nat := do
  let quota ← s.quota?
  let complete := s.lines (text.take (text.length - (text.reverse.takeWhile (· ≠ s.ends)).length))
  let last ← ((complete.filter Line.selected).drop (quota - 1)).head?
  let following := (complete.filter fun l => last.number < l.number).length
  let shows := s.report = .lines || s.report = .parts
  if shows && following < s.after then none
  else some (last.offset + last.text.length + 1)

/-- Marks the lines that lie so close after a selected one. -/
def marksAfter (reach : Nat) (lines : List Line) : List Bool :=
  (lines.foldl (fun (state : Nat × List Bool) l =>
    if l.selected then (reach, true :: state.2)
    else (state.1 - 1, decide (0 < state.1) :: state.2)) (0, [])).2.reverse

/-- The lines that are shown: the selected ones, and those around them as far as is asked for. -/
def Settings.shown (s : Settings) (lines : List Line) : List Line :=
  let after := marksAfter s.after lines
  let before := (marksAfter s.before lines.reverse).reverse
  ((lines.zip (after.zip before)).filter fun (_, a, b) => a || b).map Prod.fst

/-- Puts a text between the marks of a colour. -/
def Settings.colour (s : Settings) (code : String) (text : Octets) : Octets :=
  if s.coloured && text ≠ [] then
    "\x1b[".toList ++ code.toList ++ "m\x1b[K".toList ++ text ++ "\x1b[m\x1b[K".toList
  else text

/-- The name of a file before what is told about it. -/
def Settings.nameBefore (s : Settings) (name : Octets) (mark : Char) : Octets :=
  if !s.named then []
  else s.colour "35" name ++
    match s.nameEnd with
    | some c => [c]
    | none => s.colour "36" [mark]

/-- What stands before a line or a part of it; numbers are set against the right side of `width`
columns. -/
def Settings.front (s : Settings) (name : Octets) (width : Nat) (mark : Char) (number offset : Nat)
    (isEmpty : Bool) : Octets :=
  let shownNumber (n : Nat) : Octets :=
    s.colour "32" (padLeft width (Octets.ofNat n)) ++ s.colour "36" [mark]
  s.nameBefore name mark ++ (if s.numbers then shownNumber number else []) ++
    (if s.offsets then shownNumber offset else []) ++
    (if s.tabs && (s.named || s.numbers || s.offsets) && !isEmpty then ['\t'] else [])

/-- The matches in a line that are not empty, each with what was passed over before it, and the rest
of the line. -/
def matchesIn (r : Regex) : (steps : Nat) → (passed skipped : List Char) → List Char →
    List (List Char × List Char) × List Char
  | 0, _, skipped, text => ([], skipped.reverse ++ text)
  | steps + 1, passed, skipped, text =>
    match r.find? passed text with
    | none => ([], skipped.reverse ++ text)
    | some m =>
      let skipped := m.before.reverse ++ skipped
      let passed := m.before.reverse ++ passed
      if m.text = [] then
        match m.after with
        | [] => ([], skipped.reverse)
        | c :: rest => matchesIn r steps (c :: passed) (c :: skipped) rest
      else
        let (more, rest) := matchesIn r steps (m.text.reverse ++ passed) [] m.after
        ((skipped.reverse, m.text) :: more, rest)

/-- Whether a text can be shown as it is. -/
def Settings.showable (s : Settings) (text : List Char) : Bool :=
  s.binary = .text || !text.any Octets.isDamaged

/-- The text that shows a line, in pieces that can be shown, and whether some cannot. -/
def Settings.lineText (s : Settings) (name : Octets) (width : Nat) (l : Line) : Octets × Bool :=
  let mark := if l.selected then ':' else '-'
  let matching := l.selected != s.inverted
  let chars := Octets.toChars l.text
  let marked := if matching && (s.report = .parts || s.coloured) then
      (s.expression.map fun r => matchesIn r (chars.length + 1) [] [] chars).getD ([], chars)
    else ([], chars)
  if s.report = .parts then
    let pieces := marked.1.foldl (fun (offset, found, clean) (skipped, text) =>
      let start := offset + (Octets.ofChars skipped).length
      let shown := Octets.ofChars text
      let good := s.showable text
      let piece := if good then
          s.front name width mark l.number start false ++ s.colour "01;31" shown ++ [s.ends]
        else []
      (start + shown.length, piece :: found, clean && good)) (l.offset, ([] : List Octets), true)
    (pieces.2.1.reverse.flatten, pieces.2.2)
  else if !s.showable chars then ([], false)
  else
    let body := (marked.1.flatMap fun (skipped, text) =>
      Octets.ofChars skipped ++ s.colour "01;31" (Octets.ofChars text)) ++ Octets.ofChars marked.2
    (s.front name width mark l.number l.offset (l.text = []) ++ body ++ [s.ends], true)

/-- How wide the numbers are that may stand before the lines of a file, so that they form columns. -/
def Settings.numberWidth (s : Settings) (size : Option Nat) : Nat :=
  if !s.tabs then 0
  else match size with
    | some n => (toString (n + if s.numbers then 1 else 0)).length
    | none => 20

/-- What is known while files are searched: whether a line was selected, and whether any was
shown. -/
structure Progress where
  found : Bool := false
  used : Bool := false

abbrev Searching := StateT Progress Tool

/-- Tells that something cannot be searched. -/
def Settings.fail (s : Settings) (message : String) : Searching Unit := do
  if s.silent then setStatus 2 else complainWith 2 message

/-- Shows the lines of a file that are wanted. -/
def Settings.showLines (s : Settings) (name : Octets) (size : Option Nat) (lines : List Line) :
    Searching Unit := do
  let width := s.numberWidth size
  let mut last : Option Nat := none
  let mut clean := true
  for l in s.shown lines do
    let used := (← get).used
    if let some separator := s.separator then
      if used && last ≠ some (l.number - 1) then print (s.colour "36" separator ++ ['\n'])
    last := some l.number
    modify fun p => { p with used := true }
    let (text, good) := s.lineText name width l
    print text
    if !good then clean := false
  if !clean then
    let status := (← getThe Session).status
    complainWith status (Octets.text name ++ ": binary file matches")

/-- Searches a content and tells about it what is asked for. -/
def Settings.searchContent (s : Settings) (name : Octets) (size : Option Nat) (content : Octets) :
    Searching Unit := do
  let isBinary := s.binary ≠ .text && s.ends = '\n' && content.contains '\x00'
  if isBinary && s.binary = .without then
    if s.report = .filesWithout then print (name ++ [s.nameEnd.getD '\n'])
    else if s.report = .count then print (s.nameBefore name ':' ++ "0\n".toList)
  else
    let content := if isBinary then content.map fun c => if c = '\x00' then '\n' else c else content
    let lines := s.wanted s.quota? (s.lines content)
    let count := (lines.filter Line.selected).length
    if 0 < count then modify fun p => { p with found := true }
    match s.report with
    | .nothing => return
    | .filesWith => if 0 < count then print (s.colour "35" name ++ [s.nameEnd.getD '\n'])
    | .filesWithout => if count = 0 then print (s.colour "35" name ++ [s.nameEnd.getD '\n'])
    | .count => print (s.nameBefore name ':' ++ Octets.ofNat count ++ ['\n'])
    | _ =>
      if !isBinary then s.showLines name size lines
      else if 0 < count then
        let status := (← getThe Session).status
        complainWith status (Octets.text name ++ ": binary file matches")

/-- Whether the output goes to this file, and would be searched again. -/
def Settings.echoes (s : Settings) (identity : Option Nat) : Searching Bool := do
  let shows := s.report = .lines || s.report = .parts
  return shows && s.limit ≠ some 1 && identity.isSome && identity = (← getThe Session).target?

/-- How much of the input is read at once. -/
def blockSize : Nat := 98304

/-- The input, as far as it is searched. -/
def Settings.searchedInput (s : Settings) : Tool Octets := do
  let session ← get
  match s.wantedEnd? session.input with
  | none =>
    modify fun t => { t with sips := s.quota?.isSome }
    input
  | some count =>
    let blocks := min ((count + blockSize - 1) / blockSize * blockSize) session.input.length
    let taken :=
      if session.source?.isNone || s.report = .nothing then blocks
      else if s.report = .filesWith || s.report = .filesWithout then session.input.length
      else count
    take taken
    return session.input

def Settings.searchInput (s : Settings) : Searching Unit := do
  let session ← getThe Session
  if ← s.echoes (session.source?.map Prod.fst) then
    s.fail (Octets.text s.label ++ ": input file is also the output")
  else
    let content ← s.searchedInput
    let size := if session.source?.isSome then some content.length else none
    s.searchContent s.label size content

/-- Whether a name matches a pattern as a whole; with `anywhere`, also any part of it after a slash. -/
def matchesName (anywhere : Bool) (pattern name : Octets) : Bool :=
  let parts := (List.range name.length).filterMap fun n =>
    match name.drop n with
    | '/' :: c :: rest => if c = '/' then none else some (c :: rest)
    | _ => none
  (name :: if anywhere then parts else []).any (matchesPattern false pattern)

/-- Whether files of a name are left out. Of the patterns that match the last one counts; where none
does, names are left out if the first one demands something. -/
def Settings.leavesOut (s : Settings) (isOperand : Bool) (name : Octets) : Bool :=
  match s.names.find? fun (_, pattern) => matchesName isOperand pattern name with
  | some (demanded, _) => !demanded
  | none => (s.names.getLast?.map Prod.fst).getD false

def Settings.leavesOutDirectory (s : Settings) (isOperand : Bool) (name : Octets) : Bool :=
  s.directoryNames.any fun pattern => matchesName isOperand pattern name

/-- Searches what is found at a path, and below it if that is asked for. An empty path stands for the
directory itself. -/
def Settings.searchPath (s : Settings) : (depth : Nat) → (isOperand : Bool) → Octets → Searching Unit
  | 0, _, _ => return
  | depth + 1, isOperand, shown => do
    let site ← site
    let place := if shown = [] then ['.'] else shown
    let follows := isOperand || s.followsAll
    match site.find follows (path place) with
    | .error cause => s.fail (Octets.text shown ++ ": " ++ cause.reason)
    | .ok (_, .link _) => return
    | .ok (directory, .directory entries _) =>
      let name := if isOperand then shown else lastName shown
      if shown ≠ [] && s.leavesOutDirectory isOperand name then return
      match s.directories with
      | .skipped => return
      | .refused => s.fail (Octets.text shown ++ ": Is a directory")
      | .searched =>
        if !site.allows .read directory then
          s.fail (Octets.text shown ++ ": " ++ Fault.permissionDenied.reason)
          return
        for (entry, _) in entries do
          let name := Octets.ofString entry
          s.searchPath depth false (if shown = [] then name else inside shown name)
    | .ok (_, .file _ attributes) =>
      if !isOperand && attributes.kind ≠ .regular then return
      if s.leavesOut isOperand (if isOperand then shown else lastName shown) then return
      if ← s.echoes (if attributes.kind = .regular then some attributes.identity else none) then
        s.fail (Octets.text shown ++ ": input file is also the output")
      else match ← readPath place with
        | .ok content =>
          let size := if attributes.kind = .regular then some content.length else none
          let named := s.named || (!isOperand && s.namedBelow)
          { s with named := named }.searchContent shown size content
        | .error cause => s.fail (Octets.text shown ++ ": " ++ cause.reason)

/-- The letters of the options. Those with a long name only stand under marks that nobody can type. -/
def grammar : Options.Grammar :=
  { letters := "0123456789EFGHILPRTUVZabchilnoqrsuvwxyz\x01\x02\x03\x04", valued := "ABCDXdefm\x10\x11\x12\x13\x14\x15\x17"
    optional := "0123456789\x16"
    long := [("basic-regexp", 'G'), ("extended-regexp", 'E'), ("fixed-regexp", 'F'),
      ("fixed-strings", 'F'), ("perl-regexp", 'P'), ("after-context", 'A'), ("before-context", 'B'),
      ("binary-files", '\x10'), ("binary", 'U'), ("byte-offset", 'b'), ("context", 'C'),
      ("color", '\x16'), ("colour", '\x16'), ("count", 'c'), ("devices", 'D'), ("directories", 'd'),
      ("exclude", '\x11'), ("exclude-from", '\x12'), ("exclude-dir", '\x13'), ("file", 'f'),
      ("files-with-matches", 'l'), ("files-without-match", 'L'), ("group-separator", '\x14'),
      ("ignore-case", 'i'), ("no-ignore-case", '\x01'), ("include", '\x15'), ("initial-tab", 'T'),
      ("label", '\x17'), ("line-buffered", '\x02'), ("line-number", 'n'), ("line-regexp", 'x'),
      ("max-count", 'm'), ("no-filename", 'h'), ("no-group-separator", '\x03'), ("no-messages", 's'),
      ("null", 'Z'), ("null-data", 'z'), ("only-matching", 'o'), ("quiet", 'q'), ("recursive", 'r'),
      ("dereference-recursive", 'R'), ("regexp", 'e'), ("invert-match", 'v'), ("silent", 'q'),
      ("text", 'a'), ("unix-byte-offsets", 'u'), ("with-filename", 'H'), ("word-regexp", 'w')] }

/-- How many lines of context an argument asks for. -/
def contextLength? (text : Octets) : Option Nat :=
  natural? (if text.head? = some '+' then text.tail else text)

/-- Reads an argument of digits, which may have other letters after them, as a count of lines. -/
def leadingCount (digit : Char) (rest : Octets) : Nat :=
  Octets.natOf 10 (digit :: rest.takeWhile Char.isDigit)

/-- Writes the letters that stand after a count of lines as options of their own. -/
def spread (o : Options) : Options :=
  { o with given := o.given.flatMap fun (letter, value) =>
      if letter.isDigit then
        ('C', Octets.ofNat (leadingCount letter value)) ::
          (value.dropWhile Char.isDigit).map fun c => (c, [])
      else [(letter, value)] }

/-- What is wrong with the values of options. -/
def valueFault? (o : Options) : Option String :=
  o.given.findSome? fun (letter, value) =>
    match letter with
    | 'A' | 'B' | 'C' =>
      if (contextLength? value).isSome then none
      else some (Octets.text value ++ ": invalid context length argument")
    | 'm' =>
      let digits := if value.head? = some '-' then value.tail else value
      if (contextLength? digits).isSome then none else some "invalid max count"
    | 'd' =>
      if ["read", "recurse", "skip"].contains (Octets.text value) then none
      else some ("invalid argument " ++ cited value ++ " for ‘--directories’\nValid arguments are:\n" ++
        "  - ‘read’\n  - ‘recurse’\n  - ‘skip’\n" ++
        "Usage: grep [OPTION]... PATTERNS [FILE]...\nTry 'grep --help' for more information.")
    | 'D' =>
      if ["read", "skip"].contains (Octets.text value) then none else some "unknown devices method"
    | 'X' =>
      if ["grep", "egrep", "fgrep", "awk", "gawk", "posixawk", "perl"].contains (Octets.text value) then none
      else some ("invalid matcher " ++ Octets.text value)
    | '\x10' =>
      if ["binary", "text", "without-match"].contains (Octets.text value) then none
      else some "unknown binary-files type"
    | _ => none

/-- The way in which patterns are written. -/
inductive Manner where
  | basic
  | extended
  | fixed
  | lookaround
  deriving DecidableEq

def manner? (o : Options) : Option Manner :=
  let named (letter : Char) (value : Octets) : Option Manner :=
    match letter with
    | 'G' => some .basic
    | 'E' => some .extended
    | 'F' => some .fixed
    | 'P' => some .lookaround
    | 'X' =>
      match Octets.text value with
      | "grep" => some .basic
      | "fgrep" => some .fixed
      | "perl" => some .lookaround
      | _ => some .extended
    | _ => none
  match o.given.filterMap fun (letter, value) => named letter value with
  | [] => some .basic
  | m :: rest => if rest.all (· = m) then some m else none

/-- The expression for a pattern that stands in a line, and the operators that had nothing to work
on. -/
def expressionOf (manner : Manner) (anyCase : Bool) (ends : Char) (pattern : Octets) :
    Except String (Regex × List String) :=
  let text := Octets.toChars pattern
  let style : Regex.Style :=
    { bare := manner = .extended, anyCase := anyCase, allLetters := true, lax := true }
  match manner with
  | .fixed => .ok (Regex.ofText style text, [])
  | .lookaround => (Regex.Lookaround.read anyCase (ends ≠ '\n') text).map fun r => (r, [])
  | _ => Regex.readTelling style text

/-- The expression for patterns, any of which may match; none matches nothing. -/
def expressionFor (o : Options) (manner : Manner) (ends : Char) (patterns : List Octets) :
    Except String (Option Regex × List String) := do
  let anyCase := (o.last? "iy\x01").any (· ≠ '\x01')
  if manner = .lookaround && patterns.length > 1 then
    throw "the -P option only supports a single pattern"
  let read ← patterns.mapM (expressionOf manner anyCase ends)
  match read.map Prod.fst with
  | [] => return (none, [])
  | r :: rest =>
    let all := rest.foldl .either r
    let isWord (wanted : Char → Bool) : Regex := .one wanted
    let around : Regex :=
      if o.has 'x' then .sequence (.start false) (.sequence all (.finish false))
      else if o.has 'w' then
        .sequence (.behind [1] (isWord Regex.isWordChar) false)
          (.sequence all (.ahead (isWord Regex.isWordChar) false))
      else all
    return (some (if manner = .lookaround then .firstWay around else around), read.flatMap Prod.snd)

/-- The texts of the patterns; what is not given by an option is the first operand. -/
def patternsOf (o : Options) : Tool (Option (List Octets) × List Octets) := do
  let given := o.given.filter fun (letter, _) => letter = 'e' || letter = 'f'
  if given = [] then
    match o.operands with
    | pattern :: rest => return (some (Text.split '\n' pattern), rest)
    | [] =>
      write 2 "Usage: grep [OPTION]... PATTERNS [FILE]...\nTry 'grep --help' for more information.\n".toList
      setStatus 2
      return (none, [])
  let mut patterns := #[]
  for (letter, value) in given do
    if letter = 'e' then patterns := patterns ++ (Text.split '\n' value).toArray
    else match ← read value with
      | .ok [] => pure ()
      | .ok text => patterns := patterns ++ (Text.split '\n' (Octets.chomp text)).toArray
      | .error cause =>
        complainWith 2 (Octets.text value ++ ": " ++ cause.reason)
        return (none, [])
  return (some patterns.toList, o.operands)

/-- The patterns of names that are left out or demanded, the last one first. -/
def namePatterns (o : Options) : Tool (List (Bool × Octets)) := do
  let mut found := []
  for (letter, value) in o.given do
    if letter = '\x11' then found := (false, value) :: found
    else if letter = '\x15' then found := (true, value) :: found
    else if letter = '\x12' then
      match ← read value with
      | .ok text =>
        for line in linesOf {} text do
          if line ≠ [] then found := (false, line) :: found
      | .error cause => complainWith 2 (Octets.text value ++ ": " ++ cause.reason)
  return found

def reportOf (o : Options) : Report :=
  if o.has 'q' then .nothing
  else match o.last? "lL" with
    | some 'l' => .filesWith
    | some _ => .filesWithout
    | none => if o.has 'c' then .count else if o.has 'o' then .parts else .lines

/-- What the options ask for. -/
def settingsOf (o : Options) (expression : Option Regex) (names : List (Bool × Octets))
    (operands : Nat) : Settings :=
  let context (letter : Char) : Nat := (((o.value? letter) <|> (o.value? 'C')).bind contextLength?).getD 0
  let withContext := o.has 'A' || o.has 'B' || o.has 'C'
  { expression := expression, inverted := o.has 'v', ends := lineEnd o, report := reportOf o
    limit := (o.value? 'm').bind contextLength?, before := context 'B', after := context 'A'
    separator :=
      if !withContext then none
      else match o.last? "\x03\x14" with
        | some '\x03' => none
        | some _ => o.value? '\x14'
        | none => some ['-', '-']
    named := match o.last? "hH" with
      | some c => c = 'H'
      | none => 1 < operands
    namedBelow := o.last? "hH" ≠ some 'h'
    numbers := o.has 'n', offsets := o.has 'b', tabs := o.has 'T'
    nameEnd := if o.has 'Z' then some '\x00' else none
    coloured := (o.value? '\x16').any fun v => ["always", "yes", "force"].contains (Octets.text v)
    label := (o.value? '\x17').getD "(standard input)".toList
    silent := o.has 's'
    binary :=
      (o.given.reverse.findSome? fun (letter, value) =>
        match letter with
        | 'a' => some .text
        | 'I' => some .without
        | '\x10' =>
          some (match Octets.text value with
            | "text" => .text
            | "without-match" => .without
            | _ => .binary)
        | _ => none).getD .binary
    directories :=
      match o.last? "rRd" with
      | none => .refused
      | some 'd' =>
        match Octets.text ((o.value? 'd').getD []) with
        | "skip" => .skipped
        | "recurse" => .searched
        | _ => .refused
      | some _ => .searched
    followsAll := o.last? "rR" = some 'R'
    names := names
    directoryNames := (o.values '\x13').map withoutSlashes }

/-- Searches all operands, and tells by the status whether a line was selected. -/
def Settings.searchAll (s : Settings) (operands : List Octets) : Tool Unit := do
  let operands :=
    if operands ≠ [] then operands else if s.directories = .searched then [[]] else [['-']]
  let search : Searching Unit := do
    for operand in operands do
      let finished := s.report = .nothing && (← get).found
      if !finished then
        if operand = ['-'] then s.searchInput else s.searchPath 1000 true operand
  let ((), p) ← search.run {}
  if p.found && ((← get).status = 0 || s.report = .nothing) then setStatus 0
  else if (← get).status = 0 then setStatus 1

def usage : Octets :=
  "Usage: grep [OPTION]... PATTERNS [FILE]...\nTry 'grep --help' for more information.\n".toList

def run (arguments : List Octets) : Tool Unit := do
  modify fun s => { s with name := "grep" }
  let o := spread (Options.read grammar arguments)
  if let some fault := o.fault? then
    complainWith 2 fault
    write 2 usage
    return
  if let some fault := valueFault? o then
    complainWith (if fault.startsWith "invalid argument" then 1 else 2) fault
    return
  let some manner := manner? o
    | complainWith 2 "conflicting matchers specified"
  if o.has 'u' then complainWith 0 "warning: --unix-byte-offsets (-u) is obsolete"
  let (patterns, operands) ← patternsOf o
  let some patterns := patterns
    | return
  let names ← namePatterns o
  if (← get).status ≠ 0 then return
  if (o.value? 'm').bind contextLength? = some 0 then
    setStatus 1
    return
  match expressionFor o manner (lineEnd o) patterns with
  | .error message => complainWith 2 message
  | .ok (r, idle) =>
    for mark in idle do complainWith 0 ("warning: " ++ mark ++ " at start of expression")
    (settingsOf o r names operands.length).searchAll operands

end ScopedCheck.Script.Tool.Search
