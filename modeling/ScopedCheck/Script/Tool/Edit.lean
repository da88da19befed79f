import ScopedCheck.Script.Tool.Edit.Program
import ScopedCheck.Script.Tool.Filters
import ScopedCheck.Script.Tool.Names

namespace ScopedCheck.Script.Tool.Edit

/-- A text that is worked on, and whether the end of a line comes after it. -/
structure Space where
  text : Octets := []
  ended : Bool := true

/-- What is wrong with a source, the status that this leads to, and whether nothing can go on. -/
structure Trouble where
  message : String
  status : Nat
  fatal : Bool

/-- Something that is edited: its name, its lines with their ends as far as they are known, whether
those are all, and whether it is the input. -/
structure Source where
  name : Octets
  lines : Except Trouble (List Octets)
  whole : Bool := true
  isInput : Bool := false

/-- What is written after a line. -/
inductive Queued where
  | text (text : Octets)
  | file (name : Octets)

structure State where
  pattern : Space := {}
  held : Space := {}
  line : Nat := 0
  /-- The source that is being read, and what of it is still to come. -/
  current : Source := ⟨['-'], .ok [], true, false⟩
  rest : List Octets := []
  later : List Source
  /-- How much of the input was taken. -/
  taken : Nat := 0
  /-- Whether more input would be needed. -/
  starved : Bool := false
  /-- What is written and where, last first. The output has no name. -/
  written : List (Octets × Octets) := []
  /-- Where the end of a line is missing. -/
  owing : List Octets := []
  /-- What is written after the line, last first. -/
  queued : List Queued := []
  /-- What is left of the files that are read line by line. -/
  readers : List (Octets × List Octets) := []
  changed : Bool := false
  /-- The commands whose range of lines has begun, and the line that ends it where that is known. -/
  ranges : List (Nat × Option Nat) := []
  /-- The expression that was used last. -/
  recent : Option Regex := none
  /-- The status with which the run was ended. -/
  finished : Option Nat := none
  /-- What went wrong, last first. -/
  troubles : List Trouble := []

/-- What a program can look at besides its lines. -/
structure Surroundings where
  quiet : Bool
  width : Nat
  ends : Char
  content? : Octets → Option Octets
  /-- The files that the program writes to. -/
  targets : List Octets

/-- Writes a text. A line end that is missing there comes first. -/
def put (around : Surroundings) (target text : Octets) (s : State) : State :=
  if s.owing.contains target then
    { s with written := (target, around.ends :: text) :: s.written, owing := s.owing.erase target }
  else { s with written := (target, text) :: s.written }

/-- Writes a line, whose end may be left out. -/
def putLine (around : Surroundings) (target text : Octets) (ended : Bool) (s : State) : State :=
  if ended then put around target (text ++ [around.ends]) s
  else
    let s := put around target text s
    { s with owing := target :: s.owing }

def emit (around : Surroundings) (text : Octets) (s : State) : State := put around [] text s

def emitSpace (around : Surroundings) (s : State) : State :=
  putLine around [] s.pattern.text s.pattern.ended s

/-- Ends the run for a reason. -/
def stop (t : Trouble) (s : State) : State :=
  { s with finished := some t.status, troubles := t :: s.troubles }

/-- The expression that is meant; without one there is nothing to go on with. -/
def expressionIn (s : State) (r : Option Regex) : Option Regex × State :=
  match r <|> s.recent with
  | some r => (some r, { s with recent := some r })
  | none =>
    (none, stop ⟨"-e expression #1, char 0: no previous regular expression", 1, true⟩ s)

/-- Goes on to the next source that has lines, if this one has none any more. One that cannot be read
at all is passed over if its lines are not needed yet. -/
def settle (needed : Bool) : List Source → State → State
  | [], s => { s with later := [] }
  | source :: later, s =>
    if s.rest ≠ [] || !s.current.whole || s.finished.isSome then { s with later := source :: later }
    else match source.lines with
      | .ok lines => settle needed later { s with current := source, rest := lines }
      | .error t =>
        if !t.fatal then settle needed later { s with troubles := t :: s.troubles }
        else if needed then { stop t s with later := later }
        else settle needed later s

/-- Whether no line is to come. -/
def atEnd (s : State) : Bool × State :=
  let s := settle false s.later s
  if s.rest = [] && !s.current.whole then (false, { s with starved := true }) else (s.rest.isEmpty, s)

/-- Takes the next line up, if there is one; with `joined`, it is put after the text. -/
def takeLine (around : Surroundings) (joined : Bool) (s : State) : Bool × State :=
  let s := settle true s.later s
  match s.rest with
  | [] => (false, if s.current.whole then s else { s with starved := true })
  | record :: rest =>
    let line := chompEnd around.ends record
    let text := if joined then s.pattern.text ++ around.ends :: line else line
    (true,
      { s with
        pattern := ⟨text, line.length < record.length⟩, rest := rest, line := s.line + 1
        taken := if s.current.isInput then s.taken + record.length else s.taken })

def holds (a : Address) (s : State) : Bool × State :=
  match a with
  | .line n => (s.line = n, s)
  | .last => atEnd s
  | .matching r =>
    let (r, s) := expressionIn s r
    (r.any fun r => r.isMatch (Octets.toChars s.pattern.text), s)
  | .stepped first step =>
    (if step = 0 then s.line = first else first ≤ s.line && (s.line - first) % step = 0, s)
  | .after _ | .multiple _ => (false, s)

/-- The line that ends a range which begins here, if the second address tells. -/
def rangeEnd? (a : Address) (line : Nat) : Option Nat :=
  match a with
  | .line n => some n
  | .after n => some (line + n)
  | .multiple n => some (if n = 0 then line else (line / n + 1) * n)
  | _ => none

/-- Whether a command with two addresses is for this line. -/
def inRange (index : Nat) (first second : Address) (s : State) : Bool × State :=
  let close (s : State) : State := { s with ranges := s.ranges.filter (·.1 ≠ index) }
  match s.ranges.lookup index with
  | some (some finish) => (decide (s.line ≤ finish), if finish ≤ s.line then close s else s)
  | some none =>
    let (ends, s) := holds second s
    (true, if ends then close s else s)
  | none =>
    let (begins, s) := holds first s
    let finish := rangeEnd? second s.line
    let (single, s) := match begins, second with
      | true, .last => atEnd s
      | _, _ => (finish.any (· ≤ s.line), s)
    (begins, if begins && !single then { s with ranges := (index, finish) :: s.ranges } else s)

def applies (index : Nat) (c : Command) (s : State) : Bool × State :=
  let (mine, s) := match c.first, c.second with
    | none, _ => (true, s)
    | some a, none => holds a s
    | some a, some b => inRange index a b s
  (mine != c.negated, s)

/-- Writes a text with the casing that holds for all of it and the one for its first letter. -/
def cased (whole first : Option Casing) (text : List Char) : List Char :=
  let write (casing : Option Casing) (c : Char) : Char :=
    match casing with
    | some .upper | some .upperNext => Letters.toUpper c
    | some .lower | some .lowerNext => Letters.toLower c
    | _ => c
  match text with
  | [] => []
  | c :: cs => write (first <|> whole) c :: cs.map (write whole)

/-- The text of a replacement, under the casings that hold so far. -/
def fillWith (m : Regex.Match) : (whole first : Option Casing) → List Replacement → List Char
  | _, _, [] => []
  | whole, first, part :: rest =>
    let put (text : List Char) : List Char :=
      cased whole first text ++ fillWith m whole (if text = [] then first else none) rest
    match part with
    | .text c => put [c]
    | .group 0 => put m.text
    | .group n => put ((m.groups.lookup n).getD [])
    | .casing .upperNext => fillWith m whole (some .upperNext) rest
    | .casing .lowerNext => fillWith m whole (some .lowerNext) rest
    | .casing c => fillWith m (some c) none rest

def fill (m : Regex.Match) (parts : List Replacement) : List Char := fillWith m none none parts

/-- Replaces the matches from the one with a number on, or that one only. What comes before the text
is given the nearest character first; right after a match an empty one does not count. -/
def replace (r : Regex) (parts : List Replacement) (every : Bool) :
    (steps nth : Nat) → (passed : List Char) → (afterMatch : Bool) → List Char → List Char × Bool
  | 0, _, _, _, text => (text, false)
  | steps + 1, nth, passed, afterMatch, text =>
    match r.find? passed text with
    | none => (text, false)
    | some m =>
      let passed := m.before.reverse ++ passed
      if m.text = [] && m.before = [] && afterMatch then
        match text with
        | [] => ([], false)
        | c :: rest =>
          let (more, changed) := replace r parts every steps nth (c :: passed) false rest
          (c :: more, changed)
      else
        let here := nth ≤ 1
        let shown := if here then fill m parts else m.text
        if here && !every then (m.before ++ shown ++ m.after, true)
        else if m.text = [] then
          match m.after with
          | [] => (m.before ++ shown, here)
          | c :: rest =>
            let (more, changed) := replace r parts every steps (nth - 1) (c :: passed) false rest
            (m.before ++ shown ++ c :: more, here || changed)
        else
          let (more, changed) :=
            replace r parts every steps (nth - 1) (m.text.reverse ++ passed) true m.after
          (m.before ++ shown ++ more, here || changed)

/-- A character as it is listed. -/
def listed (c : Char) : Octets :=
  match c with
  | '\\' => ['\\', '\\']
  | '\n' => ['\\', 'n']
  | '\t' => ['\\', 't']
  | '\r' => ['\\', 'r']
  | '\x07' => ['\\', 'a']
  | '\x08' => ['\\', 'b']
  | '\x0b' => ['\\', 'v']
  | '\x0c' => ['\\', 'f']
  | _ =>
    if 32 ≤ c.toNat && c.toNat < 127 then [c]
    else
      let digits := Nat.toDigits 8 c.toNat
      '\\' :: List.replicate (3 - digits.length) '0' ++ digits

/-- A listing in lines of so many characters at most, each but the last with a backslash at its end.
A width of less than two sets no bound. -/
def listing (width : Nat) : (used : Nat) → Octets → Octets
  | _, [] => ['$', '\n']
  | used, c :: cs =>
    let shown := listed c
    if 1 < width && width ≤ used + shown.length then
      '\\' :: '\n' :: shown ++ listing width shown.length cs
    else shown ++ listing width (used + shown.length) cs

/-- What a run has written under a name. -/
def writtenTo (s : State) (target : Octets) : Octets :=
  (s.written.reverse.filterMap fun (name, text) => if name = target then some text else none).flatten

/-- Writes what was put off until after the line. -/
def flush (around : Surroundings) (s : State) : State :=
  let write (s : State) (q : Queued) : State :=
    match q with
    | .text text => emit around text s
    | .file name => emit around ((around.content? name).getD []) s
  { s.queued.reverse.foldl write s with queued := [] }

/-- Ends the work on a line. -/
def endLine (around : Surroundings) (quiet : Bool) (s : State) : State :=
  flush around (if quiet then s else emitSpace around s)

def substitute (around : Surroundings) (r : Regex) (parts : List Replacement) (flags : Flags)
    (s : State) : State :=
  let chars := Octets.toChars s.pattern.text
  let (result, changed) :=
    replace r parts flags.every (2 * chars.length + 2) (flags.nth.getD 1) [] false chars
  if !changed then s
  else
    let s := { s with pattern.text := Octets.ofChars result, changed := true }
    let s := if flags.prints then emitSpace around s else s
    match flags.file with
    | some file => putLine around file s.pattern.text s.pattern.ended s
    | none => s

/-- The next line of a file that is read line by line, with its end. -/
def readerLine (around : Surroundings) (file : Octets) (s : State) : Option Octets × State :=
  let lines := (s.readers.lookup file).getD
    (Octets.records around.ends ((around.content? file).getD []))
  match lines with
  | [] => (none, s)
  | line :: rest => (some line, { s with readers := (file, rest) :: s.readers.filter (·.1 ≠ file) })

/-- Does what an action asks for to the text and the output; the other actions change nothing here. -/
def perform (around : Surroundings) (c : Action) (s : State) : State :=
  let text := s.pattern.text
  let first := text.takeWhile (· ≠ around.ends)
  let firstEnded := first.length < text.length || s.pattern.ended
  match c with
  | .substitute r parts flags =>
    match expressionIn s r with
    | (some r, s) => substitute around r parts flags s
    | (none, s) => s
  | .exchange source target =>
    let swap (c : Char) : Char :=
      match source.findIdx? (· = c) with
      | some n => target.getD n c
      | none => c
    { s with pattern.text := Octets.ofChars ((Octets.toChars text).map swap) }
  | .print => emitSpace around s
  | .printFirst => putLine around [] first firstEnded s
  | .printName => emit around (s.current.name ++ ['\n']) s
  | .number => emit around (Octets.ofNat s.line ++ ['\n']) s
  | .append text => { s with queued := .text text :: s.queued }
  | .insert text => emit around text s
  | .appendFile file => { s with queued := .file file :: s.queued }
  | .appendLine file =>
    match readerLine around file s with
    | (some line, s) => { s with queued := .text line :: s.queued }
    | (none, s) => s
  | .writeTo file => putLine around file text s.pattern.ended s
  | .writeFirst file => putLine around file first firstEnded s
  | .hold true => { s with held.text := s.held.text ++ around.ends :: text }
  | .hold false => { s with held := s.pattern }
  | .get true => { s with pattern.text := text ++ around.ends :: s.held.text }
  | .get false => { s with pattern := s.held }
  | .swap => { s with held := s.pattern, pattern := s.held }
  | .clear => { s with pattern.text := [] }
  | .list width => emit around (listing (width.getD around.width) 0 text) s
  | _ => s

/-- Runs the commands from one on for the current line. -/
def runFrom (program : Program) (around : Surroundings) : (steps index : Nat) → State → State
  | 0, _, s => { s with finished := some 4 }
  | steps + 1, index, s =>
    match program[index]? with
    | none => endLine around around.quiet s
    | some c =>
      let (mine, s) := applies index c s
      let go := runFrom program around steps
      let next := go (index + 1)
      if s.finished.isSome || s.starved then s
      else if !mine then
        match c.action with
        | .open finish => go finish s
        | _ => next s
      else
        match c.action with
        | .delete => endLine around true s
        | .deleteFirst =>
          let first := s.pattern.text.takeWhile (· ≠ around.ends)
          if first.length < s.pattern.text.length then
            go 0 (flush around { s with pattern.text := s.pattern.text.drop (first.length + 1) })
          else endLine around true s
        | .next =>
          match atEnd s with
          | (true, s) => endLine around around.quiet s
          | (false, s) =>
            match takeLine around false (endLine around around.quiet s) with
            | (true, s) => next s
            | (false, s) => s
        | .appendNext =>
          match atEnd s with
          | (true, s) => endLine around around.quiet s
          | (false, s) =>
            match takeLine around true (flush around s) with
            | (true, s) => next s
            | (false, s) => s
        | .quit prints status =>
          { (if prints then endLine around around.quiet s else s) with finished := some status }
        | .change text =>
          let goesOn := c.second.isSome && !c.negated && (s.ranges.lookup index).isSome
          endLine around true (if goesOn then s else emit around text s)
        | .jump name jump =>
          let taken := match jump with
            | .always => true
            | .changed => s.changed
            | .unchanged => !s.changed
          let s := match jump with
            | .always => s
            | _ => { s with changed := false }
          if !taken then next s
          else if name = [] then endLine around around.quiet s
          else go ((program.labelled? name).getD program.size) s
        | action =>
          let s := perform around action s
          if s.finished.isSome then s else next s

def maxSteps : Nat := 100000

def runLines (program : Program) (around : Surroundings) : (rounds : Nat) → State → State
  | 0, s => s
  | rounds + 1, s =>
    if s.finished.isSome || s.starved then s
    else match takeLine around false s with
      | (false, s) => s
      | (true, s) =>
        runLines program around rounds (runFrom program around maxSteps 0 { s with changed := false })

/-- Runs a program over sources. A range that begins with line zero has begun before the first
line. -/
def run (program : Program) (around : Surroundings) (owing : List Octets) (sources : List Source) :
    State :=
  let count (source : Source) : Nat := (source.lines.toOption.map List.length).getD 0
  let begun := (List.range program.size).filterMap fun n =>
    match program[n]? with
    | some c =>
      match c.first with
      | some (.line 0) => some (n, none)
      | _ => none
    | none => none
  runLines program around ((sources.map count).foldl (· + ·) 1) 
    { later := sources, ranges := begun, owing := owing }

/-- The name under which a file is kept before it is edited: the suffix after its path, or the path in
the place of every star. -/
def keptName (suffix operand : Octets) : Octets :=
  if suffix.contains '*' then suffix.flatMap fun c => if c = '*' then operand else [c]
  else operand ++ suffix

/-- One of the texts that make up a script: an argument or a file. -/
structure Piece where
  file : Option Octets
  text : Octets

/-- Where something lies in pieces that are joined by newlines: the piece with its number, the line in
it and the column in all of it. -/
def locatePiece : (number : Nat) → List Piece → (column : Nat) → Option (Piece × Nat × Nat × Nat)
  | _, [], _ => none
  | number, [p], column => some (p, number, lineAt p column, column)
  | number, p :: rest, column =>
    if column ≤ p.text.length then some (p, number, lineAt p column, column)
    else locatePiece (if p.file.isNone then number + 1 else number) rest (column - p.text.length - 1)
where
  lineAt (p : Piece) (column : Nat) : Nat := ((p.text.take column).filter (· = '\n')).length + 1

/-- Says what is wrong with a script. -/
def complainOf (pieces : List Piece) (refusal : Refusal) : Tool Unit := do
  let length := (['\n'].intercalate (pieces.map Piece.text)).length
  let place (left : Nat) (inWhole : Bool) : String :=
    match locatePiece 1 pieces (length - left) with
    | some (⟨some file, _⟩, _, line, _) =>
      "file " ++ Octets.text file ++ " line " ++ toString line ++ ": "
    | some (⟨none, _⟩, number, _, column) =>
      "-e expression #" ++ toString number ++ ", char " ++
        toString (if inWhole then 0 else column) ++ ": "
    | none => ""
  match refusal with
  | .noLabel name => complainWith 4 ("can't find label for jump to `" ++ Octets.text name ++ "'")
  | .unclosed left => complain (place left true ++ "unmatched `\x7b'")
  | .here message left => complain (place left false ++ message)

/-- Where texts go that are written to a file which is no file. -/
def channel? (file : Octets) : Option Nat :=
  match Octets.text file with
  | "/dev/stdout" => some 1
  | "/dev/stderr" => some 2
  | _ => none

/-- Empties the files that a program writes to, or makes them. -/
def openTargets (targets : List Octets) : Tool Bool := do
  for file in targets do
    if (channel? file).isNone then
      match ← writeFile (path file) [] none with
      | .ok () => pure ()
      | .error cause =>
        complainWith 4 ("couldn't open file " ++ Octets.text file ++ ": " ++ cause.reason)
        return false
  return true

/-- Takes over what a run has written besides its output, and what went wrong. -/
def settleRun (around : Surroundings) (s : State) : Tool Unit := do
  for t in s.troubles.reverse do complainWith t.status t.message
  for file in around.targets.eraseDups do
    if (channel? file).isNone then
      let _ ← writeFile (path file) (Octets.toBytes (writtenTo s file)) none
  if let some status := s.finished then
    if (← get).status = 0 then setStatus status

/-- Writes what a run has written to the output, and what it has written to the channels by name. -/
def printRun (withOutput : Bool) (s : State) : Tool Unit := do
  for (name, text) in s.written.reverse do
    match if name = [] then some 1 else channel? name with
    | some descriptor => if name ≠ [] || withOutput then write descriptor text
    | none => pure ()

def sourceOf (around : Surroundings) (operand : Octets) : Tool Source := do
  if isInput operand then
    let s ← get
    let records := Octets.records around.ends s.input
    let settled := if s.whole then records
      else records.filter fun r => r.getLast? = some around.ends
    return ⟨['-'], .ok settled, s.whole, true⟩
  else match ← Tool.read operand with
    | .ok content => return ⟨operand, .ok (Octets.records around.ends content), true, false⟩
    | .error .isDirectory =>
      return ⟨operand, .error ⟨"read error on " ++ Octets.text operand ++ ": Is a directory", 4, true⟩,
        true, false⟩
    | .error cause =>
      return ⟨operand, .error ⟨"can't read " ++ Octets.text operand ++ ": " ++ cause.reason, 2, false⟩,
        true, false⟩

/-- Puts a new file in the place of one that was edited, which may be kept under another name. -/
def replaceFile (operand : Octets) (kept : Option Octets) (mode : Nat) (content : Octets) :
    Tool Unit := do
  let site ← site
  if let .ok (place, old) := site.find false (path operand) then
    let keep (name : Octets) : Except Fault Site :=
      match site.find false (path name) with
      | .ok (other, _) => (site.eraseAt other).addNode (path name) old
      | .error _ => site.addNode (path name) old
    match (kept.map keep).getD (.ok site) with
    | .error cause =>
      complainWith 4 ("cannot rename " ++ Octets.text operand ++ ": " ++ cause.reason)
    | .ok site =>
      let bytes ← fitting (Octets.toBytes content)
      if (← get).outgrown then return
      let site := site.eraseAt place
      match site.addNode (path operand) (site.newFile bytes mode) with
      | .ok site => setSite site
      | .error _ => setStatus 4

/-- Edits a file in place, keeping it under another name where that is wanted. Tells whether work goes
on with other files. -/
def editInPlace (program : Program) (around : Surroundings) (follows : Bool)
    (suffix operand : Octets) : Tool Bool := do
  let site ← site
  match site.node (path operand) with
  | .error cause =>
    complainWith 2 ("can't read " ++ Octets.text operand ++ ": " ++ cause.reason)
    return true
  | .ok (.file _ attributes) =>
    let place := ((site.find true (path operand)).map Prod.fst).toOption.getD []
    if attributes.kind ≠ .regular then
      complainWith 4 ("couldn't edit " ++ Octets.text operand ++ ": not a regular file")
      return true
    if !site.allows .read place then
      complainWith 2 ("can't read " ++ Octets.text operand ++ ": " ++ Fault.permissionDenied.reason)
      return true
    if !(site.requireChange place.dropLast).isOk then
      complainWith 4 ("couldn't open temporary file " ++
        Octets.text (operand.take (operand.length - (lastName operand).length)) ++ "sedXXXXXX" ++ ": " ++ Fault.permissionDenied.reason)
      return false
    let s := run program around [] [← sourceOf around operand]
    let status := (← get).status
    printRun false s
    let content := writtenTo s []
    let target := match follows, site.find true (path operand) with
      | true, .ok (place, _) => placeText place
      | _, _ => operand
    replaceFile target (if suffix = [] then none else some (keptName suffix target)) attributes.mode content
    settleRun around s
    let failed := status ≠ 4 && (← get).status = 4
    if status ≠ 0 && !failed then setStatus status
    return s.finished.isNone && !failed
  | .ok _ =>
    complainWith 4 ("couldn't edit " ++ Octets.text operand ++ ": not a regular file")
    return true

/-- How much of the input is read at once. -/
def blockSize : Nat := 4096

/-- Runs a program over sources that are taken as one stream. Tells how the run ended. -/
def editStream (program : Program) (around : Surroundings) (unbuffered : Bool) (owing : List Octets)
    (sources : List Source) : Tool State := do
  let s := run program around owing sources
  let session ← getThe Session
  if s.starved then
    let _ ← input
    modify fun t => { t with sips := true }
  else if sources.any Source.isInput then
    let blocks := (s.taken + blockSize - 1) / blockSize * blockSize
    take (if session.source?.isSome || unbuffered then s.taken else min blocks session.input.length)
  let status := (← get).status
  settleRun around s
  printRun true s
  if status ≠ 0 then setStatus status
  return s

/-- The pieces of the script, those given as options in the order of the options, and the files that
are edited. -/
def piecesOf (o : Options) : Tool (Option (List Piece) × List Octets) := do
  let given := o.given.filter fun (letter, _) => letter = 'e' || letter = 'f'
  if given = [] then
    match o.operands with
    | script :: rest => return (some [⟨none, script⟩], rest)
    | [] => return (none, [])
  let mut pieces := #[]
  for (letter, value) in given do
    if letter = 'e' then pieces := pieces.push ⟨none, value⟩
    else match ← Tool.read value with
      | .ok text => pieces := pieces.push ⟨some value, Octets.chomp text⟩
      | .error cause =>
        complainWith 4 ("couldn't open file " ++ Octets.text value ++ ": " ++ cause.reason)
        return (some [], [])
  return (some pieces.toList, o.operands)

def grammar : Options.Grammar :=
  { letters := "nErsuzib\x01\x02\x03\x04", valued := "efl", optional := "i"
    long := [("quiet", 'n'), ("silent", 'n'), ("expression", 'e'), ("regexp-extended", 'E'),
      ("in-place", 'i'), ("file", 'f'), ("separate", 's'), ("line-length", 'l'), ("null-data", 'z'),
      ("zero-terminated", 'z'), ("unbuffered", 'u'), ("binary", 'b'), ("posix", '\x01'),
      ("follow-symlinks", '\x02'), ("debug", '\x03'), ("sandbox", '\x04')] }

def edit (arguments : List Octets) : Tool Unit :=
  withOptions grammar 1 arguments fun o => do
    let (pieces, operands) ← piecesOf o
    if (← get).status ≠ 0 then return
    let some pieces := pieces
      | complain "no script specified"
    let script := ['\n'].intercalate (pieces.map Piece.text)
    match Program.read { bare := o.has 'E' || o.has 'r' } script with
    | .error refusal => complainOf pieces refusal
    | .ok program =>
      if !(← openTargets program.files) then return
      let site ← site
      let around : Surroundings :=
        { quiet := o.has 'n' || ['#', 'n'].isPrefixOf script
          width := ((o.value? 'l').map (Octets.natOf 10)).getD 70
          ends := lineEnd o
          content? := fun file => ((site.read (path file)).toOption).map Octets.ofBytes
          targets := program.files }
      if o.has 'i' then
        if operands = [] then complainWith 4 "no input files"
        let mut goesOn := true
        for operand in operands do
          if goesOn then
            goesOn ← editInPlace program around (o.has '\x02') ((o.value? 'i').getD []) operand
      else
        let operands := if operands = [] then [['-']] else operands
        let again := fun (operand, n) => isInput operand && (operands.take n).any isInput
        let sources ← (operands.zipIdx.filter fun pair => !again pair).mapM fun (operand, _) =>
          sourceOf around operand
        if o.has 's' then
          let mut last : Option State := none
          for source in sources do
            if last.all fun s => s.finished.isNone then
              last ← some <$> editStream program around (o.has 'u') ((last.map State.owing).getD []) [source]
        else
          let _ ← editStream program around (o.has 'u') [] sources

end ScopedCheck.Script.Tool.Edit
