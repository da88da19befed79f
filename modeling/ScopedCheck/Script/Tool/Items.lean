import ScopedCheck.Script.Tool.Starting

namespace ScopedCheck.Script.Starting

open Script.Action
open Passing (complain)

namespace Items

/-- What has been read of a list: items with the number of the line in which each ends. -/
structure Reading where
  items : List (Octets × Nat) := []
  fault? : Option String := none

def unmatched (quote : Char) : String :=
  "unmatched " ++ (if quote = '"' then "double" else "single") ++
    " quote; by default quotes are special to xargs unless you use the -0 option"

/-- Where reading stands within a line. -/
inductive Where where
  | between
  | inItem
  | quoted (quote : Char)
  | escaped
  deriving DecidableEq

/-- How far a list has been read. -/
structure Scan where
  state : Where := .between
  /-- The item so far, last character first. -/
  current : Octets := []
  /-- Whether there is an item even if it is empty. -/
  seen : Bool := false
  line : Nat := 0
  before : Option Char := none
  /-- Last first. -/
  done : List (Octets × Nat) := []
  fault? : Option String := none
  /-- Whether the item that ends the list was met. -/
  isOver : Bool := false

namespace Scan

/-- Ends an item. -/
def close (stop : Option Octets) (line : Nat) (s : Scan) : Scan :=
  if some s.current.reverse = stop then { s with isOver := true }
  else { s with
    state := .between, current := [], seen := false, line := line
    done := (s.current.reverse, s.line) :: s.done }

def isBlank (c : Char) : Bool := c = ' ' || c = '\t'

/-- Reads one character within an item or at its beginning. -/
def inside (byLine : Bool) (stop : Option Octets) (c : Char) (s : Scan) : Scan :=
  if c = '\n' then
    let next := if s.before.any isBlank then s.line else s.line + 1
    if s.current = [] && !s.seen then { s with state := .between, line := next }
    else s.close stop next
  else if !byLine && isBlank c then s.close stop s.line
  else if c = '\\' then { s with state := .escaped }
  else if c = '\'' || c = '"' then { s with state := .quoted c, seen := true }
  else { s with state := .inItem, current := c :: s.current }

/-- Reads one character. -/
def step (byLine : Bool) (stop : Option Octets) (s : Scan) (c : Char) : Scan :=
  if s.fault?.isSome || s.isOver then s
  else
    let next := match s.state with
      | .between =>
        if c = '\n' then
          let stays := s.before.any isBlank || s.before = some '\n' || s.before.isNone
          { s with current := [], seen := false, line := if stays then s.line else s.line + 1 }
        else if Octets.isSpace c then s
        else s.inside byLine stop c
      | .inItem => s.inside byLine stop c
      | .quoted quote =>
        if c = '\n' then { s with fault? := some (unmatched quote) }
        else if c = quote then { s with state := .inItem, seen := true }
        else { s with current := c :: s.current }
      | .escaped => { s with state := .inItem, current := c :: s.current, seen := true }
    { next with before := some c }

/-- What has been read when nothing comes any more. -/
def finish (stop : Option Octets) (s : Scan) : Reading :=
  match s.fault?, s.state with
  | some fault, _ => ⟨s.done, some fault⟩
  | none, .quoted quote => ⟨s.done, if s.isOver then none else some (unmatched quote)⟩
  | none, _ =>
    let last := s.current.reverse
    if s.isOver || last = [] || some last = stop then ⟨s.done, none⟩ else ⟨(last, s.line) :: s.done, none⟩

end Scan

/-- Reads items between blanks, or whole lines; quotes and escapes protect characters. A line goes on
in the next one if it ends in a blank. The items are given last first. -/
def readQuoted (byLine : Bool) (stop : Option Octets) (text : Octets) : Reading :=
  (text.foldl (Scan.step byLine stop) {}).finish stop

/-- Reads items that end in a character, the last one perhaps without it. -/
def readEnded (ends : Char) (text : Octets) : List (Octets × Nat) :=
  let pieces := Text.split ends text
  let pieces := if pieces.getLast? = some [] then pieces.dropLast else pieces
  pieces.zipIdx 1

/-- The character that a text such as `\n` or `,` stands for. -/
def ending? (text : Octets) : Option Char :=
  match text with
  | [c] => some c
  | '\\' :: 'x' :: digits => if digits ≠ [] && digits.all (Octets.isDigitOf 16) then
      some (Char.ofNat (Octets.natOf 16 digits)) else none
  | '\\' :: rest =>
    match Format.escape? rest with
    | some (c, []) => some c
    | _ => none
  | _ => none

/-- Puts an item in place of a mark wherever it stands. -/
def replaceMark (mark item : Octets) : (steps : Nat) → Octets → Octets
  | 0, text => text
  | _, [] => []
  | steps + 1, c :: cs =>
    if mark ≠ [] && mark.isPrefixOf (c :: cs) then
      item ++ replaceMark mark item steps ((c :: cs).drop mark.length)
    else c :: replaceMark mark item steps cs

/-- How many items, lines and characters one command may get. -/
structure Limits where
  items : Option Nat := none
  lines : Option Nat := none
  characters : Nat := 131072

/-- Deals items out to commands. -/
def deal (l : Limits) (start : Nat) : List (Octets × Nat) → (current : List Octets) → (size lines last : Nat) →
    List (List Octets)
  | [], current, _, _, _ => if current = [] then [] else [current.reverse]
  | (item, line) :: rest, current, size, lines, last =>
    let full := l.items.any (· ≤ current.length) || (l.lines.any fun n => n ≤ lines && line ≠ last && current ≠ []) ||
      (size + item.length + 1 > l.characters && current ≠ [])
    if full then
      current.reverse :: deal l start rest [item] (start + item.length + 1) 1 line
    else deal l start rest (item :: current) (size + item.length + 1)
      (if current = [] then 1 else if line ≠ last then lines + 1 else lines) line

end Items

/-- Whether running commands must come to an end, and the status so far. -/
structure Tally where
  status : Nat := 0
  stops : Bool := false

/-- Takes the ending of a command into account. -/
def Tally.add (name : String) (command : Octets) (ending : Ending) (t : Tally) : Action Tally := do
  match ending with
  | .exited 0 => return t
  | .exited 255 =>
    complain name (Octets.text command ++ ": exited with status 255; aborting")
    return ⟨124, true⟩
  | .exited 126 => return ⟨126, true⟩
  | .exited 127 => return ⟨127, true⟩
  | .exited _ => return { t with status := 123 }
  | .killed signal =>
    complain name (Octets.text command ++ ": terminated by signal " ++ toString signal.number)
    return ⟨125, true⟩

/-- Waits for the commands that still run. -/
def awaitRest (name : String) : List (Nat × Octets) → Tally → Action Tally
  | [], t => do
    reap
    return t
  | (id, command) :: rest, t => do awaitRest name rest (← t.add name command (← awaitEnding id))

/-- Runs commands, a few of them side by side. What is wrong with their list is told once all of them
have been started. -/
def runCommands (name : String) (environment : Environment) (most : Nat) (shows : Bool)
    (fault? : Option String) (change : Process → Process) :
    List (List Octets) → (running : List (Nat × Octets)) → Tally → Action Tally
  | [], running, t => do
    if let some fault := fault? then complain name fault
    awaitRest name running t
  | words :: rest, running, t => do
    if t.stops then awaitRest name running t
    else
      let (running, t) ← if running.length < max most 1 then pure (running, t)
        else do
          await { endings := running.map Prod.fst }
          let w := (← get).world
          match running.find? fun r => w.hasEnded r.1 with
          | some (id, command) => pure (running.filter (·.1 ≠ id), ← t.add name command (← awaitEnding id))
          | none => pure (running, t)
      if t.stops then awaitRest name running t
      else
        if shows then
          write 2 (Octets.ofString (" ".intercalate (words.map Tool.named)) ++ ['\n'])
        match ← launch environment change words with
        | .ok id =>
          runCommands name environment most shows fault? change rest (running ++ [(id, words.headD [])]) t
        | .error cause =>
          complain name (Octets.text (words.headD []) ++ ": " ++ cause.reason)
          return { status := statusOfFault cause, stops := true }

/-- The content of a file, or all of the input. -/
def listText (o : Tool.Options) (name : String) : Action (Except String Octets) := do
  match o.value? 'a' with
  | some file =>
    match (← site).read (Tool.path file) with
    | .ok content => return .ok (Octets.ofBytes content)
    | .error cause =>
      return .error (name ++ ": Cannot open input file " ++ Tool.cited file ++ ": " ++ cause.reason ++ "\n")
  | none =>
    return .ok (← allInput 0 Engine.maxRounds [])

/-- Runs a program for the items that the input lists. -/
def forItems (name : String) (environment : Environment) (arguments : List Octets) : Action Fate := do
  let o := Tool.Options.read
    { letters := "0rtxpoiel", valued := "nILdPsEa#", optional := "iel", anywhere := false
      long := [("null", '0'), ("no-run-if-empty", 'r'), ("max-args", 'n'), ("replace", 'i'),
        ("max-lines", 'l'), ("max-procs", 'P'), ("delimiter", 'd'), ("eof", 'e'), ("verbose", 't'),
        ("arg-file", 'a'), ("max-chars", 's'), ("exit", 'x'), ("interactive", 'p'), ("open-tty", 'o'),
        ("process-slot-var", '#')] }
    arguments
  let count (c : Char) : Option (Option Nat) := (o.value? c).map fun t => (Octets.int? false t).map Int.toNat
  let badNumber : Option (Char × Octets) := "nLsP".toList.findSome? fun c =>
    match o.value? c with
    | some t => if (Octets.int? false t).isNone then some (c, t) else none
    | none => none
  let badSize : Option (Char × Octets) := "nLs".toList.findSome? fun c =>
    match o.value? c with
    | some t => if (Octets.int? false t).any (· < 1) then some (c, t) else none
    | none => none
  match o.fault?, badNumber, badSize, (o.value? 'd').filter fun t => (Items.ending? t).isNone with
  | some fault, _, _, _ => misuse name 1 fault
  | none, some (c, t), _, _ =>
    misuse name 1 ("invalid number \"" ++ Octets.text t ++ "\" for -" ++ String.singleton c ++ " option")
  | none, none, some (c, t), _ =>
    misuse name 1 ("value " ++ Octets.text t ++ " for -" ++ String.singleton c ++ " option should be >= 1")
  | none, none, none, some t =>
    complain name ("Invalid input delimiter specification " ++ Octets.text t ++
      ": the delimiter must be either a single character or an escape sequence starting with \\.")
    leave 1
  | none, none, none, none =>
    let command := if o.operands = [] then ["echo".toList] else o.operands
    let limiting := o.last? "nLliI"
    let mark := match limiting with
      | some 'I' => o.value? 'I'
      | some 'i' => some (match o.value? 'i' with
        | some [] | none => ['\x7b', '\x7d']
        | some text => text)
      | some 'n' => if (count 'n').join = some 1 then (o.value? 'I') else none
      | _ => none
    let stop := ((o.value? 'E') <|> (o.value? 'e')).filter (· ≠ [])
    match ← listText o name with
    | .error message =>
      write 2 (Octets.ofString message)
      leave 1
    | .ok text =>
      let ends := if o.has '0' then some '\x00' else (o.value? 'd').bind Items.ending?
      let reading : Items.Reading := match ends with
        | some c => { items := Items.readEnded c text }
        | none =>
          let r := Items.readQuoted mark.isSome stop text
          { r with items := r.items.reverse }
      let limits : Items.Limits :=
        { items := if limiting = some 'n' then (count 'n').join else none
          lines := match limiting with
            | some 'L' => (count 'L').join
            | some 'l' => some (((o.value? 'l').bind fun t => (Octets.int? false t).map Int.toNat).getD 1)
            | _ => none
          characters := ((count 's').join).getD 131072 }
      let start := command.foldl (fun n a => n + a.length + 1) 0
      let commands := match mark with
        | some mark => reading.items.map fun (item, _) =>
            command.take 1 ++ (command.drop 1).map fun a => Items.replaceMark mark item (a.length + 1) a
        | none =>
          let groups := Items.deal limits start reading.items [] start 0 0
          if groups = [] then (if o.has 'r' || reading.fault?.isSome then [] else [command])
          else groups.map (command ++ ·)
      let most := match (count 'P').join with
        | some 0 => 1000
        | some n => n
        | none => 1
      let nothing ← newStream .nothing
      let change (p : Process) : Process := if (o.value? 'a').isSome then p else p.connected 0 nothing
      let t ← runCommands name environment most (o.has 't') reading.fault? change commands [] {}
      leave (if reading.fault?.isSome && t.status = 0 then 1 else t.status)

end ScopedCheck.Script.Starting
