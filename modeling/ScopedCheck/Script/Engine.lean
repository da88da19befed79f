import ScopedCheck.Script.Settings
import ScopedCheck.Script.Reader.Grammar

namespace ScopedCheck.Script

/-- What comes of a command, as far as that matters to the way in which it is run. -/
structure Mode where
  /-- Whether the status is tested. -/
  tested : Bool := false
  /-- Whether the process ends after the command. -/
  final : Bool := false

/-- What a command is run with: the runner for its parts, and the answer of the outer program to
notices. -/
structure Engine where
  run : Mode → Command → Action Unit
  react : Reaction

namespace Engine

open Script.Action

/-- How often something is read or waited for at most. -/
def maxRounds : Nat := 100000000

/-- Shows the text of a file that has been read, if that is asked for. -/
def showText (text : Octets) : Action Unit := do
  if ← hasOption 'v' then write 2 text

/-- Refuses a text that cannot be read. -/
def refuse (command : Option Octets) (refusal : Refusal) : Action Unit := do
  modify fun s => { s with line := refusal.line }
  fail command ("Syntax error: " ++ refusal.message)

/-- The lines of a source up to one that is refused. -/
def refusedText (source : Source) (refusal : Refusal) : Octets :=
  ((Octets.lines source.rest).take (refusal.line + 1 - source.line)).flatten

/-- Reads and runs commands line by line. The process may end after the last of them. -/
def runSource (e : Engine) (command : Option Octets) (mode : Mode) (isFile : Bool) :
    (steps : Nat) → Source → Action Unit
  | 0, _ => return
  | steps + 1, source => do
    match readNext { source with aliases := (← get).aliases } with
    | .error refusal =>
      if isFile then showText (refusedText source refusal)
      refuse command refusal
    | .ok (found, next) =>
      if isFile then showText (source.passed next)
      if let some c := found then
        e.run { mode with final := mode.final && next.rest = [] } c
      if found.isSome || next.rest ≠ [] then runSource e command mode isFile steps next

/-- How many texts may be run within each other before the memory for that runs out. -/
def maxTexts : Nat := 1500

/-- Runs a text, which may be that of a file. -/
def runText (e : Engine) (command : Option Octets) (mode : Mode) (isFile : Bool) (text : Octets) :
    Action Unit := do
  let depth := (← get).texts
  if maxTexts ≤ depth then throw (.killed .segment)
  modify fun s => { s with texts := depth + 1 }
  let leave : Action Unit := modify fun s => { s with texts := depth }
  tryCatch (runSource e command mode isFile maxRounds { rest := text }) fun stop => do
    leave
    throw stop
  leave

/-- Runs an action and tells what stopped it. -/
def stopOf (action : Action Unit) : Action (Option Stop) :=
  tryCatch (do action; return none) fun stop => return some stop

/-- Runs commands one after the other. The process may end after the last of them. -/
def runAll (e : Engine) (mode : Mode) : List Command → Action Unit
  | [] => return
  | [c] => e.run mode c
  | c :: rest => do
    e.run { mode with final := false } c
    runAll e mode rest

/-- Runs what was arranged for a signal; the status stays as it was. -/
def runTrap (e : Engine) (t : Trap) : Action Unit := do
  let status := (← get).status
  runText e none {} false t.action
  setStatus status

/-- Attends to the signals that were sent to this shell and for which it has an action. -/
def notice (e : Engine) : (rounds : Nat) → Action Unit
  | 0 => return
  | rounds + 1 => do
    let s ← get
    match s.world.posted.find? (·.1 = s.id) with
    | none => return
    | some (id, signal) =>
      set { s with world := { s.world with posted := s.world.posted.erase (id, signal) } }
      if s.catches signal then
        if let some t := s.traps.find? (·.signal = signal.number) then runTrap e t
      notice e rounds

def noticeAll (e : Engine) : Action Unit := do
  notice e ((← get).world.posted.length + 1)

/-- How a shell calls the death by a signal. -/
def deathName (signal : Signal) : String :=
  let named : List (Int × String) :=
    [(1, "Hangup"), (3, "Quit"), (4, "Illegal instruction"), (5, "Trace/breakpoint trap"),
     (6, "Aborted"), (7, "Bus error"), (8, "Floating point exception"), (9, "Killed"),
     (10, "User defined signal 1"), (11, "Segmentation fault"), (12, "User defined signal 2"),
     (14, "Alarm clock"), (15, "Terminated"), (16, "Stack fault"), (24, "CPU time limit exceeded"),
     (25, "File size limit exceeded"), (26, "Virtual timer expired"), (27, "Profiling timer expired"),
     (29, "I/O possible"), (30, "Power failure"), (31, "Bad system call")]
  (named.lookup signal.number).getD ("Signal " ++ toString signal.number)

/-- Tells of a death that nobody has asked for. -/
def announce (ending : Ending) : Action Unit := do
  match ending with
  | .exited _ => return
  | .killed signal =>
    if signal ≠ .interrupt && signal ≠ .pipe then
      write 2 (Octets.ofString (deathName signal) ++ ['\n'])

/-- Waits for processes, the last of which stands for all, and takes its ending over as the
status. -/
def awaitAll (ids : List Nat) : Action Unit := do
  let mut last := Ending.exited 0
  for id in ids do
    last ← awaitEnding id
    announce last
  reap
  setStatus (statusOf last)

/-- Lets a shell come to its end: what was arranged for that is run. -/
def conclude (e : Engine) (body : Action Unit) : Action Ending := do
  match ← stopOf body with
  | some (.killed signal) => return .killed signal
  | _ =>
    let status := (← get).status
    let stop ← match (← get).traps.find? (·.signal = 0) with
      | none => pure none
      | some t =>
        modify fun s => { s with traps := s.traps.filter (·.signal ≠ 0) }
        stopOf (do runText e none {} false t.action; setStatus status)
    if let some (.killed signal) := stop then return .killed signal
    return .exited ((← get).status % 256)

/-- Starts commands in a process of their own, which may not notice the keyboard. -/
def forkCommands (script : List Command) (tested muted : Bool) (change : Process → Process) :
    Action Nat :=
  fork (.commands script tested muted []) change

/-- Reads from a pipe until nobody can write to it any more. -/
def gather (number : Nat) : (rounds : Nat) → (pieces : List Octets) → Action Octets
  | 0, pieces => return pieces.reverse.flatten
  | rounds + 1, pieces => do
    let w ← world
    let text := (w.pipe number).content
    if text ≠ [] then
      changePipe number fun _ => {}
      gather number rounds (text :: pieces)
    else if w.hasWriter number then do
      await { input := some (number, 0) }
      gather number rounds pieces
    else return pieces.reverse.flatten

/-- What commands write, for putting it into a word. -/
def outputOf (script : List Command) : Action Octets := do
  let number ← newPipe []
  let source ← newStream (.pipe number true false)
  let sink ← newStream (.pipe number false true)
  let kept := (← get).kept
  holding [source] do
    let id ← forkCommands script false false fun p => { p.connected 1 sink with kept := kept }
    let text ← gather number maxRounds []
    let ending ← awaitEnding id
    announce ending
    reap
    modify fun s => { s with outputStatus := statusOf ending }
    return text

/-- Starts commands, each of which reads what the one before it writes. -/
def forkPipeline (tested muted : Bool) :
    (input : Option Nat) → List Command → Action (List Nat)
  | _, [] => return []
  | input, command :: rest => do
    let reads (p : Process) : Process := match input with
      | some index => p.connected 0 index
      | none => p
    Builtin.lookAhead command
    match rest with
    | [] => return [← forkCommands [command] tested muted reads]
    | rest =>
      let number ← newPipe []
      let source ← newStream (.pipe number true false)
      let sink ← newStream (.pipe number false true)
      let id ← forkCommands [command] tested muted fun p => (reads p).connected 1 sink
      holding [source] do
        return id :: (← forkPipeline tested muted (some source) rest)

end Engine

end ScopedCheck.Script
