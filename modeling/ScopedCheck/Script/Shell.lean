import ScopedCheck.Launch
import ScopedCheck.Script.Command
import ScopedCheck.Script.Device
import ScopedCheck.Script.Resumption
import ScopedCheck.Script.Signals

namespace ScopedCheck.Script

structure Variable where
  value : Option Octets
  exported : Bool := false
  fixed : Bool := false

/-- What an action does on a signal. -/
structure Trap where
  /-- Zero is the end of the shell. -/
  signal : Int
  /-- Without an action the signal is ignored. -/
  action : Octets

structure Function where
  /-- The line in which the function begins. -/
  line : Nat
  body : Command

/-- Processes that a shell has put into the background together. -/
structure Job where
  number : Nat
  /-- The ids of the processes, the last one of which stands for all. -/
  members : List Nat
  /-- Those that may still run. -/
  running : List Nat
  /-- How the last one ended, once the shell knows it. -/
  ending : Option Ending := none
  /-- Whether the shell has been asked for the status. -/
  waited : Bool := false

def Job.id (job : Job) : Nat := job.members.getLast?.getD 0

structure Process where
  directory : Option Place
  /-- The path of the directory as it was entered. -/
  path : Octets
  bindings : List (String × Variable)
  functions : List (String × Function) := []
  name : Octets
  arguments : List Octets
  options : List Char := []
  descriptors : List (Nat × Nat) := [(0, 0), (1, 1), (2, 2)]
  /-- The streams that are open under no descriptor of the script. -/
  kept : List Nat := []
  traps : List Trap := []
  /-- The signals that were ignored before the shell started. -/
  deaf : List Int := []
  /-- The id that the script sees, which is that of the outermost shell of the script. -/
  ownId : Nat
  /-- The id of this very process. -/
  id : Nat
  parentId : Nat
  /-- The id of the processes that get some signals together. -/
  group : Nat := 0
  jobs : List Job := []
  status : Nat := 0
  /-- The status of the last output that was put into a word. -/
  outputStatus : Nat := 0
  /-- Whether the command that runs could not write. -/
  outputFailed : Bool := false
  line : Nat := 1
  /-- What a message names besides the script: the command of the shell that is carried out. -/
  within : Option Octets := none
  /-- How many texts of commands are run within each other. -/
  texts : Nat := 0
  /-- The line in which the function that runs begins. -/
  functionLine : Option Nat := none
  loops : Nat := 0
  /-- What local variables were before, for each function that runs, innermost first. -/
  frames : List (List (String × Option Variable)) := []
  lastJob : Option Nat := none
  /-- The number of the argument whose options are read next, and how far into its letters reading
  has come. -/
  optionIndex : Nat := 1
  optionOffset : Nat := 0
  /-- The permissions that new files do not get. -/
  mask : Nat := 18
  /-- Whether each byte is a character for the process. -/
  isNarrow : Bool := false
  /-- How much the process leaves to others. -/
  niceness : Int := 0
  /-- The texts that names stand for at the beginning of a command. -/
  aliases : List (Octets × Octets) := []
  /-- The files that were found for the names of commands. -/
  found : List (Octets × Octets) := []
  /-- The names whose files were found before the directory changed. -/
  unsure : List Octets := []
  /-- The limits that were set, by their letters: what counts, and what it can be raised to. -/
  limits : List (Char × Option Nat × Option Nat) := []

namespace Process

/-- The streams that the process holds open. -/
def streams (p : Process) : List Nat :=
  p.descriptors.map Prod.snd ++ p.kept

/-- How large a file may become, if there is a limit. -/
def sizeLimit? (p : Process) : Option Nat :=
  ((p.limits.lookup 'f').bind Prod.fst).map (· * 512)

/-- Whether a signal does nothing to the process. -/
def ignores (p : Process) (signal : Signal) : Bool :=
  !signal.isFinal && (p.deaf.contains signal.number ||
    p.traps.any fun t => t.signal = signal.number && t.action = [])

/-- Whether the process has an action for a signal. -/
def catches (p : Process) (signal : Signal) : Bool :=
  !signal.isFinal && p.traps.any fun t => t.signal = signal.number && t.action ≠ []

/-- Whether a signal ends the process. -/
def diesOf (p : Process) (signal : Signal) : Bool :=
  !(signal.isHarmless || signal.isPause || p.ignores signal || p.catches signal)

end Process

/-- What a descriptor may lead to. -/
inductive Stream where
  /-- Gives nothing and keeps nothing. -/
  | nothing
  /-- Gives bytes without end and keeps nothing. -/
  | device (kind : FileKind)
  /-- The error text of the program that was started. -/
  | errors
  /-- A file, from some byte on. -/
  | file (identity offset : Nat) (mode : OpenMode)
  | directory
  /-- An end of a pipe, or both ends of it. -/
  | pipe (number : Nat) (reads writes : Bool)
  deriving DecidableEq, Repr, Inhabited

/-- What was written and not read yet, last first. -/
structure Pipe where
  pieces : List Octets := []
  size : Nat := 0

namespace Pipe

/-- How much a pipe takes before somebody reads from it. -/
def capacity : Nat := 65536

def content (p : Pipe) : Octets :=
  match p.pieces with
  | [] => []
  | [text] => text
  | pieces => pieces.reverse.flatten

def push (text : Octets) (p : Pipe) : Pipe :=
  ⟨text :: p.pieces, p.size + text.length⟩

def drop (count : Nat) (p : Pipe) : Pipe :=
  ⟨[p.content.drop count], p.size - count⟩

end Pipe

/-- What all processes know of one. -/
structure Resident where
  id : Nat
  parent : Nat
  group : Nat
  /-- The streams that it holds open, as of the last time it had to wait. -/
  streams : List Nat
  stopped : Bool := false
  /-- How it ended, as long as its parent has not taken note of that. -/
  ending : Option Ending := none

/-- What a process is started for. -/
inductive Work where
  /-- Commands, whose failure may be tested, and which may not notice the keyboard. -/
  | commands (script : List Command) (tested muted : Bool) (redirects : List Redirect)
  | program (name : String) (arguments : List Octets) (environment : List (String × Octets))

/-- A process that is to start at some time. -/
structure Birth where
  time : Nat
  process : Process
  work : Work

/-- The program that started the first shell. -/
structure Starter where
  id : Nat
  /-- What it has observed while it waits, last first. -/
  observations : List Observation := []
  /-- When it stopped waiting. -/
  doneAt : Option Nat := none
  alive : Bool := true

structure World where
  root : Node
  /-- Where all belongs to those who run. -/
  domain : Place := []
  /-- The open files that no directory names any more. -/
  nameless : List Node := []
  streams : Array Stream := #[.nothing, .nothing, .errors]
  pipes : Array Pipe := #[]
  /-- The pipes of the files that are pipes, by identity. -/
  namedPipes : List (Nat × Nat) := []
  /-- What was written to the error text, last first. -/
  errors : List Octets := []
  /-- The time in microseconds since the first program was started. -/
  clock : Nat := 0
  /-- When that was. -/
  epoch : Int := 0
  starter : Starter
  processes : List Resident := []
  /-- The processes that have not started yet, last first. -/
  births : List Birth := []
  /-- The signals that were sent and that nobody has attended to. -/
  posted : List (Nat × Signal) := []
  nextId : Nat

namespace World

def stream (w : World) (index : Nat) : Stream :=
  w.streams[index]?.getD .nothing

def resident? (w : World) (id : Nat) : Option Resident :=
  w.processes.find? (·.id = id)

def alter (w : World) (id : Nat) (change : Resident → Resident) : World :=
  { w with processes := w.processes.map fun r => if r.id = id then change r else r }

/-- Whether a process that runs holds a stream open for which the test says so. -/
def isHeld (w : World) (test : Stream → Bool) : Bool :=
  w.processes.any fun r => r.ending.isNone && r.streams.any fun index => test (w.stream index)

def hasWriter (w : World) (pipe : Nat) : Bool :=
  w.isHeld fun stream => match stream with
    | .pipe number _ writes => number = pipe && writes
    | _ => false

def hasReader (w : World) (pipe : Nat) : Bool :=
  w.isHeld fun stream => match stream with
    | .pipe number reads _ => number = pipe && reads
    | _ => false

def pipe (w : World) (number : Nat) : Pipe :=
  w.pipes[number]?.getD {}

/-- Whether a process has ended, or is not known any more. -/
def hasEnded (w : World) (id : Nat) : Bool :=
  match w.resident? id with
  | some r => r.ending.isSome
  | none => true

/-- The file of an identity, whether it has a name or is only open. -/
def fileOf? (w : World) (identity : Nat) : Option (Utf8.Bytes × Attributes) :=
  (w.root.ofIdentity? identity) <|> (w.nameless.findSome? (·.ofIdentity? identity))

/-- What a stream looks like among the files. -/
def nodeOf (w : World) (index : Nat) : Node :=
  match w.stream index with
  | .nothing => .link ⟨"/dev/null"⟩
  | .device kind => .file [] { mode := 0o666, kind := kind }
  | .directory => .directory []
  | .errors | .pipe .. => .file [] { mode := 0o666, kind := .pipe }
  | .file identity .. =>
    match w.root.placeOf? identity, w.fileOf? identity with
    | some place, _ => .link (Path.ofNames place)
    | none, some (content, attributes) => .file content attributes
    | none, none => .file [] {}

/-- Changes the files. One that some stream leads to is kept even when it has no name any more. -/
def setRoot (w : World) (streams : List Nat) (root : Node) : World :=
  let held := streams ++ w.processes.flatMap Resident.streams
  let leadTo := held.filterMap fun index => match w.stream index with
    | .file identity .. => some identity
    | _ => none
  let lost := leadTo.eraseDups.filterMap fun identity =>
    match root.ofIdentity? identity, w.root.ofIdentity? identity with
    | none, some (content, attributes) => some (Node.file content attributes)
    | _, _ => none
  { w with root := root, nameless := lost ++ w.nameless }

/-- Lets the program that started the first shell know of something, as long as it waits. -/
def notify (react : Reaction) (streams : List Nat) (notice : Notice) (w : World) : World :=
  if w.starter.doneAt.isSome then w
  else
    let observations := ⟨notice, w.root⟩ :: w.starter.observations
    let starter := { w.starter with observations := observations }
    match react observations.reverse with
    | .waits => { w with starter := starter }
    | .goesOn => { w with starter := { starter with doneAt := some w.clock } }
    | .ends root =>
      { w.setRoot streams root with
        starter := { starter with doneAt := some w.clock, alive := false } }

end World

/-- What a process waits for. It goes on as soon as one of these comes true. -/
structure Need where
  deadline : Option Nat := none
  /-- One of these processes has ended. -/
  endings : List Nat := []
  /-- A pipe holds more than so many bytes, or nobody can write to it any more. -/
  input : Option (Nat × Nat) := none
  /-- A pipe can take something, or nobody can read from it any more. -/
  room : Option Nat := none
  /-- Somebody can write to a pipe. -/
  writer : Option Nat := none
  /-- Somebody can read from a pipe. -/
  reader : Option Nat := none
  /-- A signal has come for which the process has an action. -/
  signals : Bool := false

structure Shell extends Process where
  world : World

/-- Why a command does not let the next one run. -/
inductive Stop where
  | leave
  | killed (signal : Signal)
  /-- An error that ends a script. -/
  | failed
  | breakLoop (levels : Nat)
  | continueLoop (levels : Nat)
  | leaveFunction
  deriving Repr

abbrev Action := Resumable Need Stop Shell

namespace Action

def await (need : Need) : Action Unit := Resumable.await need

/-- Whether no other process can do anything before this one has to wait for it. -/
def isAlone (s : Shell) : Bool :=
  s.world.births.isEmpty && s.world.posted.isEmpty &&
    s.world.processes.all fun r => r.id = s.id || r.ending.isSome

/-- Lets so many microseconds pass. -/
def spend (time : Nat) : Action Unit := do
  let s ← get
  let moment := s.world.clock + time
  if isAlone s then set { s with world := { s.world with clock := moment } }
  else await { deadline := some moment }

/-- How many microseconds the times of files differ by at least. -/
def tick : Int := 4000

def site : Action Site := do
  let s ← get
  let now := s.world.epoch + s.world.clock
  let reserved := s.world.nameless.foldl (fun n node => max n node.greatestIdentity) 0
  return ⟨s.world.root, s.directory, now - now.emod tick, reserved, s.mask, s.world.domain⟩

def setRoot (root : Node) : Action Unit :=
  modify fun s => { s with world := s.world.setRoot s.streams root }

/-- Changes a file, under whatever names it has. -/
def changeFile (identity : Nat) (change : Utf8.Bytes → Attributes → Node) : Action Unit :=
  modify fun s => { s with world := { s.world with
    root := s.world.root.rewrite identity change
    nameless := s.world.nameless.map (·.rewrite identity change) } }

def setStatus (status : Nat) : Action Unit :=
  modify fun s => { s with status := status }

def hasOption (letter : Char) : Action Bool :=
  return (← get).options.contains letter

def stream? (descriptor : Nat) : Action (Option Nat) :=
  return (← get).descriptors.lookup descriptor

/-- Where a process finds its own descriptors among the files. -/
def descriptorPlace : Place := ["proc", "self", "fd"]

/-- The files as the process sees them, its own descriptors among them. -/
def view : Action Site := do
  let site ← site
  let s ← get
  let nodes := (s.descriptors.mergeSort fun a b => decide (a.1 ≤ b.1)).map fun (descriptor, index) =>
    (toString descriptor, s.world.nodeOf index)
  return site.alter descriptorPlace fun _ => nodes

/-- Changed files without the descriptors of the process that has changed them. -/
def withoutView (before after : Site) : Node :=
  let known := match before.root.at? descriptorPlace with
    | some (.directory entries _) => entries
    | _ => []
  (after.alter descriptorPlace fun _ => known).root

def newStream (stream : Stream) : Action Nat := do
  let index := (← get).world.streams.size
  modify fun s => { s with world := { s.world with streams := s.world.streams.push stream } }
  return index

def setStream (index : Nat) (stream : Stream) : Action Unit :=
  modify fun s => { s with world := { s.world with streams := s.world.streams.set! index stream } }

def newPipe (content : Octets) : Action Nat := do
  let number := (← get).world.pipes.size
  modify fun s =>
    let pipe : Pipe := if content = [] then {} else Pipe.push content {}
    { s with world := { s.world with pipes := s.world.pipes.push pipe } }
  return number

def changePipe (number : Nat) (change : Pipe → Pipe) : Action Unit :=
  modify fun s => { s with world := { s.world with pipes := s.world.pipes.modify number change } }

def connect (descriptor : Nat) (stream : Option Nat) : Action Unit :=
  modify fun s =>
    let others := s.descriptors.filter (·.1 ≠ descriptor)
    { s with descriptors := match stream with
        | some index => (descriptor, index) :: others
        | none => others }

/-- Holds streams open while an action runs. -/
def holding {α : Type} (indices : List Nat) (action : Action α) : Action α := do
  modify fun s => { s with kept := indices ++ s.kept }
  let release : Action Unit := modify fun s => { s with kept := s.kept.drop indices.length }
  let result ← tryCatch action fun stop => do
    release
    throw stop
  release
  return result

/-- What the process knows of all, with what it holds open itself. -/
def world : Action World := do
  let s ← get
  return s.world.alter s.id fun r => { r with streams := s.streams }

/-- Puts bytes into a content, from a byte on. -/
def splice (content : Utf8.Bytes) (offset : Nat) (bytes : Utf8.Bytes) : Utf8.Bytes :=
  let gap := List.replicate (offset - content.length) 0
  content.take offset ++ gap ++ bytes ++ content.drop (offset + bytes.length)

/-- Why nothing can be written. -/
inductive Obstacle where
  | notOpen
  | noReader
  | noSpace
  | tooLarge
  deriving DecidableEq, Repr

def Obstacle.reason : Obstacle → String
  | notOpen => "Bad file descriptor"
  | noReader => "Broken pipe"
  | noSpace => "No space left on device"
  | tooLarge => "File too large"

/-- Gets a signal because of what the process has tried to do. -/
def suffer (signal : Signal) : Action Unit := do
  let s ← get
  if s.diesOf signal then throw (.killed signal)
  if s.catches signal then
    set { s with world := { s.world with posted := s.world.posted ++ [(s.id, signal)] } }

/-- Writes to a pipe, as far as it takes more before somebody reads from it. Without a reader the
process gets a signal, or nothing is written. -/
def writePipe (number : Nat) : (rounds : Nat) → Octets → Action (Option Obstacle)
  | 0, _ => return some .noReader
  | rounds + 1, text => do
    let w ← world
    if !w.hasReader number then
      suffer .pipe
      return some .noReader
    else
      let room := Pipe.capacity - (w.pipe number).size
      if text.length ≤ room then
        changePipe number (·.push text)
        return none
      else
        if room > 0 then changePipe number (·.push (text.take room))
        await { room := some number }
        writePipe number rounds (text.drop room)

/-- Writes to a stream, and tells what is in the way of that. -/
def writeStream (index : Nat) (text : Octets) : Action (Option Obstacle) := do
  let s ← get
  match s.world.stream index with
  | .nothing => return none
  | .device kind => return if kind = .full then some .noSpace else none
  | .directory => return some .notOpen
  | .errors =>
    set { s with world := { s.world with errors := text :: s.world.errors } }
    return none
  | .pipe number _ writes =>
    if writes then writePipe number (text.length + 2) text else return some .notOpen
  | .file identity offset mode =>
    if mode = .read then return some .notOpen
    match s.world.fileOf? identity with
    | none => return some .notOpen
    | some (content, _) =>
      let start := if mode = .append then content.length else offset
      let fitting := match s.sizeLimit? with
        | some limit => text.take (limit - start)
        | none => text
      let now := (← site).now
      if fitting ≠ [] then
        changeFile identity fun content attributes =>
          .file (splice content start (Octets.toBytes fitting)) { attributes with modified := now }
        setStream index (.file identity (start + fitting.length) mode)
      if fitting.length = text.length then return none
      suffer .fileSize
      return some .tooLarge

/-- Writes to a descriptor, and tells what is in the way of that. -/
def tryWrite (descriptor : Nat) (text : Octets) : Action (Option Obstacle) := do
  if text = [] then return none
  match ← stream? descriptor with
  | some index => writeStream index text
  | none => return some .notOpen

/-- Writes to a descriptor; it is remembered if that is not possible. -/
def write (descriptor : Nat) (text : Octets) : Action Unit := do
  let text := if descriptor = 2 && (← get).isNarrow then Octets.withPlainQuotes text else text
  if (← tryWrite descriptor text).isSome && descriptor = 1 then
    modify fun s => { s with outputFailed := true }

/-- What there is to read from a stream now, and whether that is all. -/
def availableFrom (index : Nat) : Action (Octets × Bool) := do
  let w ← world
  match w.stream index with
  | .nothing | .errors | .directory => return ([], true)
  | .device kind => return (deviceBytes kind deviceCount, false)
  | .file identity offset mode =>
    if mode = .write || mode = .clobber || mode = .append then return ([], true)
    let content := ((w.fileOf? identity).map Prod.fst).getD []
    return (Octets.ofBytes (content.drop offset), true)
  | .pipe number reads _ =>
    if reads then return ((w.pipe number).content, !w.hasWriter number) else return ([], true)

/-- What there is to read from a descriptor now, and whether that is all. -/
def available (descriptor : Nat) : Action (Octets × Bool) := do
  match ← stream? descriptor with
  | none => return ([], true)
  | some index => availableFrom index

/-- Waits until there is more to read from a stream than so many bytes, or no more comes. -/
def awaitMore (index known : Nat) (signals : Bool) : Action Unit := do
  match (← get).world.stream index with
  | .pipe number .. => await { input := some (number, known), signals := signals }
  | _ => return

/-- Waits until there is more to read from a descriptor than so many bytes, or no more comes. -/
def awaitInput (descriptor known : Nat) (signals : Bool) : Action Unit := do
  if let some index ← stream? descriptor then awaitMore index known signals

/-- Moves on in a stream behind what was read. -/
def consumeFrom (index count : Nat) : Action Unit := do
  match (← get).world.stream index with
  | .file identity offset mode => setStream index (.file identity (offset + count) mode)
  | .pipe number .. => changePipe number (·.drop count)
  | _ => return

/-- Moves on behind what was read. -/
def consume (descriptor count : Nat) : Action Unit := do
  if let some index ← stream? descriptor then consumeFrom index count

/-- Takes all that can be read from a descriptor in the end. -/
def allInput (descriptor : Nat) : (rounds : Nat) → (pieces : List Octets) → Action Octets
  | 0, pieces => return pieces.reverse.flatten
  | rounds + 1, pieces => do
    let (text, whole) ← available descriptor
    consume descriptor text.length
    if whole then return (text :: pieces).reverse.flatten
    awaitInput descriptor 0 false
    allInput descriptor rounds (text :: pieces)

/-- Tells the user something about the command that runs. -/
def warn (command : Option Octets) (message : String) : Action Unit := do
  let s ← get
  let who := match command <|> s.within with
    | some c => c ++ ": ".toList
    | none => []
  write 2 (s.name ++ ": ".toList ++ Octets.ofNat s.line ++ ": ".toList ++ who
    ++ Octets.ofString message ++ ['\n'])

/-- Ends the script with a message. -/
def fail {α : Type} (command : Option Octets) (message : String) : Action α := do
  warn command message
  setStatus 2
  throw .failed

def value? (name : String) : Action (Option Octets) :=
  return ((← get).bindings.lookup name).bind Variable.value

/-- Sets a variable. After a change of the search path commands may be found elsewhere. -/
def setVariable (name : String) (v : Variable) : Action Unit :=
  modify fun s =>
    let known := (s.bindings.lookup name).isSome
    { s with
      bindings :=
        if known then s.bindings.map fun pair => if pair.1 = name then (name, v) else pair
        else (name, v) :: s.bindings
      found := if name = "PATH" then [] else s.found }

/-- Takes note of the file that was found for a name. -/
def keepFound (name path : Octets) : Action Unit :=
  modify fun s =>
    let unsure := s.unsure.filter (· ≠ name)
    if (s.found.lookup name).isSome then { s with unsure := unsure }
    else { s with unsure := unsure, found := s.found ++ [(name, path)] }

def assign (name : String) (value : Octets) : Action Unit := do
  let old := ((← get).bindings.lookup name).getD ⟨none, false, false⟩
  if old.fixed then fail none (name ++ ": is read only")
  let exported := old.exported || (← hasOption 'a')
  setVariable name { old with value := some value, exported := exported }
  if name = "OPTIND" then
    match Octets.int? false value with
    | some n =>
      if n < 0 then fail none ("Illegal number: " ++ Octets.text value)
      modify fun s => { s with optionIndex := max n.toNat 1, optionOffset := 0 }
    | none => fail none ("Illegal number: " ++ Octets.text value)

end Action

end ScopedCheck.Script
