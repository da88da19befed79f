import ScopedCheck.Script.Image
import ScopedCheck.Script.Shell
import ScopedCheck.Text.Split

namespace ScopedCheck.Script

namespace Process

/-- The state that another process starts with. Of what was arranged for signals it keeps only what
is ignored. -/
def child (p : Process) : Process :=
  { p with traps := p.traps.filter (·.action = []), jobs := [], parentId := p.id }

/-- The state of a program that takes the place of a shell. -/
def program (p : Process) : Process :=
  { p with kept := [], traps := [],
           deaf := p.deaf ++ (p.traps.filter (·.action = [])).map Trap.signal }

/-- Makes a descriptor lead to a stream. -/
def connected (descriptor index : Nat) (p : Process) : Process :=
  { p with descriptors := (descriptor, index) :: p.descriptors.filter (·.1 ≠ descriptor) }

/-- The number of the chain in which a shell keeps a variable of a name. -/
def chainOf (name : String) : Nat :=
  let bytes := (Octets.ofString name).map Char.toNat
  (bytes.headD 0 * 16 + bytes.foldl (· + ·) 0) % 39

/-- The environment that programs get: the exported variables, chain by chain. -/
def environment (p : Process) : List (String × Octets) :=
  let exported := p.bindings.reverse.filterMap fun (name, v) =>
    if v.exported then v.value.map fun value => (name, value) else none
  exported.mergeSort fun a b => decide (chainOf a.1 ≤ chainOf b.1)

end Process

/-- The status that a shell tells of an ending. -/
def statusOf : Ending → Nat
  | .exited status => status % 256
  | .killed signal => 128 + signal.number.toNat

namespace Job

/-- Takes note of processes that have ended. A job is done when all of its processes are. -/
def note (ended : List Resident) (job : Job) : Job :=
  let running := job.running.filter fun id => !ended.any (·.id = id)
  let last := (ended.find? (·.id = job.id)).bind Resident.ending
  { job with running := running, ending := last <|> job.ending }

/-- The status of a job that is done. -/
def status? (job : Job) : Option Nat :=
  if job.running = [] then some (statusOf (job.ending.getD (.exited 0))) else none

end Job

namespace Action

/-- How long it takes a process to start another one. -/
def forkTime : Nat := 100

/-- How long it takes until the other one runs. -/
def birthTime : Nat := 350

/-- How long it takes to load a program. -/
def loadTime : Nat := 700

/-- How long a command of a shell takes. -/
def stepTime : Nat := 10

/-- The number for a new job. A job that is done and that the shell was asked about gives way. -/
def jobNumber (jobs : List Job) : Nat :=
  let isTaken (n : Nat) : Bool := jobs.any fun job => job.number = n && !(job.running = [] && job.waited)
  ((List.range' 1 (jobs.length + 1)).find? (!isTaken ·)).getD 1

/-- Makes place for a new job. -/
def takeJobNumber : Action Nat := do
  let number := jobNumber (← get).jobs
  modify fun s => { s with jobs := s.jobs.filter (·.number ≠ number) }
  return number

/-- Starts a process in a state that is made of this one. -/
def fork (work : Work) (change : Process → Process) : Action Nat := do
  let s ← get
  let id := s.world.nextId
  let process := { change s.toProcess.child with id := id }
  let birth : Birth := ⟨s.world.clock + birthTime, process, work⟩
  let resident : Resident :=
    { id := id, parent := s.id, group := process.group, streams := process.streams }
  set { s with world := { s.world with
    nextId := id + 1, births := birth :: s.world.births
    processes := s.world.processes ++ [resident] } }
  spend forkTime
  return id

/-- Takes note of all processes started from here that have ended. -/
def reap : Action Unit :=
  modify fun s =>
    let isOver (r : Resident) : Bool := r.parent = s.id && r.ending.isSome
    let ended := s.world.processes.filter isOver
    { s with
      jobs := s.jobs.map (Job.note ended)
      world := { s.world with processes := s.world.processes.filter (!isOver ·) } }

/-- Waits until a process has ended, and tells how. -/
def awaitEnding (id : Nat) : Action Ending := do
  await { endings := [id] }
  return (((← get).world.resident? id).bind Resident.ending).getD (.exited 0)

/-- Sends a signal to a process. -/
def post (signal : Signal) (id : Nat) : Action Unit :=
  modify fun s =>
    let alive := (s.world.resident? id).any fun r => r.ending.isNone
    if signal.number = 0 || !alive then s
    else { s with world := { s.world with posted := s.world.posted ++ [(id, signal)] } }

def defaultPath : Octets :=
  "/usr/local/sbin:/usr/local/bin:/usr/sbin:/usr/bin:/sbin:/bin".toList

/-- The files that a name without a slash may mean in a search path. -/
def candidates (search name : Octets) : List Octets :=
  (Text.split ':' search).map fun d => if d = [] then name else inside d name

/-- The command that a name without a slash stands for in the directories of a search path, or that
a path leads to. -/
def findProgram (site : Site) (search name : Octets) (arguments : List Octets) :
    Except Fault (Octets × Except Fault (String × List Octets)) :=
  if name.contains '/' then .ok (name, Image.load site Image.maxInterpreters name arguments)
  else
    let found := candidates search name
    match found.find? fun p => site.isProgram ⟨Octets.text p⟩ with
    | some p => .ok (p, Image.load site Image.maxInterpreters p arguments)
    | none =>
      let isThere := found.any fun p => site.isFile ⟨Octets.text p⟩
      .error (if name = [] || isThere then .permissionDenied else .notFound)

/-- The program that a tool starts for its arguments. A file that is no program is the text of a
script. -/
def programOf (site : Site) (environment : List (String × Octets)) (words : List Octets) :
    Except Fault (String × List Octets) :=
  let search := (environment.lookup "PATH").getD defaultPath
  match findProgram site search (words.headD []) words with
  | .ok (_, .ok found) => .ok found
  | .ok (path, .error .other) => .ok ("sh", "/bin/sh".toList :: path :: words.tail)
  | .ok (_, .error cause) | .error cause => .error cause

end Action

end ScopedCheck.Script
