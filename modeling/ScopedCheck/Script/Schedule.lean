import ScopedCheck.Script.Run

namespace ScopedCheck.Script

/-- A process that waits. -/
structure Task where
  process : Process
  need : Need
  resume : Shell → Resumption Need Stop Shell Ending

/-- Whether what a process waits for has come about, whatever the time. -/
def Need.isMet (n : Need) (w : World) (p : Process) : Bool :=
  n.endings.any w.hasEnded ||
  n.input.any (fun (pipe, known) => known < (w.pipe pipe).size || !w.hasWriter pipe) ||
  n.room.any (fun pipe => (w.pipe pipe).size < Pipe.capacity || !w.hasReader pipe) ||
  n.writer.any w.hasWriter || n.reader.any w.hasReader ||
  (n.signals && w.posted.any fun (id, signal) => id = p.id && p.catches signal)

/-- When a process can go on if nobody else does anything before. -/
def Need.moment? (n : Need) (w : World) (p : Process) : Option Nat :=
  if n.isMet w p then some w.clock else n.deadline.map (max w.clock)

/-- The processes that run, with all that they share. -/
structure Schedule where
  world : World
  /-- The processes that wait, in the order in which they began to. -/
  tasks : List Task := []
  /-- Whether any of them went on after the one who started the first of them had stopped waiting. -/
  wentOn : Bool := false

namespace Schedule

/-- What a process does from its start on. -/
def begin (e : Engine) : Work → Action Ending
  | .commands script tested muted redirects =>
    Engine.conclude e do
      if muted then modify fun s => { s with deaf := 2 :: 3 :: s.deaf }
      if ← Action.redirectAll Engine.outputOf redirects then
        Engine.runAll e { tested := tested, final := true } script
      else Action.setStatus 2
  | .program name arguments environment =>
    Engine.runNamed e Engine.maxPrograms name arguments environment

def taskOf (e : Engine) (birth : Birth) : Task :=
  ⟨birth.process, { deadline := some birth.time }, begin e birth.work⟩

/-- Takes over the processes that are to start. -/
def takeBirths (e : Engine) (s : Schedule) : Schedule :=
  { s with tasks := s.tasks ++ s.world.births.reverse.map (taskOf e)
           world := { s.world with births := [] } }

/-- How long others go on before their effects are looked at, if nobody waits for them. -/
def grace : Nat := 5000

/-- Notes the end of a process: its streams are closed, its children have no parent any more, and its
own parent can learn of it. -/
def noteEnding (react : Reaction) (id : Nat) (ending : Ending) (s : Schedule) : Schedule :=
  let w := s.world
  let parent := ((w.resident? id).map Resident.parent).getD 0
  let adopted := w.processes.map fun r => if r.parent = id then { r with parent := 0 } else r
  let ended := adopted.map fun r =>
    if r.id = id then { r with streams := [], ending := some ending } else r
  let isKnown (r : Resident) : Bool := r.ending.isNone || ended.any fun p => p.id = r.parent
  let child : Signal := ⟨17⟩
  let told := s.tasks.any fun t => t.process.id = parent && t.process.catches child
  let posted := w.posted.filter (·.1 ≠ id)
  let world := { w with
    processes := ended.filter isKnown
    posted := if told then posted ++ [(parent, child)] else posted }
  let isFirst := parent = world.starter.id
  { s with world := if isFirst then world.notify react [] (.ended ending) else world }

/-- Lets one signal have its effect on a process that waits, unless the process has an action for
it, which it will see to by itself. A process that is stopped learns of most signals later. -/
def deliver (react : Reaction) (s : Schedule) (posting : Nat × Signal) : Schedule :=
  let (id, signal) := posting
  let drop (s : Schedule) : Schedule :=
    { s with world := { s.world with posted := s.world.posted.erase posting } }
  let setStopped (value : Bool) (s : Schedule) : Schedule :=
    { s with world := s.world.alter id fun r => { r with stopped := value } }
  match s.tasks.find? (·.process.id = id) with
  | none => drop s
  | some task =>
    let p := task.process
    let stopped := (s.world.resident? id).any Resident.stopped
    if signal.number = 18 then
      let s := setStopped false s
      if p.catches signal then s else drop s
    else if stopped && signal ≠ .kill then s
    else if p.ignores signal then drop s
    else if p.catches signal then s
    else if signal.isPause then drop (setStopped true s)
    else if p.diesOf signal then
      noteEnding react id (.killed signal)
        { s with tasks := s.tasks.filter (·.process.id ≠ id) }
    else drop s

def deliverAll (react : Reaction) (s : Schedule) : Schedule :=
  s.world.posted.foldl (deliver react) s

/-- The process that goes on next, and when. -/
def next? (s : Schedule) : Option (Nat × Task) :=
  s.tasks.foldl (fun best task =>
    let stopped := (s.world.resident? task.process.id).any Resident.stopped
    match if stopped then none else task.need.moment? s.world task.process, best with
    | some moment, some (earliest, other) =>
      if moment < earliest then some (moment, task) else some (earliest, other)
    | some moment, none => some (moment, task)
    | none, best => best) none

/-- Whether there is nothing more to see for the one who started all. -/
def isOver (s : Schedule) (moment : Nat) : Bool :=
  s.world.starter.doneAt.any (· + grace < moment)

/-- Lets a process go on until it waits again or ends. -/
def turn (react : Reaction) (moment : Nat) (task : Task) (s : Schedule) : Schedule :=
  let id := task.process.id
  let s := { s with
    tasks := s.tasks.filter (·.process.id ≠ id), wentOn := s.wentOn || s.world.starter.doneAt.isSome }
  match task.resume { task.process with world := { s.world with clock := moment } } with
  | .waits need shell resume =>
    let world := shell.world.alter id fun r =>
      { r with streams := shell.streams, group := shell.group }
    { s with world := world, tasks := s.tasks ++ [⟨shell.toProcess, need, resume⟩] }
  | .done result shell =>
    let ending := match result with
      | .ok ending => ending
      | .error _ => .killed .kill
    noteEnding react id ending { s with world := shell.world }

def run (e : Engine) : (turns : Nat) → Schedule → Schedule
  | 0, s => s
  | turns + 1, s =>
    let s := deliverAll e.react (takeBirths e s)
    match s.next? with
    | none => s
    | some (moment, task) => if s.isOver moment then s else run e turns (turn e.react moment task s)

def maxTurns : Nat := 1000000000000

end Schedule

/-- Nothing runs. -/
def Schedule.idle : Schedule :=
  { world := { root := .directory [], starter := ⟨0, [], none, true⟩, nextId := 100 } }

/-- The files that those who still run change, with the time. -/
def Schedule.now (s : Schedule) : Int := s.world.epoch + s.world.clock

/-- How long it takes until another program is started after one for which nobody waits any longer. -/
def pauseTime : Nat := 2000

/-- The identity of the file of the program that starts the first of all. -/
def starterIdentity : Nat := 10

/-- The files with the program that started the first of all among the processes. -/
def withStarter (id : Nat) (site : Site) : Site :=
  let image := Image.ofCommand starterIdentity Nested.commandName
  site.alter ["proc"] fun entries =>
    entries.filter (·.1 = "self") ++ [(toString id, .directory [("exe", image)])]

/-- Starts a program and runs it, with all that it starts and all that still runs, until the one who
starts it does not wait any longer. -/
def launch (react : Reaction) (rest : Schedule) (site : Site) (environment : List (String × Octets))
    (name : String) (arguments : List Octets) : Report Schedule :=
  let before := rest.world
  let starterId := before.nextId
  let id := starterId + 1
  let first := before.streams.size
  let process : Process :=
    { directory := site.directory, path := [], bindings := [], name := [], arguments := []
      ownId := id, id := id, parentId := starterId, group := starterId, mask := site.mask
      descriptors := [(0, first), (1, first + 1), (2, first + 2)] }
  let resident : Resident :=
    { id := id, parent := starterId, group := process.group, streams := process.streams }
  let clock := before.clock + pauseTime
  let old := before.streams.map fun stream => if stream = .errors then .nothing else stream
  let world : World := { before.setRoot [] (withStarter starterId site).root with
    domain := site.domain
    streams := old ++ #[.nothing, .nothing, .errors]
    errors := []
    clock := clock
    epoch := if rest.tasks.isEmpty then site.now - before.clock else before.epoch
    starter := { id := starterId }
    processes := before.processes ++ [resident]
    births := ⟨clock, process, .program name arguments environment⟩ :: before.births
    nextId := id + 1 }
  let s := Schedule.run (engine react) Schedule.maxTurns { world := world, tasks := rest.tasks }
  { observations := s.world.starter.observations.reverse
    errors := Octets.text s.world.errors.reverse.flatten
    afterwards := if s.wentOn then some s.world.root else none
    rest := s }

end ScopedCheck.Script
