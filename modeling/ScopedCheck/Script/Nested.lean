import ScopedCheck.Program
import ScopedCheck.Script.Tool.Starting

namespace ScopedCheck.Script.Nested

open Script.Action

def commandName : String := "vue-tsc-files"

/-- How long the main task takes for a step. -/
def stageTime : Nat := 20

/-- What stands for the handler of a signal. -/
def handlerOf (signal : Signal) : Trap :=
  ⟨signal.number, [':']⟩

/-- Lets an event happen to a run, among the files as others have left them. -/
def happen (s : Supervision Site) (event : Event) : Action (Supervision Site) := do
  let s := (s.step (.elsewhere (← get).world.root)).step event
  let handled := s.stage.handled
  setRoot s.site.root
  modify fun shell => { shell with
    traps := handled.map handlerOf
    deaf := shell.deaf.filter fun number => !handled.any (·.number = number) }
  return s

def happenAll (s : Supervision Site) (events : List Event) : Action (Supervision Site) :=
  events.foldlM happen s

/-- Lets the main task come to the start of the checker. -/
def reachChecker (s : Supervision Site) : Action (Supervision Site) :=
  Supervision.toRunning.foldlM (fun s event => do spend stageTime; happen s event) s

/-- Starts the checker in its directory. -/
def startChecker (launch : Launch) (environment : Environment) : Action (Except Fault Nat) := do
  let words := (launch.program.text :: launch.arguments).map Octets.ofString
  if words.any (·.contains '\x00') then return .error .nulCharacter
  match (← site).enter launch.directory with
  | .error cause => return .error cause
  | .ok inside =>
    match Image.load inside Image.maxInterpreters (Octets.ofString launch.program.text) words with
    | .error cause => return .error cause
    | .ok (name, words) =>
      let work := Work.program name words environment
      return .ok (← fork work fun p => { p with directory := inside.directory })

/-- The first signal that was sent to this process and that it handles. -/
def takeSignal : Action (Option Signal) := do
  let s ← get
  match s.world.posted.find? fun (id, signal) => id = s.id && s.catches signal with
  | none => return none
  | some (id, signal) =>
    set { s with world := { s.world with posted := s.world.posted.erase (id, signal) } }
    return some signal

/-- Waits for the end of the checker, or for a signal that comes before. -/
def awaitChecker (id : Nat) (s : Supervision Site) : Action (Supervision Site) := do
  await { endings := [id], signals := true }
  match ← takeSignal with
  | some signal => happenAll s (Supervision.attended signal)
  | none =>
    let ending ← awaitEnding id
    reap
    happenAll s (Supervision.toExit (.ok ending))

def endingOf : Option Exit → Ending
  | some (.killed signal) => .killed signal
  | some (.status n) => .exited (n.toNat % 256)
  | none => .exited 0

def refuse (failure : Failure) : Action Ending := do
  write 2 (Octets.ofString ("Error: " ++ failure.code ++ "\n"))
  return .exited 1

/-- Runs the checker on a config that has been written. -/
def check (launch : Launch) (environment : Environment) (s : Supervision Site) : Action Ending := do
  let s ← reachChecker s
  match ← startChecker launch environment with
  | .ok id => return endingOf (← awaitChecker id s).exit?
  | .error cause =>
    let _ ← happenAll s (Supervision.toExit (.error cause))
    refuse (.checkerNotRun launch.program cause)

def run (words : List Octets) (environment : Environment) : Action Ending := do
  match Arguments.capture (words.map Octets.toBytes) with
  | .error failure => refuse failure
  | .ok tokens =>
    let arguments := Arguments.partition tokens
    if arguments.isEmpty then return .exited 0
    let setting : Setting Unit :=
      { site := ← site
        environment := ⟨environment.map fun (name, value) => (Utf8.encode name, value.toBytes)⟩
        suffixes := Suffix.ofNat
        launcher := fun _ _ _ => .error .other }
    match Program.begin setting arguments with
    | (.error failure, site) =>
      setRoot site.root
      refuse failure
    | (.ok (p, guard), site) =>
      setRoot site.root
      let launch :=
        Checker.launch p.checker p.directory guard.path arguments.forwardedFlags setting.environment
      check launch environment (Supervision.start site guard)

end ScopedCheck.Script.Nested
