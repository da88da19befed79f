import ScopedCheck.Guard
import ScopedCheck.Launch

namespace ScopedCheck

/-- How far the main task has come. -/
inductive Stage where
  | written
  | guarded
  | hangupHandled
  | interruptHandled
  | terminateHandled
  | watching
  | running
  | ended (result : Except Fault Ending)
  | released (status : Int)
  deriving Repr

namespace Stage

/-- The signals that have a handler. -/
def handled : Stage → List Signal
  | written | guarded => []
  | hangupHandled => [.hangup]
  | interruptHandled => [.hangup, .interrupt]
  | _ => [.hangup, .interrupt, .terminate]

/-- Whether the main task leaves room for the watcher. -/
def waits : Stage → Bool
  | running | ended _ => true
  | _ => false

end Stage

/-- How a run ends: with a status, or by a signal that was not handled. -/
inductive Exit where
  | status (n : Int)
  | killed (signal : Signal)
  deriving DecidableEq, Repr, Inhabited

/-- The two tasks of a run. -/
inductive Task where
  /-- It waits for the checker. -/
  | main
  /-- It waits for a signal. -/
  | watcher
  deriving DecidableEq, Repr

/-- The world of a run: the files that it shares with others, and who learns of its end. -/
class World (σ : Type) extends Shared σ where
  /-- A run ends, by a step of one of its tasks or else without any. -/
  ending : Option Task → Exit → σ → σ

instance : World Site where
  ending _ _ site := site

/-- The life of a run from the moment its temporary config exists. The main task makes the guard, installs
a handler for each of three signals, starts the watcher and then the checker, and waits for it. The
watcher releases the guard and ends the run, and so does the main task once the checker has ended. -/
structure Supervision (σ : Type) where
  site : σ
  guard : Guard
  stage : Stage
  pending : List Signal
  exit? : Option Exit
  paused : Bool := false
  /-- The signals that end the run once it does not pause any more. -/
  held : List Signal := []
  /-- The memory faults that it was told of. -/
  faults : List Signal := []
  deriving Repr

inductive Event where
  /-- The main task takes its next step. -/
  | proceed
  /-- The checker ends, or it cannot be started or waited for. -/
  | programEnds (result : Except Fault Ending)
  | signal (signal : Signal)
  /-- The watcher attends to a signal. -/
  | attend (signal : Signal)
  /-- Somebody else changes the files. -/
  | elsewhere (root : Node)
  deriving Repr

/-- Whether a run does not notice a signal; a reader that went away is no reason to end. -/
def Signal.isUnnoticed (signal : Signal) : Bool :=
  signal.isHarmless || signal = .pipe

namespace Supervision

/-- The exit status that the end of the checker asks for. -/
def statusOf : Except Fault Ending → Int
  | .ok ending => ending.exitStatus
  | .error _ => 1

section Steps

variable {σ : Type} [World σ]

def start (site : σ) (guard : Guard) : Supervision σ :=
  { site := site, guard := guard, stage := .written, pending := [], exit? := none }

def release (s : Supervision σ) : Supervision σ :=
  let (_, guard, site) := s.guard.release s.site
  { s with guard := guard, site := site }

/-- Ends a run, by a step of one of its tasks or else without any. -/
def finish (s : Supervision σ) (task? : Option Task) (exit : Exit) : Supervision σ :=
  { s with site := World.ending task? exit s.site, exit? := some exit }

def proceed (s : Supervision σ) : Supervision σ :=
  match s.stage with
  | .written => { s with stage := .guarded }
  | .guarded => { s with stage := .hangupHandled }
  | .hangupHandled => { s with stage := .interruptHandled }
  | .interruptHandled => { s with stage := .terminateHandled }
  | .terminateHandled => { s with stage := .watching }
  | .watching => { s with stage := .running }
  | .running => s
  | .ended result => { s.release with stage := .released (statusOf result) }
  | .released status => s.finish (some .main) (.status status)

/-- A run goes on after a pause, or it ends by the first of the signals that were held back. -/
def resume (s : Supervision σ) : Supervision σ :=
  match s.held with
  | [] => { s with paused := false }
  | signal :: _ => { s with paused := false, held := [] }.finish none (.killed signal)

/-- What a signal does to a run. Some do nothing, and a memory fault that somebody else tells of does
nothing the first time. Any other that has no handler (yet) ends the run at once, or after the pause if
the run pauses; one that has waits until the watcher attends to it. -/
def receive (s : Supervision σ) (signal : Signal) : Supervision σ :=
  if signal = .kill then s.finish none (.killed signal)
  else if signal = .resume then s.resume
  else if signal.isPause then { s with paused := true }
  else if signal.isUnnoticed then s
  else if signal ∈ s.stage.handled then { s with pending := signal :: s.pending }
  else if signal.isFault ∧ signal ∉ s.faults then { s with faults := signal :: s.faults }
  else if s.paused then { s with held := s.held ++ [signal] }
  else s.finish none (.killed signal)

def setRoot (s : Supervision σ) (root : Node) : Supervision σ :=
  { s with site := Shared.replace root s.site }

def step (s : Supervision σ) (event : Event) : Supervision σ :=
  match event with
  | .elsewhere root => s.setRoot root
  | event =>
    if s.exit?.isSome then s
    else match event with
      | .proceed => if s.paused then s else s.proceed
      | .programEnds result =>
        match s.stage with
        | .running => { s with stage := .ended result }
        | _ => s
      | .signal signal => s.receive signal
      | .attend signal =>
        if signal ∈ s.pending ∧ s.stage.waits ∧ ¬s.paused then
          s.release.finish (some .watcher) (.status signal.exitStatus)
        else s
      | .elsewhere root => s.setRoot root

def steps (s : Supervision σ) (events : List Event) : Supervision σ :=
  events.foldl step s

end Steps

/-- The main task's way from a written config to a running checker. -/
def toRunning : List Event :=
  List.replicate 6 .proceed

/-- What happens when a signal is sent to a run that waits for its checker. After a pause both tasks go
on. -/
def attended (signal : Signal) : List Event :=
  .signal signal ::
    if signal = .resume then [.attend .hangup, .attend .interrupt, .attend .terminate, .proceed, .proceed]
    else [.attend signal]

/-- The end of a checker, and the main task's way from there. -/
def toExit (result : Except Fault Ending) : List Event :=
  [.programEnds result, .proceed, .proceed]

/-- What happens on something that was observed. -/
def answers (o : Observation) : List Event :=
  .elsewhere o.root :: match o.notice with
    | .signal signal => attended signal
    | .ended ending => toExit (.ok ending)

def reaction (s : Supervision Site) : Reaction := fun observations =>
  let s := s.steps (observations.flatMap answers)
  if s.exit?.isSome then .ends s.site.root else .waits

/-- All that comes of a checker that was started. -/
def reported {ρ : Type} (report : Report ρ) : List Event :=
  report.observations.flatMap answers ++ report.afterwards.toList.map .elsewhere

end Supervision

end ScopedCheck
