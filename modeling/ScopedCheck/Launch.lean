import ScopedCheck.Checker.Ending
import ScopedCheck.Environment
import ScopedCheck.FileSystem.Site

namespace ScopedCheck

structure Launch where
  program : Path
  arguments : List String
  directory : Path
  environment : Environment
  deriving DecidableEq, Repr

/-- What the one who started a program learns while it waits. -/
inductive Notice where
  | signal (signal : Signal)
  /-- The program has ended. -/
  | ended (ending : Ending)
  deriving Repr

/-- A notice, with the files at that moment. -/
structure Observation where
  notice : Notice
  root : Node
  deriving Repr

/-- What the one who started a program does on a notice. -/
inductive Response where
  /-- It goes on waiting. -/
  | waits
  /-- It waits no longer. -/
  | goesOn
  /-- It ends, and leaves the files like this. -/
  | ends (root : Node)
  deriving Repr

/-- How the one who started a program responds to the last of what it has observed. -/
abbrev Reaction := List Observation → Response

/-- What came of a program that was started, up to the moment when the one who started it did not wait
any longer. What the program had started in its turn may still run; `ρ` says what that is. -/
structure Report (ρ : Type) where
  observations : List Observation
  /-- What was written to the error text. -/
  errors : String
  /-- The files at last, if others went on after that moment. -/
  afterwards : Option Node := none
  rest : ρ

/-- How the program ended, as far as its end was observed. -/
def Report.ending? {ρ : Type} (report : Report ρ) : Option Ending :=
  report.observations.findSome? fun o => match o.notice with
    | .ended ending => some ending
    | .signal _ => none

/-- The files as the report leaves them, if anything was observed. -/
def Report.root? {ρ : Type} (report : Report ρ) : Option Node :=
  report.afterwards <|> report.observations.getLast?.map Observation.root

/-- A way to start programs. A program that cannot be started changes nothing. -/
abbrev Launcher (ρ : Type) := Launch → Reaction → Site → Except Fault (Report ρ)

/-- Waits for the end of a program, whatever else happens. -/
def Reaction.untilEnd : Reaction := fun observations =>
  match observations.getLast?.map Observation.notice with
  | some (.ended _) => .goesOn
  | _ => .waits

end ScopedCheck
