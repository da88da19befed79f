import ScopedCheck.Arguments
import ScopedCheck.Checker.Locate
import ScopedCheck.Checker.Run
import ScopedCheck.Config.Temporary
import ScopedCheck.Declarations
import ScopedCheck.Supervision

namespace ScopedCheck

/-- All that a run depends on besides its command line. -/
structure Setting (ρ : Type) where
  site : Site
  environment : Environment
  suffixes : Nat → Suffix
  trouble : Trouble := {}
  launcher : Launcher ρ

/-- How a run ended, what it leaves behind, and the programs that it started, each with the files
at that moment. -/
structure Outcome (ρ : Type) where
  exit : Exit
  failure? : Option Failure
  root : Node
  launches : List (Launch × Node)
  /-- What the programs wrote to the error text. -/
  errors : String := ""
  /-- What still runs of what they started. -/
  rest? : Option ρ := none

namespace Program

variable {ρ : Type}

/-- The variable that names the checker. -/
def checkerVariable : String := "VUE_TSC_FILES_BIN"

/-- What is found out before anything is written. -/
structure Preparation where
  directory : Path
  config : Config
  declarations : List Path
  checker : Path

/-- Where the config is that a run works with. -/
def configPath (arguments : Arguments) (directory : Path) : Path :=
  Config.resolvePath directory arguments.projectOverride

/-- What the search for the checker gives. -/
def checkerFrom (setting : Setting ρ) (directory : Path) : Except Failure Path :=
  Checker.locate setting.site directory
    (Checker.asked? (setting.environment.value? checkerVariable))
    (.ofValues (setting.environment.value? "PATH") (setting.environment.value? "HOME"))

def prepare (setting : Setting ρ) (arguments : Arguments) : Except Failure Preparation := do
  let directory ← setting.site.directoryPath.mapError .workingDirectory
  let config ← Config.load setting.site (configPath arguments directory)
  let declarations ← Declarations.collect setting.site directory
  let checker ← checkerFrom setting directory
  return ⟨directory, config, declarations, checker⟩

def failed (failure : Failure) (root : Node) : Outcome ρ :=
  { exit := .status 1, failure? := some failure, root := root, launches := [] }

/-- Runs the checker on a config that has been written. -/
def check (setting : Setting ρ) (arguments : Arguments) (p : Preparation) (guard : Guard)
    (site : Site) : Outcome ρ :=
  let launch :=
    Checker.launch p.checker p.directory guard.path arguments.forwardedFlags setting.environment
  let waiting := (Supervision.start site guard).steps Supervision.toRunning
  match Checker.run setting.launcher launch waiting.reaction waiting.site with
  | .error failure =>
    let s := waiting.steps (Supervision.toExit (.error (failure.cause?.getD .other)))
    { exit := s.exit?.getD default, failure? := some failure, root := s.site.root, launches := [] }
  | .ok report =>
    let s := waiting.steps (Supervision.reported report)
    { exit := s.exit?.getD default, failure? := none, root := s.site.root
      launches := [(launch, waiting.site.root)], errors := report.errors, rest? := some report.rest }

/-- Finds out what must be known and writes the temporary config. -/
def begin (setting : Setting ρ) (arguments : Arguments) :
    Except Failure (Preparation × Guard) × Site :=
  match prepare setting arguments with
  | .error failure => (.error failure, setting.site)
  | .ok p =>
    let members := p.config.derive arguments.files p.declarations
    match p.config.writeTemporary setting.site setting.trouble setting.suffixes p.directory
      members with
    | (.error failure, site) => (.error failure, site)
    | (.ok guard, site) => (.ok (p, guard), site)

def runArguments (setting : Setting ρ) (arguments : Arguments) : Outcome ρ :=
  if arguments.isEmpty then
    { exit := .status 0, failure? := none, root := setting.site.root, launches := [] }
  else match begin setting arguments with
    | (.error failure, site) => failed failure site.root
    | (.ok (p, guard), site) => check setting arguments p guard site

/-- What must be known is found out first, and nothing is changed for it. Then the temporary config is
written, the checker is run under supervision, and the config is removed. -/
def run (setting : Setting ρ) (argv : List Utf8.Bytes) : Outcome ρ :=
  match Arguments.capture argv with
  | .error failure => failed failure setting.site.root
  | .ok tokens => runArguments setting (Arguments.partition tokens)

end Program

end ScopedCheck
