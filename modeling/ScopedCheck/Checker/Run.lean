import ScopedCheck.Checker.Command
import ScopedCheck.Launch

namespace ScopedCheck.Checker

def launch (checker directory config : Path) (flags : List String)
    (environment : Environment) : Launch :=
  ⟨checker, arguments config flags, directory, environment⟩

def run {ρ : Type} (launcher : Launcher ρ) (launch : Launch) (react : Reaction) (site : Site) :
    Except Failure (Report ρ) :=
  (launcher launch react site).mapError (.checkerNotRun launch.program)

end ScopedCheck.Checker
