import ScopedCheck.Main
import ScopedCheck.Proofs.Config.Blanking
import ScopedCheck.Proofs.Config.Derived
import ScopedCheck.Proofs.Supervision.Arbitration
import ScopedCheck.Proofs.Supervision.Cleanup
import ScopedCheck.Proofs.Program.Completion
import ScopedCheck.Proofs.Parallel.Runs
import ScopedCheck.Proofs.Config.Origin
import ScopedCheck.Proofs.Config.Accepted
import ScopedCheck.Proofs.Config.Position
import ScopedCheck.Proofs.Declarations.Listing
import ScopedCheck.Proofs.Arguments
import ScopedCheck.Proofs.Arguments.Capture
import ScopedCheck.Proofs.Config.Overlay
import ScopedCheck.Proofs.Config.Exclusive
import ScopedCheck.Proofs.Config.Literals
import ScopedCheck.Proofs.Checker.Ascent
