import ScopedCheck.Program
import ScopedCheck.Sandbox

namespace ScopedCheck.Image

/-- The files that a run may look into. -/
def candidates (directory : Path) (arguments : Arguments) (environment : Environment) : List Path :=
  let requested := Checker.asked? (environment.value? Program.checkerVariable)
  let packages := directory.ancestors.map (Checker.packageIn · Checker.anchorPackage)
  let search := Checker.SearchPath.ofValues (environment.value? "PATH") (environment.value? "HOME")
  let searched := Text.split ':' (search.directories.getD "").toList
  Config.resolvePath directory arguments.projectOverride
    :: requested.toList.map directory.join
    ++ packages.map (·.child "package.json")
    ++ (packages.filterMap Path.parent?).map (fun p => (p.child ".bin").child Checker.programName)
    ++ searched.map fun d => (directory.join ⟨String.ofList d⟩).child Checker.programName

def maxDepth : Nat := 64

/-- The names below a directory; all files are empty. -/
def names : (depth : Nat) → String → IO Entries
  | 0, _ => return []
  | depth + 1, directory => do
    let entries ← (← IO.FS.realPath directory).readDir
    entries.toList.mapM fun entry => do
      match (← entry.path.symlinkMetadata).type with
      | .dir => return (entry.fileName, .directory (← names depth entry.path.toString))
      | .symlink => return (entry.fileName, .link ⟨(← IO.FS.realPath entry.path).toString⟩)
      | _ => return (entry.fileName, .file [] {})

/-- Puts a file with its content into an image, if there is such a file. -/
def addFile (site : Site) (path : Path) : IO Site := do
  match ← (IO.FS.readBinFile path.text).toBaseIO with
  | .error _ => return site
  | .ok content =>
    return ((site.makeParents path).write path content.toList (some 0o755)).toOption.getD site

def read (arguments : Arguments) (environment : Environment) : IO Site := do
  match ← IO.currentDir.toBaseIO with
  | .error _ => return { Sandbox.site with directory := none }
  | .ok here =>
    let directory : Path := ⟨here.toString⟩
    let entries ← names maxDepth directory.text
    let site := ((Sandbox.site.makeDirectories directory).enter directory).toOption.getD Sandbox.site
    (candidates directory arguments environment).foldlM addFile
      (site.alter (site.directory.getD []) fun _ => entries)

end ScopedCheck.Image

namespace ScopedCheck

def Failure.describe (failure : Failure) : String :=
  let help := match failure.help? with
    | some help => "\n  help: " ++ help
    | none => ""
  "Error: " ++ failure.code ++ "\n\n  " ++ failure.message ++ help

/-- The exit status; the end by a signal is told as a shell tells it. -/
def Exit.toUInt32 : Exit → UInt32
  | .status n => UInt32.ofNat n.toNat
  | .killed signal => UInt32.ofNat signal.exitStatus.toNat

end ScopedCheck

open ScopedCheck in
/-- A run is worked out on an image of the files that it looks at. The checker is started in the sandbox on
that image, and the files themselves stay as they are. -/
def main (tokens : List String) : IO UInt32 := do
  let environment ← [Program.checkerVariable, "PATH", "HOME"].filterMapM fun name => do
    return (← IO.getEnv name).map fun value => (name, value)
  let arguments := Arguments.partition tokens
  let start ← IO.rand 0 (Suffix.alphabet.length.pow Suffix.size - 1)
  let setting : Setting Script.Schedule :=
    { site := ← if arguments.isEmpty then pure Sandbox.site else Image.read arguments environment
      environment := environment
      suffixes := fun n => Suffix.ofNat (start + n)
      launcher := Sandbox.launcher .idle }
  let outcome := Program.runArguments setting arguments
  if let some failure := outcome.failure? then IO.eprintln failure.describe
  return outcome.exit.toUInt32
