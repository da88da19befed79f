import ScopedCheck.Script.Schedule

namespace ScopedCheck.Sandbox

open Script

/-- The directory for files that are tried out. -/
def scratch : Place := ["tmp", "scoped-check-scratch"]

/-- The names of all commands of the system. -/
def commands : List String :=
  Tool.all.map Prod.fst ++
    ["dash", "env", "find", "nice", "nohup", "seq", "setsid", "sh", "sleep", "stdbuf", "tee", "timeout",
     "xargs", "yes", "awk", "mawk", "nawk", "kill"]

/-- The identity of the first command; those of the others follow. -/
def firstIdentity : Nat := 20

def device (identity : Nat) (kind : FileKind) : Node :=
  .file [] { mode := 0o666, kind := kind, identity := identity }

def base : Node :=
  .directory [
    ("bin", .link ⟨"usr/bin"⟩),
    ("dev", .directory [
      ("null", device 1 .sink), ("zero", device 2 .zeros), ("full", device 3 .full),
      ("random", device 4 .noise), ("urandom", device 5 .noise),
      ("fd", .link ⟨"/proc/self/fd"⟩), ("stdin", .link ⟨"/proc/self/fd/0"⟩),
      ("stdout", .link ⟨"/proc/self/fd/1"⟩), ("stderr", .link ⟨"/proc/self/fd/2"⟩)]),
    ("etc", .directory []),
    ("home", .directory []),
    ("lib", .link ⟨"usr/lib"⟩),
    ("opt", .directory []),
    ("proc", .directory [("self", .directory [("fd", .directory [
      ("0", .link ⟨"/dev/null"⟩), ("1", .link ⟨"/dev/null"⟩), ("2", .link ⟨"/dev/null"⟩)])])]),
    ("root", .directory [] 0o700),
    ("sbin", .link ⟨"usr/sbin"⟩),
    ("tmp", .directory [("scoped-check-scratch", .directory [])] 0o1777),
    ("var", .directory [("tmp", .directory [] 0o1777)]),
    ("usr", .directory [
      ("lib", .directory []), ("local", .directory [("bin", .directory []), ("sbin", .directory [])]),
      ("sbin", .directory []), ("share", .directory []),
      ("bin", .directory ((commands.zipIdx firstIdentity).map fun (name, n) =>
        (name, Image.ofCommand n name)))])]

/-- The time at which all begins, in microseconds. -/
def beginning : Int := 1767225600000000

/-- Those who run own the scratch directories and nothing else. -/
def site : Site :=
  { root := base, directory := some scratch, now := beginning, domain := ["tmp"] }

/-- The bindings of an environment, of which the first for a name counts. -/
def bindings (environment : Environment) : List (String × Octets) :=
  environment.bindings.foldr (fun (name, value) known =>
    (Utf8.decodeLossy name, Octets.ofBytes value) :: known.filter (·.1 ≠ Utf8.decodeLossy name)) []

/-- Whether a program may still be found in a later directory after an attempt to load it. -/
def passes {α : Type} : Except Fault α → Bool
  | .error .notFound | .error .notDirectory | .error .permissionDenied => true
  | _ => false

/-- Loads a program. One that is named without a slash is looked up in the search path. -/
def load (site : Site) (environment : List (String × Octets)) (program : Octets)
    (arguments : List Octets) : Except Fault (String × List Octets) :=
  let attempt (path : Octets) := Image.load site Image.maxInterpreters path arguments
  if program.contains '/' || program = [] then attempt program
  else
    let directories := Text.split ':' ((environment.lookup "PATH").getD [])
    let attempts := directories.map fun directory =>
      attempt (if directory = [] then program else inside directory program)
    match attempts.find? (!passes ·) with
    | some result => result
    | none =>
      if attempts.any fun a => a matches .error .permissionDenied then .error .permissionDenied
      else .error .notFound

/-- Starts a program in its directory, beside what still runs. -/
def launcher (rest : Script.Schedule) : Launcher Script.Schedule := fun launch react site => do
  let texts := launch.program.text :: launch.directory.text :: launch.arguments
  if texts.any fun text => text.toList.contains '\x00' then throw .nulCharacter
  let inside ← site.enter launch.directory
  let environment := bindings launch.environment
  let words := (launch.program.text :: launch.arguments).map Octets.ofString
  let (name, words) ← load inside environment (Octets.ofString launch.program.text) words
  return Script.launch react rest inside environment name words

end ScopedCheck.Sandbox
