import ScopedCheck.Checker.Command
import ScopedCheck.FileSystem.Site
import ScopedCheck.Text.Blank

namespace ScopedCheck.Checker

/-- The package whose place decides which installed checker is meant. -/
def anchorPackage : String := "typescript"

/-- The place of a package as seen from a directory. -/
def packageIn (directory : Path) (name : String) : Path :=
  (directory.child "node_modules").join ⟨name⟩

def isPackage (site : Site) (package : Path) : Bool :=
  site.isFile (package.child "package.json")

/-- The nearest installed package of a name, from a directory upwards. -/
def findPackage (site : Site) (name : String) (start : Path) : Option Path :=
  (start.ancestors.map fun directory => packageIn directory name).find? (isPackage site)

/-- The checker that is asked for by the value of a variable, unless that is blank. -/
def requested? (value : Option String) : Option Path := do
  let cs := Text.trim (← value).toList
  if cs = [] then none else some ⟨String.ofList cs⟩

/-- What a variable asks for by its value as the system hands it over, which need not be text. -/
def asked? (value : Option Utf8.Bytes) : Option Path :=
  requested? (value.bind Utf8.decode?)

/-- The checker installed beside the nearest anchor package. -/
def installed? (site : Site) (start : Path) : Option Path := do
  let package ← findPackage site anchorPackage start
  let bin := ((← package.parent?).child ".bin").child programName
  if site.exists? bin then some bin else none

/-- Where programs are looked for that are not asked for by a path. -/
structure SearchPath where
  directories : Option String
  home : Option String
  deriving DecidableEq, Repr

namespace SearchPath

/-- What stands between two directories. -/
def separator : Char := ':'

/-- The home directory of the account, for an environment that names none. -/
def accountHome : String := "/root"

/-- The first name of a path that stands for the home directory. -/
def homeMark : String := "~"

/-- Whether the first name of a path is the mark of the home directory. -/
def isMarked (directory : Path) : Bool :=
  directory.segments.head? = some homeMark

/-- The search path that two variables give by their values as the system hands them over. A directory
that is not text leads nowhere in a tree whose names are all text, and is left out. -/
def ofValues (path home : Option Utf8.Bytes) : SearchPath :=
  let directories := ((path.map (Text.split separator.toUInt8)).getD []).filterMap Utf8.decode?
  let usable :=
    if home.all fun home => (Utf8.decode? home).isSome then directories
    else directories.filter fun d => !isMarked ⟨d⟩
  { directories := if usable = [] then none else some (separator.toString.intercalate usable)
    home := home.bind Utf8.decode? }

/-- The home directory in place of the mark that is all of a directory's first name. -/
def expand (search : SearchPath) (directory : Path) : Path :=
  if isMarked directory then
    let home := match search.home with
      | none | some "" => accountHome
      | some home => home
    (directory.segments.tail.filter fun s => s ≠ "" && s ≠ ".").foldl Path.child ⟨home⟩
  else directory

/-- A directory of the search path; a relative one is taken from the current directory, name by
name, unless it begins with the mark of the home directory even after that was replaced. -/
def absolute? (site : Site) (directory : Path) : Option Path :=
  if directory.isAbsolute || isMarked directory then some directory
  else
    site.directoryPath.toOption.map fun here =>
      (directory.segments.filter fun s => s ≠ "" && s ≠ ".").foldl Path.child here

/-- The first program of that name in the directories of the search path. -/
def find? (search : SearchPath) (site : Site) (name : String) : Option Path := do
  let directories := (Text.split separator (← search.directories).toList).map fun d =>
    search.expand ⟨String.ofList d⟩
  (directories.filterMap fun d => (absolute? site d).map (·.child name)).find? site.isProgram

end SearchPath

def locate (site : Site) (start : Path) (requested : Option Path) (search : SearchPath) :
    Except Failure Path :=
  match requested with
  | some path =>
    let path := start.join path
    if site.exists? path then .ok path else .error (.checkerNotFound path)
  | none =>
    match installed? site start <|> search.find? site programName with
    | some path => .ok path
    | none => .error (.checkerNotFound start)

end ScopedCheck.Checker
