import ScopedCheck.Config.Basic
import ScopedCheck.Guard

namespace ScopedCheck

def Suffix.size : Nat := 10

/-- The random part of a temporary name: ten ASCII letters or digits. -/
structure Suffix where
  chars : List Char
  length_eq : chars.length = Suffix.size
  isAlphanum_of_mem : ∀ c ∈ chars, c.isAlphanum
  deriving DecidableEq

namespace Suffix

def alphabet : List Char :=
  ['0', '1', '2', '3', '4', '5', '6', '7', '8', '9', 'A', 'B', 'C', 'D', 'E', 'F', 'G', 'H', 'I',
   'J', 'K', 'L', 'M', 'N', 'O', 'P', 'Q', 'R', 'S', 'T', 'U', 'V', 'W', 'X', 'Y', 'Z', 'a', 'b',
   'c', 'd', 'e', 'f', 'g', 'h', 'i', 'j', 'k', 'l', 'm', 'n', 'o', 'p', 'q', 'r', 's', 't', 'u',
   'v', 'w', 'x', 'y', 'z']

def letter (n : Nat) : Char :=
  alphabet.getD (n % alphabet.length) '0'

theorem isAlphanum_letter (n : Nat) : (letter n).isAlphanum := by
  have h : ∀ k < alphabet.length, (alphabet.getD k '0').isAlphanum = true := by decide
  exact h _ (Nat.mod_lt n (by decide))

/-- The suffixes in a fixed order, as numbers with the letters for digits. -/
def ofNat (n : Nat) : Suffix where
  chars := (List.range size).map fun i => letter (n / alphabet.length.pow (size - 1 - i))
  length_eq := by simp
  isAlphanum_of_mem := by
    intro c hc
    obtain ⟨i, -, rfl⟩ := List.mem_map.1 hc
    exact isAlphanum_letter _

end Suffix

/-- What may still go wrong with a file that has been created: writing its content, flushing it,
or keeping it beyond the program. -/
structure Trouble where
  writing : Option Fault := none
  flushing : Option Fault := none
  keeping : Option Fault := none
  deriving DecidableEq, Repr

namespace Trouble

def first? (trouble : Trouble) : Option Fault :=
  trouble.writing <|> trouble.flushing <|> trouble.keeping

end Trouble

namespace Config

/-- How many names are tried before giving up. -/
def maxAttempts : Nat := 65536

def stem (config : Config) : String :=
  config.path.stem?.getD "tsconfig"

def temporaryName (config : Config) (suffix : Suffix) : String :=
  config.stem ++ "." ++ String.ofList suffix.chars ++ ".json"

/-- The permissions of a temporary file: nobody else may use it. -/
def temporaryMode : Nat := 0o600

/-- A file that was created and is still open. -/
structure OpenFile where
  path : Path
  identity : Nat
  deriving DecidableEq, Repr

/-- Creates an empty file, unless its name is taken. -/
def createEmpty (site : Site) (path : Path) : Except Fault (OpenFile × Site) :=
  (site.create path [] temporaryMode).map fun created => (⟨path, site.nextIdentity⟩, created)

/-- Creates an empty file under the first of the names that is free. -/
def createFree (site : Site) (directory : Path) (name : Nat → String) :
    (attempts : Nat) → (next : Nat) → Except Fault (OpenFile × Site)
  | 0, _ => .error .alreadyExists
  | attempts + 1, next =>
    match createEmpty site (directory.child (name next)) with
    | .ok created => .ok created
    | .error .alreadyExists => createFree site directory name attempts (next + 1)
    | .error cause => .error cause

/-- A directory as an absolute path. -/
def absolute (site : Site) (directory : Path) : Except Fault Path :=
  if directory.isAbsolute then .ok directory
  else site.directoryPath.map fun here => here.join directory

/-- Creates an empty file in a directory, under a name that is made of the one of the config. -/
def createTemporary (config : Config) (site : Site) (suffixes : Nat → Suffix) (directory : Path) :
    Except Fault (OpenFile × Site) := do
  createFree site (← absolute site directory) (fun n => config.temporaryName (suffixes n))
    maxAttempts 0

/-- Fills a file that was just created, or removes it again. -/
def fill (site : Site) (trouble : Trouble) (file : OpenFile) (content : Utf8.Bytes) :
    Except Fault Unit × Site :=
  match trouble.first? with
  | some cause => (.error cause, (site.remove file.path).toOption.getD site)
  | none => (.ok (), site.writeOpen file.identity content)

/-- Writes members to a new file in a directory and hands out the guard that removes it. -/
def writeTemporary (config : Config) (site : Site) (trouble : Trouble) (suffixes : Nat → Suffix)
    (directory : Path) (members : Json.Members) : Except Failure Guard × Site :=
  match config.createTemporary site suffixes directory with
  | .error cause => (.error (.tempConfigUnwritable directory cause), site)
  | .ok (file, site) =>
    match fill site trouble file (Utf8.encode members.text) with
    | (.error cause, site) => (.error (.tempConfigUnwritable directory cause), site)
    | (.ok (), site) => (.ok (.new file.path), site)

/-- Reads and parses the config at a path. -/
def load (site : Site) (path : Path) : Except Failure Config :=
  match site.readText path with
  | .error cause => .error (.configUnreadable path cause)
  | .ok text => parse path text

end Config

end ScopedCheck
