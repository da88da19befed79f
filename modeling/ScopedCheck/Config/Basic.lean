import ScopedCheck.Failure
import ScopedCheck.Config.Lenient
import ScopedCheck.Json.Reader
import ScopedCheck.Json.Printer

namespace ScopedCheck

structure Config where
  path : Path
  members : Json.Members

namespace Config

def defaultName : Path := ⟨"tsconfig.json"⟩

/-- The config that is asked for, or else the default one, as seen from a directory. -/
def resolvePath (directory : Path) (projectOverride : Option String) : Path :=
  directory.join ((projectOverride.map Path.mk).getD defaultName)

def byteOrderMark : Char := Char.ofNat 0xFEFF

/-- The strict text behind a lenient one that may begin with byte order marks. -/
def strictText (text : String) : List Char :=
  Lenient.strip (text.toList.dropWhile (· = byteOrderMark))

def parse (path : Path) (text : String) : Except Failure Config :=
  let cs := strictText text
  match Json.parse cs with
  | .error refusal => .error (.configMalformed path (refusal.message cs))
  | .ok (.object members) => .ok ⟨path, members⟩
  | .ok value =>
    .error (.configMalformed path ("expected an object at the top level, found " ++ value.kind))

/-- The compiler options of a config, if it has an object of that name. -/
def compilerOptions (members : Json.Members) : Json.Members :=
  match Json.Members.get? "compilerOptions" members with
  | some (.object options) => options
  | _ => []

/-- The members for checking exactly these files: declarations of libraries are not checked, the
files are listed, and nothing is included beside them. -/
def deriveMembers (members : Json.Members) (files : List String) : Json.Members :=
  let options := Json.Members.insert "skipLibCheck" (.bool true) (compilerOptions members)
  Json.Members.insert "include" (.array [])
    (Json.Members.insert "files" (.array (files.map .string))
      (Json.Members.insert "compilerOptions" (.object options) members))

def derive (config : Config) (targets : List String) (declarations : List Path) : Json.Members :=
  deriveMembers config.members (targets ++ declarations.map Path.text)

end Config

end ScopedCheck
