import ScopedCheck.Failure
import ScopedCheck.Text.Utf8

namespace ScopedCheck

/-- Command-line tokens, sorted by what they are for. -/
structure Arguments where
  files : List String := []
  projectOverride : Option String := none
  forwardedFlags : List String := []
  deriving DecidableEq, Repr

namespace Arguments

def checkableExtensions : List String := [".vue", ".ts", ".tsx"]

def isCheckable (token : String) : Bool :=
  checkableExtensions.any fun extension => extension.toList.isSuffixOf token.toList

def isProjectFlag (token : String) : Bool :=
  token = "-p" || token = "--project"

def add (token : String) (arguments : Arguments) : Arguments :=
  if isCheckable token then { arguments with files := token :: arguments.files }
  else { arguments with forwardedFlags := token :: arguments.forwardedFlags }

/-- The first project flag takes the token after it, whatever that is. Later project flags are
flags like any other. -/
def partition : List String → Arguments
  | [] => {}
  | token :: rest =>
    if isProjectFlag token then { rest.tail.foldr add {} with projectOverride := rest.head? }
    else add token (partition rest)

def isEmpty (arguments : Arguments) : Bool :=
  arguments.files.isEmpty

/-- The tokens after the program's name, or the first of them that is not text. -/
def capture (argv : List Utf8.Bytes) : Except Failure (List String) :=
  argv.tail.mapM fun bytes =>
    match Utf8.decode? bytes with
    | some token => .ok token
    | none => .error (.argumentNotText (Utf8.decodeLossy bytes))

end Arguments

end ScopedCheck
