import ScopedCheck.FileSystem.Site
import ScopedCheck.Script.Octets

namespace ScopedCheck.Script.Image

/-- The header that the content of a command begins with. -/
def commandMark : Utf8.Bytes :=
  [0x7F, 0x45, 0x4C, 0x46, 2, 1, 1, 0, 0, 0, 0, 0, 0, 0, 0, 0, 3, 0, 62, 0, 1, 0, 0, 0] ++
    List.replicate 104 0

/-- The file of a command. -/
def ofCommand (identity : Nat) (name : String) : Node :=
  .file (commandMark ++ Utf8.encode name) { mode := 0o755, identity := identity }

/-- The name of the command that a content stands for. -/
def command? (content : Utf8.Bytes) : Option String :=
  if commandMark.isPrefixOf content then Utf8.decode? (content.drop commandMark.length) else none

def isBlank (c : Char) : Bool := c = ' ' || c = '\t'

def endsName (c : Char) : Bool := isBlank c || c = '\x00'

/-- How much of a file is looked at for an interpreter. -/
def headSize : Nat := 256

/-- The first line of a script as far as it is looked at. A line that is cut off counts if the name
of the interpreter is whole. -/
def firstLine? (head : Octets) : Option Octets :=
  let line := head.takeWhile (· ≠ '\n')
  if line.length < head.length then some line
  else
    let name := (head.drop 2).dropWhile isBlank
    if name = [] || !name.any endsName then none else some (head.take (headSize - 1))

/-- The interpreter that a script asks for in its first line, and the argument for it. Both end at a
NUL, and after the end of a short file there is nothing else. -/
def interpreter? (text : Octets) : Option (Octets × Option Octets) :=
  if !"#!".toList.isPrefixOf text then none
  else do
    let head := text.take headSize
    let line ← firstLine? (head ++ List.replicate (headSize - head.length) '\x00')
    let line := (line.reverse.dropWhile isBlank).reverse
    let rest := (line.drop 2).dropWhile isBlank
    if rest = [] then none
    else
      let path := rest.takeWhile (!endsName ·)
      let argument := match rest.drop path.length with
        | [] | '\x00' :: _ => none
        | after => some ((after.dropWhile isBlank).takeWhile (· ≠ '\x00'))
      some (path, argument)

/-- Whether a file without an interpreter is taken for the text of a script: its first line, as far
as it is looked at, has no character that cannot be printed. -/
def isText (text : Octets) : Bool :=
  ((text.take 128).takeWhile (· ≠ '\n')).all fun c =>
    Octets.isSpace c || (32 ≤ c.toNat && c.toNat ≠ 127)

def maxInterpreters : Nat := 4

/-- The command that a file is run by in the end, with all arguments. The first of them is the name
under which a program is started; an interpreter gets the path of its script after its own argument,
in place of that name. -/
def load (site : Site) : (interpreters : Nat) → Octets → List Octets →
    Except Fault (String × List Octets)
  | interpreters, path, arguments => do
    match ← site.node ⟨Octets.text path⟩ with
    | .directory .. | .link _ => throw .permissionDenied
    | .file content _ =>
      if !site.permits .enter ⟨Octets.text path⟩ then throw .permissionDenied
      match command? content with
      | some name => return (name, arguments)
      | none =>
        match interpreter? (Octets.ofBytes content) with
        | none => throw .other
        | some ([], _) => throw .permissionDenied
        | some (interpreter, argument) =>
          match interpreters with
          | 0 => throw .tooManyLinks
          | interpreters + 1 =>
            load site interpreters interpreter
              (interpreter :: (argument.toList ++ path :: arguments.tail))

end ScopedCheck.Script.Image
