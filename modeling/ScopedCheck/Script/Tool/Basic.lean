import ScopedCheck.FileSystem.Site
import ScopedCheck.Script.Condition
import ScopedCheck.Script.Device

namespace ScopedCheck

/-- The reason for a refusal in the words of the system. -/
def Fault.reason : Fault → String
  | .notFound => "No such file or directory"
  | .notDirectory => "Not a directory"
  | .isDirectory => "Is a directory"
  | .tooManyLinks => "Too many levels of symbolic links"
  | .nameTooLong => "File name too long"
  | .permissionDenied => "Permission denied"
  | .alreadyExists => "File exists"
  | .nulCharacter | .notText | .other => "Invalid argument"

namespace Script

/-- What a tool sees while it does its work in one step, and what it leaves. -/
structure Session where
  name : String
  site : Site
  environment : List (String × Octets) := []
  input : Octets
  /-- Whether nothing comes after the input. -/
  whole : Bool := true
  /-- Whether more input is needed than there is. -/
  hungry : Bool := false
  /-- Whether a part of the input may be enough. -/
  sips : Bool := false
  /-- How much of the input was taken. -/
  taken : Nat := 0
  /-- The file that the input comes from, with the place in it. -/
  source? : Option (Nat × Nat) := none
  /-- The file that the output goes to. -/
  target? : Option Nat := none
  /-- Whether nobody reads the output. -/
  unread : Bool := false
  /-- What was read from files that are pipes or descriptors, and the one that has to be read now. -/
  pipes : List (Octets × Except Fault Octets) := []
  wanted? : Option Octets := none
  /-- How many bytes of a device there are to read, and whether they were read. -/
  supply : Nat := deviceCount
  drew : Bool := false
  /-- Whether each byte is a character of its own. -/
  isNarrow : Bool := false
  /-- How large a file may become, and whether one was to become larger. -/
  limit? : Option Nat := none
  outgrown : Bool := false
  /-- What is written, with the descriptor, last first. -/
  written : List (Nat × Octets) := []
  status : Nat := 0

/-- The tools for which it matters which bytes make one character. -/
def Tool.byCharacter : List String := ["sed", "grep", "egrep", "fgrep", "wc", "expr", "rev"]

abbrev Tool := StateM Session

namespace Tool

def site : Tool Site := return (← get).site

def setSite (site : Site) : Tool Unit := modify fun s => { s with site := site }

def setStatus (status : Nat) : Tool Unit := modify fun s => { s with status := status }

def write (descriptor : Nat) (text : Octets) : Tool Unit :=
  modify fun s => { s with written := (descriptor, text) :: s.written }

def print (text : Octets) : Tool Unit := write 1 text

def printLine (text : Octets) : Tool Unit := write 1 (text ++ ['\n'])

/-- Tells what went wrong and goes on. -/
def complainWith (status : Nat) (message : String) : Tool Unit := do
  write 2 (Octets.ofString ((← get).name ++ ": " ++ message ++ "\n"))
  setStatus status

def complain (message : String) : Tool Unit := complainWith 1 message

/-- Complains about the way in which the tool is used. -/
def misuse (status : Nat) (message : String) : Tool Unit := do
  let name := (← get).name
  complainWith status (message ++ "\nTry '" ++ name ++ " --help' for more information.")

/-- The characters that mean themselves within any quotes. -/
def isPlain (c : Char) : Bool :=
  c.isAlphanum || " '%+,-./:@]_".toList.contains c

/-- Whether a character is shown by an escape: no printer can show it. -/
def isHidden (c : Char) : Bool := c.toNat < 32 || c.toNat = 127 || Octets.isLone c

def escapeOf (c : Char) : Octets :=
  let named : List (Char × Char) :=
    [('\x07', 'a'), ('\x08', 'b'), ('\x0c', 'f'), ('\n', 'n'), ('\r', 'r'), ('\t', 't'),
     ('\x0b', 'v')]
  match named.lookup c with
  | some d => ['\\', d]
  | none =>
    let digits := Nat.toDigits 8 (c.toNat % 256)
    '\\' :: List.replicate (3 - digits.length) '0' ++ digits

/-- The inside of a name in quotes; what cannot be shown stands between quotes of its own. -/
def quotedBody : (hidden : Bool) → Octets → Octets
  | hidden, [] => if hidden then ['\'', '\''] else []
  | hidden, c :: rest =>
    if isHidden c then
      (if hidden then [] else "'$'".toList) ++ escapeOf c ++ quotedBody true rest
    else
      (if hidden then "''".toList else []) ++
        (if c = '\'' then "'\\''".toList else [c]) ++ quotedBody false rest

/-- A name as a shell reads it back, in quotes. -/
def quoted (text : Octets) : String :=
  if text.contains '\'' && text.all isPlain then "\"" ++ Octets.text text ++ "\""
  else Octets.text ('\'' :: quotedBody false text ++ ['\''])

/-- A name as a shell reads it back, in quotes if it needs them. -/
def named (text : Octets) : String :=
  let isBare (c : Char) : Bool := (isPlain c && c ≠ ' ' && c ≠ '\'') || (128 ≤ c.toNat && !Octets.isLone c) || c = '#' || c = '~'
  let lone := text = ['\x7b'] || text = ['\x7d']
  let opens := text.head? = some '#' || text.head? = some '~'
  if text ≠ [] && !opens && !lone && text.all fun c => isBare c || c = '\x7b' || c = '\x7d' then
    Octets.text text
  else quoted text

/-- A text between marks of quotation. -/
def cited (text : Octets) : String := "‘" ++ Octets.text text ++ "’"

def path (text : Octets) : Path := ⟨Octets.text text⟩

/-- Takes so much of the input. -/
def take (count : Nat) : Tool Unit :=
  modify fun s => { s with taken := s.taken + count, input := s.input.drop count }

/-- All that is left of the input. -/
def input : Tool Octets := do
  let s ← get
  take s.input.length
  if !s.whole then modify fun s => { s with hungry := true }
  return s.input

/-- The input up to where it is enough. From a file exactly that much is taken, from elsewhere whole
blocks. -/
def inputPart (block : Nat) (enough : Octets → Option Nat) : Tool Octets := do
  let s ← get
  match enough s.input with
  | none =>
    modify fun s => { s with sips := true }
    input
  | some count =>
    let blocks := (count + block - 1) / block * block
    take (if s.source?.isSome then count else min blocks s.input.length)
    return s.input.take count

/-- Whether an operand stands for the input whatever files there are. -/
def namesInput (operand : Octets) : Bool :=
  ["/dev/stdin", "/dev/fd/0", "/proc/self/fd/0"].contains (Octets.text operand)

def isInput (operand : Octets) : Bool :=
  operand = ['-'] || namesInput operand

/-- Asks for what only others can deliver. -/
def demand (operand : Octets) : Tool (Except Fault Octets) := do
  let s ← get
  match s.pipes.lookup operand with
  | some found => return found
  | none =>
    set { s with wanted? := s.wanted? <|> some operand }
    return .ok []

/-- The content of a file. That of a pipe or of a descriptor is asked for, and of a device there is as
much as one likes. -/
def readPath (operand : Octets) : Tool (Except Fault Octets) := do
  if namesInput operand then return .ok (← input)
  else if ["/dev/fd/", "/proc/self/fd/"].any (·.toList.isPrefixOf operand) then demand operand
  else
    let s ← get
    match s.site.find true (path operand) with
    | .error cause => return .error cause
    | .ok (place, node) =>
      if !s.site.allows .read place then return .error .permissionDenied
      else match node with
        | .file content attributes =>
          if attributes.kind = .pipe then demand operand
          else if attributes.kind.isEndless then
            set { s with drew := true }
            return .ok (deviceBytes attributes.kind s.supply)
          else
            let text := Octets.ofBytes content
            return .ok (if s.isNarrow then text.map Octets.lone else text)
        | _ => return .error .isDirectory

/-- The content that an operand names. -/
def read (operand : Octets) : Tool (Except Fault Octets) := do
  if isInput operand then return .ok (← input) else readPath operand

/-- The contents of the operands that can be read; the others are complained about. Without any
operand the input is read. -/
def contents (status : Nat) (operands : List Octets) : Tool (List (Octets × Octets)) := do
  let operands := if operands = [] then [['-']] else operands
  let mut found := #[]
  for operand in operands do
    match ← read operand with
    | .ok content => found := found.push (operand, content)
    | .error cause => complainWith status (named operand ++ ": " ++ cause.reason)
  return found.toList

/-- Reads the operands one after the other, or the input without any, and uses each content; what
cannot be read is complained about in its turn. -/
def forContents (status : Nat) (operands : List Octets) (use : Octets → Octets → Tool Unit) :
    Tool Unit := do
  for operand in (if operands = [] then [['-']] else operands) do
    match ← read operand with
    | .ok content => use operand content
    | .error cause => complainWith status (named operand ++ ": " ++ cause.reason)

/-- So much of a content as a file may hold. It is the last that is written if that is not all. -/
def fitting (content : Utf8.Bytes) : Tool Utf8.Bytes := do
  match (← get).limit? with
  | some limit =>
    if content.length ≤ limit then return content
    modify fun s => { s with outgrown := true }
    return content.take limit
  | none => return content

/-- Writes a file, which keeps its mode if it was there. -/
def writeFile (target : Path) (content : Utf8.Bytes) (mode : Option Nat) : Tool (Except Fault Unit) := do
  if (← get).outgrown then return .ok ()
  match (← site).write target (← fitting content) mode with
  | .ok site =>
    setSite site
    return .ok ()
  | .error cause => return .error cause

/-- The last name in a path, without slashes after it. -/
def lastName (text : Octets) : Octets :=
  let bare := (text.reverse.dropWhile (· = '/')).reverse
  if bare = [] then (if text = [] then [] else ['/'])
  else (bare.reverse.takeWhile (· ≠ '/')).reverse

def withoutSlashes (text : Octets) : Octets :=
  let bare := (text.reverse.dropWhile (· = '/')).reverse
  if bare = [] then text.take 1 else bare

/-- The letters that were given with their values, what else was given, and what is wrong. -/
structure Options where
  given : List (Char × Octets) := []
  operands : List Octets := []
  fault? : Option String := none

namespace Options

def has (o : Options) (letter : Char) : Bool := o.given.any (·.1 = letter)

/-- The last value of an option. -/
def value? (o : Options) (letter : Char) : Option Octets :=
  (o.given.reverse.find? (·.1 = letter)).map Prod.snd

def values (o : Options) (letter : Char) : List Octets :=
  o.given.filterMap fun pair => if pair.1 = letter then some pair.2 else none

/-- The last of some letters that was given. -/
def last? (o : Options) (letters : String) : Option Char :=
  (o.given.reverse.find? fun pair => letters.toList.contains pair.1).map Prod.fst

def add (o : Options) (letter : Char) (value : Octets) : Options :=
  { o with given := o.given ++ [(letter, value)] }

/-- Which letters there are, which take a value, which may take one, which long names stand for which
letters, and whether options may follow operands. -/
structure Grammar where
  letters : String
  valued : String := ""
  optional : String := ""
  long : List (String × Char) := []
  anywhere : Bool := true

/-- Reads the letters of one argument. -/
def readLetters (g : Grammar) : Octets → List Octets → Options → Options × List Octets
  | [], rest, o => (o, rest)
  | c :: cs, rest, o =>
    if g.valued.toList.contains c then
      match cs, rest with
      | [], value :: rest => (o.add c value, rest)
      | [], [] => ({ o with fault? := some ("option requires an argument -- '" ++ String.singleton c ++ "'") }, [])
      | _, _ => (o.add c cs, rest)
    else if g.letters.toList.contains c then
      if g.optional.toList.contains c then (o.add c cs, rest) else readLetters g cs rest (o.add c [])
    else ({ o with fault? := some ("invalid option -- '" ++ Octets.text [c] ++ "'") }, rest)

/-- Reads an option with a long name, which may be cut short. -/
def readLong (g : Grammar) (text : Octets) (rest : List Octets) (o : Options) :
    Options × List Octets :=
  let name := text.takeWhile (· ≠ '=')
  let value := (text.drop name.length).drop 1
  let whole := g.long.filter fun pair => pair.1.toList = name
  let found := if whole ≠ [] then whole else g.long.filter fun pair => name.isPrefixOf pair.1.toList
  let fail (message : String) : Options × List Octets := ({ o with fault? := some message }, [])
  match found with
  | [] => fail ("unrecognized option '--" ++ Octets.text name ++ "'")
  | (shown, c) :: others =>
    if others.any fun pair => pair.2 ≠ c then
      fail ("option '--" ++ Octets.text text ++ "' is ambiguous; possibilities:" ++
        String.join (found.map fun pair => " '--" ++ pair.1 ++ "'"))
    else if g.valued.toList.contains c then
      if text.length > name.length then (o.add c value, rest)
      else match rest with
        | v :: rest => (o.add c v, rest)
        | [] => fail ("option '--" ++ shown ++ "' requires an argument")
    else if text.length > name.length && !g.optional.toList.contains c then
      fail ("option '--" ++ shown ++ "' doesn't allow an argument")
    else (o.add c value, rest)

def readAll (g : Grammar) : (steps : Nat) → List Octets → Options → Options
  | 0, _, o => o
  | _, [], o => o
  | steps + 1, argument :: rest, o =>
    if o.fault?.isSome then o
    else match argument with
      | ['-', '-'] => { o with operands := o.operands ++ rest }
      | '-' :: '-' :: name =>
        let (o, rest) := readLong g name rest o
        readAll g steps rest o
      | '-' :: c :: cs =>
        let (o, rest) := readLetters g (c :: cs) rest o
        readAll g steps rest o
      | _ =>
        if g.anywhere then readAll g steps rest { o with operands := o.operands ++ [argument] }
        else { o with operands := o.operands ++ argument :: rest }

def read (g : Grammar) (arguments : List Octets) : Options :=
  readAll g (arguments.length + 1) arguments {}

end Options

/-- Runs a tool with the options that it knows. -/
def withOptions (g : Options.Grammar) (misuseStatus : Nat) (arguments : List Octets)
    (run : Options → Tool Unit) : Tool Unit :=
  let o := Options.read g arguments
  match o.fault? with
  | some fault => misuse misuseStatus fault
  | none => run o

end Tool

end Script

end ScopedCheck
