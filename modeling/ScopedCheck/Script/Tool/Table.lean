import ScopedCheck.Script.Format
import ScopedCheck.Script.Tool.Blocks
import ScopedCheck.Script.Tool.Characters
import ScopedCheck.Script.Tool.Checksums
import ScopedCheck.Script.Tool.Columns
import ScopedCheck.Script.Tool.Compare
import ScopedCheck.Script.Tool.Conditions
import ScopedCheck.Script.Tool.Counting
import ScopedCheck.Script.Tool.Difference
import ScopedCheck.Script.Tool.Dump
import ScopedCheck.Script.Tool.Edit
import ScopedCheck.Script.Tool.Encoding
import ScopedCheck.Script.Tool.Expr
import ScopedCheck.Script.Tool.Files
import ScopedCheck.Script.Tool.Filters
import ScopedCheck.Script.Tool.Merging
import ScopedCheck.Script.Tool.Numbering
import ScopedCheck.Script.Tool.Search
import ScopedCheck.Script.Tool.Sort

namespace ScopedCheck.Script.Tool

def printFormat (arguments : List Octets) : Tool Unit := do
  match arguments with
  | [] => misuse 1 "missing operand"
  | template :: rest =>
    let result := Format.run template rest
    for complaint in result.complaints do complain complaint
    print result.output
    if let some message := result.error? then complain message

/-- Writes the arguments; escapes mean something only where that is asked for. -/
def echo (arguments : List Octets) : Tool Unit := do
  let isOption (a : Octets) : Bool :=
    a.head? = some '-' && a.length > 1 && a.tail.all fun c => "neE".toList.contains c
  let options := (arguments.takeWhile isOption).flatten
  let words := arguments.dropWhile isOption
  let text := [' '].intercalate words
  let (text, ends) := if options.contains 'e' then Format.unescape (text.length + 1) text else (text, false)
  print (text ++ if ends || options.contains 'n' then [] else ['\n'])

def printEnvironment (arguments : List Octets) : Tool Unit := do
  let environment := (← get).environment
  match arguments with
  | [] => for (name, value) in environment do printLine (Octets.ofString name ++ '=' :: value)
  | names =>
    for name in names do
      match environment.lookup (Octets.text name) with
      | some value => printLine value
      | none => setStatus 1

/-- The first name of a pattern that is free: so many letters in the place of its last marks. -/
def freeName (site : Site) (stem : Octets) (width : Nat) (suffix : Octets) : Octets :=
  let name (n : Nat) : Octets :=
    let digits := Nat.toDigits 36 n
    stem ++ List.replicate (width - digits.length) 'a' ++ digits ++ suffix
  (((List.range 1000).map name).find? fun p => !site.occupied (path p)).getD (name 0)

/-- The parts of a template: before its last marks, how many there are, and after them. -/
def templateParts (template : Octets) : Octets × Nat × Octets :=
  let suffix := (template.reverse.takeWhile (· ≠ 'X')).reverse
  let rest := template.take (template.length - suffix.length)
  let stem := (rest.reverse.dropWhile (· = 'X')).reverse
  (stem, rest.length - stem.length, suffix)

def makeTemporary (arguments : List Octets) : Tool Unit :=
  withOptions
    { letters := "dqutP", valued := "ps", optional := "P"
      long := [("directory", 'd'), ("tmpdir", 'P'), ("dry-run", 'u'), ("quiet", 'q'), ("suffix", 's')] }
    1 arguments fun o => do
      let environment := (← get).environment
      let usual := match environment.lookup "TMPDIR" with
        | some (c :: cs) => c :: cs
        | _ => "/tmp".toList
      let directory : Option Octets := match o.value? 'p' <|> o.value? 'P' with
        | some [] => some usual
        | some d => some d
        | none => if o.has 't' || o.operands = [] then some usual else none
      match o.operands with
      | _ :: _ :: _ => misuse 1 "too many templates"
      | operands =>
        let template := operands.headD "tmp.XXXXXXXXXX".toList
        let (stem, width, suffix) := templateParts template
        let suffix := suffix ++ (o.value? 's').getD []
        if width < 3 then complain ("too few X's in template " ++ cited template)
        else if suffix.contains '/' then
          complain ("invalid suffix " ++ cited suffix ++ ", contains directory separator")
        else if directory.isSome && template.head? = some '/' then
          complain ("invalid template, " ++ cited template ++
            "; with --tmpdir, it may not be absolute")
        else
          let stem := match directory with
            | some d => inside d stem
            | none => stem
          let site ← site
          let name := freeName site stem width suffix
          let node := if o.has 'd' then .directory [] (site.permitted 0o700) else site.newFile [] (site.permitted 0o600)
          match site.addNode (path name) node with
          | .ok made =>
            if !o.has 'u' then setSite made
            printLine name
          | .error cause =>
            if o.has 'q' then setStatus 1
            else complain ("failed to create " ++ (if o.has 'd' then "directory" else "file") ++
              " via template " ++ cited (stem ++ List.replicate width 'X' ++ suffix) ++ ": " ++
              cause.reason)

def identify (arguments : List Octets) : Tool Unit :=
  withOptions
    { letters := "ugnrGz"
      long := [("user", 'u'), ("group", 'g'), ("groups", 'G'), ("name", 'n'), ("real", 'r')] }
    1 arguments fun o => do
      for user in o.operands do complain (cited user ++ ": no such user")
      if o.operands ≠ [] then return
      if o.has 'u' || o.has 'g' || o.has 'G' then
        printLine (if o.has 'n' then "root".toList else ['0'])
      else if o.has 'n' || o.has 'r' then
        complain "cannot print only names or real IDs in default format"
      else printLine "uid=0(root) gid=0(root) groups=0(root)".toList

/-- Tells who runs the tool; it takes no operands. -/
def nameUser (arguments : List Octets) : Tool Unit :=
  withOptions { letters := "" } 1 arguments fun o => do
    match o.operands with
    | extra :: _ => misuse 1 ("extra operand " ++ cited extra)
    | [] => printLine "root".toList

/-- Tells what the system is, in a fixed order of the parts. -/
def nameSystem (arguments : List Octets) : Tool Unit :=
  withOptions
    { letters := "asnrvmpio"
      long := [("all", 'a'), ("kernel-name", 's'), ("nodename", 'n'), ("kernel-release", 'r'),
        ("kernel-version", 'v'), ("machine", 'm'), ("processor", 'p'), ("hardware-platform", 'i'),
        ("operating-system", 'o')] }
    1 arguments fun o => do
      let parts : List (Char × String) :=
        [('s', "Linux"), ('n', "localhost"), ('r', "6.0.0"), ('v', "#1 SMP"), ('m', "x86_64"),
         ('p', "x86_64"), ('i', "x86_64"), ('o', "GNU/Linux")]
      match o.operands with
      | extra :: _ => misuse 1 ("extra operand " ++ cited extra)
      | [] =>
        let chosen := parts.filter fun (letter, _) =>
          o.has 'a' || o.has letter || (o.given = [] && letter = 's')
        printLine (" ".intercalate (chosen.map Prod.snd)).toList

/-- The tools that do their work in one step. -/
def all : List (String × (List Octets → Tool Unit)) :=
  [("[", Conditions.test true), ("base32", Encoding.run .of32), ("base64", Encoding.run .of64), ("basename", baseName), ("cat", concatenate), ("b2sum", digest .blake2),
   ("chmod", changeMode), ("cksum", cyclicOrOther), ("cmp", Compare.run), ("comm", Merging.common), ("cp", copy), ("cut", cut), ("date", date), ("dd", Blocks.run),
   ("diff", Difference.run), ("dirname", directoryNames), ("echo", echo),
   ("egrep", fun a => Search.run ("-E".toList :: a)), ("expr", Expr.run),
   ("false", fun _ => setStatus 1), ("fgrep", fun a => Search.run ("-F".toList :: a)),
   ("expand", expandTabs), ("fold", foldLines),
   ("grep", Search.run), ("head", head), ("hostname", fun _ => printLine "localhost".toList),
   ("id", identify), ("install", install), ("join", Merging.joinFiles), ("link", addName), ("ln", link), ("ls", list),
   ("md5sum", digest .md5), ("mkdir", makeDirectories), ("mkfifo", makePipes), ("mktemp", makeTemporary), ("mv", move),
   ("nl", Numbering.run), ("od", Dump.run), ("paste", paste), ("printenv", printEnvironment),
   ("printf", printFormat), ("pwd", printDirectory), ("readlink", readLink),
   ("realpath", realPath), ("rev", reverseCharacters), ("rm", remove),
   ("rmdir", removeDirectories), ("sed", Edit.edit), ("sha1sum", digest .sha1), ("sha224sum", digest .sha224),
   ("sha256sum", digest .sha256), ("sha384sum", digest .sha384), ("sha512sum", digest .sha512),
   ("sort", Sort.run), ("split", Pieces.run), ("sum", blockSums),
   ("stat", status), ("sync", fun _ => return), ("tac", reverseLines), ("tail", tail),
   ("test", Conditions.test false), ("touch", touch), ("tr", translate), ("true", fun _ => return),
   ("truncate", truncate), ("uname", nameSystem), ("unexpand", unexpandTabs),
   ("uniq", unique),
   ("unlink", removeName), ("wc", count), ("which", locate),
   ("whoami", nameUser)]

/-- Whether a tool writes about the lines of its input one after the other. A search that counts, or
that names what has no match, waits for the end. -/
def streams (name : String) (arguments : List Octets) : Bool :=
  if ["grep", "egrep", "fgrep"].contains name then
    let o := Options.read Search.grammar arguments
    !(o.has 'c' || o.has 'L')
  else
    ["cat", "cut", "expand", "fold", "nl", "paste", "rev", "sed", "tr", "unexpand", "uniq"].contains name

/-- What a tool of this name does. -/
def work? (name : String) (arguments : List Octets) : Option (Tool Unit) :=
  (all.lookup name).map fun run => run arguments

end ScopedCheck.Script.Tool
