import ScopedCheck.Script.Tool.Items
import ScopedCheck.Script.Tool.Listing
import ScopedCheck.Script.Tool.Regex

namespace ScopedCheck.Script.Find

open Script.Action
open Passing (complain)
open Starting (Fate leave launch)

/-- A file that was found: how it is shown, where the search started, how deep it is. -/
structure Finding where
  shown : Octets
  start : Octets
  depth : Nat
  node : Node

inductive Expression where
  | always (value : Bool)
  | test (holds : Site → Finding → Bool)
  /-- Writes about a file, to the output or to a file. -/
  | tell (file : Option Octets) (text : Site → Finding → Octets)
  | run (words : List Octets) (fromWithin : Bool)
  /-- Gathers files for one command at the end. -/
  | gather (number : Nat) (words : List Octets) (fromWithin : Bool)
  | delete
  | prune
  | quit
  | negate (e : Expression)
  | both (first second : Expression)
  | either (first second : Expression)
  /-- The value is that of the second. -/
  | next (first second : Expression)

namespace Expression

/-- Whether the expression does something about a file, so that it need not be shown. -/
def acts : Expression → Bool
  | tell .. | run .. | gather .. | delete => true
  | negate e => e.acts
  | both first second | either first second | next first second => first.acts || second.acts
  | _ => false

/-- The files that the expression writes to. -/
def files : Expression → List Octets
  | tell (some file) _ => [file]
  | negate e => e.files
  | both first second | either first second | next first second => first.files ++ second.files
  | _ => []

end Expression

/-- Which links are followed. -/
inductive Following where
  | never
  | atStart
  | always
  deriving DecidableEq

structure Settings where
  least : Nat := 0
  most : Option Nat := none
  depthFirst : Bool := false
  deletes : Bool := false
  prunes : Bool := false
  following : Following := .never
  style : Regex.Style := { bareRepeats := true }
  /-- How many gathering actions there are. -/
  gathering : Nat := 0

/-- More than, less than, or exactly a number. -/
def compared? (text : Octets) : Option (Int → Bool) :=
  match text with
  | '+' :: rest => (Octets.int? false rest).map fun n => fun m => decide (n < m)
  | '-' :: rest => (Octets.int? false rest).map fun n => fun m => decide (m < n)
  | _ => (Octets.int? false text).map fun n => fun m => decide (m = n)

/-- A test of sizes, rounded up to whole units. -/
def sized? (text : Octets) : Option (Nat → Bool) :=
  let units : List (Char × Nat) :=
    [('c', 1), ('w', 2), ('b', 512), ('k', 1024), ('M', 1048576), ('G', 1073741824)]
  let (number, unit) := match text.getLast?.bind fun c => units.lookup c with
    | some unit => (text.dropLast, unit)
    | none => (text, 512)
  (compared? number).map fun test => fun size => test ((size + unit - 1) / unit)

/-- A test of permissions: all of some, any of some, or exactly these. -/
def hasMode? (text : Octets) : Option (Node → Bool) :=
  let test (text : Octets) (holds : Nat → Nat → Bool) : Option (Node → Bool) :=
    (Tool.Permissions.changes? text).map fun changes => fun node =>
      holds (Tool.Permissions.changed node.isDirectory 0 changes 0) node.mode
  match text with
  | '-' :: rest => test rest fun bits mode => Nat.land mode bits = bits
  | '/' :: rest => test rest fun bits mode => bits = 0 || Nat.land mode bits ≠ 0
  | _ => test text fun bits mode => mode = bits

/-- A test of how long ago a file was changed, in units of so many seconds. -/
def aged? (unit : Int) (text : Octets) : Option (Site → Finding → Bool) :=
  (compared? text).map fun test => fun site f =>
    test ((site.now - Tool.modifiedOf f.node).fdiv (unit * Tool.Calendar.second))

/-- The letter for the kind of a node. -/
def kindOf (node : Node) : Char :=
  match Tool.kindLetter node with
  | '-' => 'f'
  | c => c

/-- The path of a file without the one where the search started. -/
def belowStart (f : Finding) : Octets :=
  (f.shown.drop f.start.length).dropWhile (· = '/')

def parentOf (shown : Octets) : Octets :=
  let bare := (shown.reverse.dropWhile (· = '/')).reverse
  if !bare.contains '/' then ['.']
  else ((bare.reverse.dropWhile (· ≠ '/')).drop 1).reverse

/-- A fact about a file, by the letter of a directive. -/
def factOf (site : Site) (f : Finding) (c : Char) : Option Octets :=
  let moment := Tool.modifiedOf f.node
  match c with
  | 'p' => some f.shown
  | 'f' => some (Tool.lastName f.shown)
  | 'h' => some (parentOf f.shown)
  | 'H' => some f.start
  | 'P' => some (belowStart f)
  | 's' => some (Octets.ofNat (Tool.sizeOf f.node))
  | 'd' => some (Octets.ofNat f.depth)
  | 'm' => some (Tool.Permissions.digits 1 f.node.mode)
  | 'M' => some (Tool.modeLetters f.node)
  | 'y' => some [kindOf f.node]
  | 'Y' => some (match site.node (Tool.path f.shown) with
      | .ok node => [kindOf node]
      | .error .tooManyLinks => ['L']
      | .error _ => ['N'])
  | 'l' => some (match f.node with
      | .link target => Octets.ofString target.text
      | _ => [])
  | 'n' => some (Octets.ofNat (Tool.linkCount site f.node))
  | 'u' | 'g' => some "root".toList
  | 'U' | 'G' => some ['0']
  | 'i' => some (match f.node with
      | .file _ a => Octets.ofNat a.identity
      | _ => ['1'])
  | 'b' => some (Octets.ofNat (Tool.blocksOf f.node))
  | 'k' => some (Octets.ofNat (Tool.blocksOf f.node / 2))
  | 't' | 'a' | 'c' => some (Tool.formatDate moment 60 "%a %b %e %H:%M:%S.%N0 %Y".toList)
  | _ => none

/-- A part of a moment, as a directive of two letters asks for it. -/
def momentOf (moment : Int) (c : Char) : Octets :=
  if c = '@' then Tool.formatDate moment 20 "%s.%N0".toList
  else if c = '+' then Tool.formatDate moment 40 "%F+%T.%N0".toList
  else if c = 'S' then Tool.formatDate moment 20 "%S.%N0".toList
  else if c = 'T' || c = 'X' then Tool.formatDate moment 20 "%T.%N0".toList
  else Tool.formatDate moment 3 ['%', c]

/-- Fills in a format. -/
def formatted (site : Site) (f : Finding) : (steps : Nat) → Octets → Octets
  | 0, _ => []
  | _, [] => []
  | _, '\\' :: 'c' :: _ => []
  | steps + 1, '\\' :: c :: rest =>
    match Format.escape? (c :: rest) with
    | some (d, rest) => d :: formatted site f steps rest
    | none => '\\' :: c :: formatted site f steps rest
  | steps + 1, '%' :: rest =>
    let flags := rest.takeWhile fun c => "-0 +#".toList.contains c
    let after := rest.drop flags.length
    let digits := after.takeWhile Char.isDigit
    let after := after.drop digits.length
    let (precision, after) := match after with
      | '.' :: more =>
        let digits := more.takeWhile Char.isDigit
        (some (Octets.natOf 10 digits), more.drop digits.length)
      | _ => (none, after)
    let set (text : Octets) : Octets := Tool.setFact flags (Octets.natOf 10 digits) precision text
    match after with
    | '%' :: more => '%' :: formatted site f steps more
    | c :: d :: more =>
      if c = 'T' || c = 'A' || c = 'C' then
        set (momentOf (Tool.modifiedOf f.node) d) ++ formatted site f steps more
      else match factOf site f c with
        | some text => set text ++ formatted site f steps (d :: more)
        | none => '%' :: c :: formatted site f steps (d :: more)
    | [c] => match factOf site f c with
      | some text => set text
      | none => ['%', c]
    | [] => ['%']
  | steps + 1, c :: rest => c :: formatted site f steps rest

structure Source where
  words : List Octets
  settings : Settings := {}
  /-- The moments and the files that tests compare with. -/
  site : Site

abbrev Reading := StateT Source (Except String)

def change (f : Settings → Settings) : Reading Unit :=
  modify fun s => { s with settings := f s.settings }

/-- The argument of a predicate. -/
def argument (predicate : Octets) : Reading Octets := do
  match (← get).words with
  | w :: rest =>
    modify fun s => { s with words := rest }
    return w
  | [] => throw ("missing argument to \x60" ++ Octets.text predicate ++ "'")

def invalid {α : Type} (predicate value : Octets) : Reading α :=
  throw ("invalid argument \x60" ++ Octets.text value ++ "' to \x60" ++ Octets.text predicate ++ "'")

def test (holds : Site → Finding → Bool) : Reading Expression := return .test holds

def baseOf (f : Finding) : Octets :=
  let bare := Tool.withoutSlashes f.shown
  Tool.lastName bare

/-- The words of a command up to the mark of their end, and whether it gets many files at once. -/
def commandWords (predicate : Octets) : (before : List Octets) → List Octets →
    Except String (List Octets × Bool × List Octets)
  | _, [] => .error ("missing argument to \x60" ++ Octets.text predicate ++ "'")
  | before, w :: rest =>
    if w = [';'] then .ok (before.reverse, false, rest)
    else if w = ['+'] && before.head? = some ['\x7b', '\x7d'] then .ok (before.reverse.dropLast, true, rest)
    else commandWords predicate (w :: before) rest

def styleNamed? (name : Octets) : Option Regex.Style :=
  match Octets.text name with
  | "emacs" | "findutils-default" => some { bareRepeats := true }
  | "posix-extended" | "egrep" | "posix-egrep" | "awk" | "gnu-awk" | "posix-awk" => some { bare := true }
  | "posix-basic" | "grep" | "sed" | "ed" | "posix-minimal-basic" => some {}
  | _ => none

def regexTest (anyCase : Bool) (pattern : Octets) : Reading Expression := do
  let style := { (← get).settings.style with anyCase := anyCase }
  match Regex.read style (Octets.toChars pattern) with
  | .error message => throw message
  | .ok r =>
    let whole : Regex := .sequence (.start false) (.sequence r (.finish false))
    test fun _ f => whole.isMatch (Octets.toChars f.shown)

/-- A test that compares with the time of a file, or with a moment that is written out. -/
def newerTest (predicate value : Octets) (isMoment : Bool) : Reading Expression := do
  let site := (← get).site
  if isMoment then
    match Tool.moment? site.now value with
    | some moment => test fun _ f => decide (moment < Tool.modifiedOf f.node)
    | none => throw ("I cannot figure out how to interpret " ++ Tool.cited value ++ " as a date or time")
  else
    let _ := predicate
    match site.node (Tool.path value) with
    | .ok node => test fun _ f => decide (Tool.modifiedOf node < Tool.modifiedOf f.node)
    | .error cause => throw (Tool.cited value ++ ": " ++ cause.reason)

def kindTest (predicate : Octets) (followed : Bool) : Reading Expression := do
  let value ← argument predicate
  let kinds := Text.split ',' value
  match kinds.find? fun k => k.length ≠ 1 || !"bcdpflsD".toList.contains (k.headD ' ') with
  | some k =>
    if k = [] then throw ("Last file type in list argument to " ++ Octets.text predicate ++
      " is missing, i.e., list is ending on: ','")
    else throw ("Unknown argument to " ++ Octets.text predicate ++ ": " ++ String.ofList (k.take 1))
  | none =>
    test fun site f =>
      let node := if followed then (site.node (Tool.path f.shown)).toOption.getD f.node else f.node
      kinds.contains [kindOf node]

def isEmptyNode : Node → Bool
  | .file content a => a.kind = .regular && content.isEmpty
  | .directory entries _ => entries.isEmpty
  | .link _ => false

/-- Reads a predicate with its arguments. -/
def primary (predicate : Octets) : Reading Expression := do
  let arg := argument predicate
  let number (convert : Octets → Option (Int → Bool)) (of : Site → Finding → Int) : Reading Expression := do
    let value ← arg
    match convert value with
    | some holds => test fun site f => holds (of site f)
    | none => invalid predicate value
  let age (unit : Int) : Reading Expression := do
    let value ← arg
    match aged? unit value with
    | some holds => test holds
    | none => invalid predicate value
  let depth (set : Nat → Settings → Settings) : Reading Expression := do
    let value ← arg
    if value ≠ [] && value.all Char.isDigit then
      change (set (Octets.natOf 10 value))
      return .always true
    else throw ("Expected a positive decimal integer argument to " ++ Octets.text predicate ++
      ", but got " ++ Tool.cited value)
  match Octets.text predicate with
  | "-true" | "-noleaf" | "-warn" | "-nowarn" | "-daystart" | "-xdev" | "-mount"
  | "-ignore_readdir_race" | "-noignore_readdir_race" | "-readable" | "-writable" => return .always true
  | "-false" | "-nouser" | "-nogroup" => return .always false
  | "-depth" | "-d" =>
    change fun s => { s with depthFirst := true }
    return .always true
  | "-follow" =>
    change fun s => { s with following := .always }
    return .always true
  | "-maxdepth" => depth fun n s => { s with most := some n }
  | "-mindepth" => depth fun n s => { s with least := n }
  | "-regextype" =>
    let value ← arg
    match styleNamed? value with
    | some style =>
      change fun s => { s with style := style }
      return .always true
    | none => throw ("Unknown regular expression type " ++ Tool.cited value ++ "; valid types are " ++
        ", ".intercalate (["findutils-default", "ed", "emacs", "gnu-awk", "grep", "posix-awk", "awk",
          "posix-basic", "posix-egrep", "egrep", "posix-extended", "posix-minimal-basic", "sed"].map
            fun t => "‘" ++ t ++ "’") ++ ".")
  | "-name" => let p ← arg; test fun _ f => Tool.matchesPattern false p (baseOf f)
  | "-iname" => let p ← arg; test fun _ f => Tool.matchesPattern true p (baseOf f)
  | "-path" | "-wholename" => let p ← arg; test fun _ f => Tool.matchesPattern false p f.shown
  | "-ipath" | "-iwholename" => let p ← arg; test fun _ f => Tool.matchesPattern true p f.shown
  | "-lname" | "-ilname" =>
    let p ← arg
    test fun _ f => match f.node with
      | .link target => Tool.matchesPattern (predicate = "-ilname".toList) p (Octets.ofString target.text)
      | _ => false
  | "-regex" => regexTest false (← arg)
  | "-iregex" => regexTest true (← arg)
  | "-type" => kindTest predicate false
  | "-xtype" => kindTest predicate true
  | "-empty" => test fun _ f => isEmptyNode f.node
  | "-size" =>
    let value ← arg
    match sized? value with
    | some holds => test fun _ f => holds (Tool.sizeOf f.node)
    | none => throw ("invalid -size type \x60" ++ String.ofList (value.getLast?.toList) ++ "'")
  | "-newer" | "-anewer" | "-cnewer" | "-newermm" => newerTest predicate (← arg) false
  | "-newermt" | "-newerat" | "-newerct" => newerTest predicate (← arg) true
  | "-mtime" | "-atime" | "-ctime" => age 86400
  | "-mmin" | "-amin" | "-cmin" => age 60
  | "-perm" =>
    let value ← arg
    match hasMode? value with
    | some holds => test fun _ f => holds f.node
    | none => throw ("invalid mode " ++ Tool.cited value)
  | "-user" | "-group" =>
    let value ← arg
    if value = "root".toList || value = ['0'] then return .always true
    else if value.all Char.isDigit then return .always false
    else throw (Tool.cited value ++ (if predicate = "-user".toList then " is not the name of a known user"
      else " is not the name of an existing group"))
  | "-uid" | "-gid" => number compared? fun _ _ => 0
  | "-links" => number compared? fun site f => Tool.linkCount site f.node
  | "-inum" => number compared? fun _ f => match f.node with
      | .file _ a => a.identity
      | _ => 1
  | "-samefile" =>
    let value ← arg
    let site := (← get).site
    if (site.find false (Tool.path value)).isOk then
      test fun site f => Condition.isSame site f.shown value
    else throw (Tool.cited value ++ ": No such file or directory")
  | "-executable" => test fun site f => match site.node (Tool.path f.shown) with
      | .ok (.file _ a) => a.executable
      | .ok _ => true
      | .error _ => false
  | "-print" => return .tell none fun _ f => f.shown ++ ['\n']
  | "-print0" => return .tell none fun _ f => f.shown ++ ['\x00']
  | "-fprint" => let file ← arg; return .tell (some file) fun _ f => f.shown ++ ['\n']
  | "-fprint0" => let file ← arg; return .tell (some file) fun _ f => f.shown ++ ['\x00']
  | "-printf" => let text ← arg; return .tell none fun site f => formatted site f (text.length + 1) text
  | "-fprintf" =>
    let file ← arg
    let text ← arg
    return .tell (some file) fun site f => formatted site f (text.length + 1) text
  | "-prune" =>
    change fun s => { s with prunes := true }
    return .prune
  | "-quit" => return .quit
  | "-delete" =>
    change fun s => { s with deletes := true }
    return .delete
  | "-exec" | "-execdir" =>
    match commandWords predicate [] (← get).words with
    | .error message => throw message
    | .ok ([], _, _) => invalid predicate [';']
    | .ok (words, many, rest) =>
      modify fun s => { s with words := rest }
      let fromWithin := predicate = "-execdir".toList
      if many then
        let number := (← get).settings.gathering
        change fun s => { s with gathering := number + 1 }
        return .gather number words fromWithin
      else return .run words fromWithin
  | text => throw ("unknown predicate \x60" ++ text ++ "'")

/-- Whether a word is an operator that may follow an operand. -/
def isJoin (w : Octets) : Bool :=
  ["-o", "-or", "-a", "-and", ",", ")"].contains (String.ofList w)

/-- An operand, perhaps negated or in parentheses. -/
def operand (inner : Reading Expression) : (steps : Nat) → (after : Octets) → Reading Expression
  | 0, _ => throw "invalid expression"
  | steps + 1, after => do
    match (← get).words with
    | [] => throw ("expected an expression after '" ++ Octets.text after ++ "'")
    | w :: rest =>
      if w = [')'] && after = ['('] then
        throw "invalid expression; empty parentheses are not allowed."
      else if isJoin w then
        if w = [')'] then throw "invalid expression; you have used a binary operator with nothing after it."
        else throw ("invalid expression; you have used a binary operator '" ++ Octets.text w ++
          "' with nothing before it.")
      else
        modify fun s => { s with words := rest }
        if w = ['!'] || w = "-not".toList then return .negate (← operand inner steps w)
        else if w = ['('] then
          if rest.head? = some [')'] then throw "invalid expression; empty parentheses are not allowed."
          let e ← inner
          match (← get).words with
          | [')'] :: rest =>
            modify fun s => { s with words := rest }
            return e
          | _ => throw "invalid expression; I was expecting to find a ')' somewhere but did not see one."
        else if w.head? ≠ some '-' then throw ("paths must precede expression: \x60" ++ Octets.text w ++ "'")
        else primary w

def conjunction (inner : Reading Expression) : (steps : Nat) → (after : Octets) → Reading Expression
  | 0, after => operand inner 1 after
  | steps + 1, after => do
    let first ← operand inner ((← get).words.length + 1) after
    match (← get).words with
    | [] => return first
    | w :: rest =>
      if w = "-a".toList || w = "-and".toList then
        modify fun s => { s with words := rest }
        return .both first (← conjunction inner steps w)
      else if isJoin w then return first
      else return .both first (← conjunction inner steps w)

def disjunction (inner : Reading Expression) : (steps : Nat) → (after : Octets) → Reading Expression
  | 0, after => conjunction inner 1 after
  | steps + 1, after => do
    let first ← conjunction inner ((← get).words.length + 1) after
    match (← get).words with
    | w :: rest =>
      if w = "-o".toList || w = "-or".toList then
        modify fun s => { s with words := rest }
        return .either first (← disjunction inner steps w)
      else return first
    | [] => return first

def sequence (inner : Reading Expression) : (steps : Nat) → (after : Octets) → Reading Expression
  | 0, after => disjunction inner 1 after
  | steps + 1, after => do
    let first ← disjunction inner ((← get).words.length + 1) after
    match (← get).words with
    | [','] :: rest =>
      modify fun s => { s with words := rest }
      return .next first (← sequence inner steps [','])
    | _ => return first

/-- How deep parentheses may lie within each other. -/
def maxDepth : Nat := 64

def expression : (depth : Nat) → (after : Octets) → Reading Expression
  | 0, _ => throw "invalid expression"
  | depth + 1, after => do
    sequence (expression depth ['(']) ((← get).words.length + 1) after

/-- Reads a whole expression. Files for which it does nothing are shown. -/
def wholeExpression : Reading Expression := do
  if (← get).words = [] then return .tell none fun _ f => f.shown ++ ['\n']
  let e ← expression maxDepth []
  match (← get).words with
  | [] =>
    let s := (← get).settings
    if s.deletes && s.prunes && !s.depthFirst then
      throw "The -delete action automatically turns on -depth, but -prune does nothing when -depth is in effect.  If you want to carry on anyway, just explicitly use the -depth option."
    return if e.acts then e else .both e (.tell none fun _ f => f.shown ++ ['\n'])
  | _ => throw "you have too many ')'"

structure Progress where
  /-- What was gathered for commands, last first. -/
  gathered : List (Nat × Octets) := []
  pruned : Bool := false
  quits : Bool := false
  status : Nat := 0
  /-- The streams of the files that are written to. -/
  streams : List (Octets × Nat) := []

abbrev Searching := StateT Progress Action

/-- Runs a command, in the directory of a file if that is asked for. -/
def runCommand (name : String) (environment : Environment) (directory : Option Octets) (words : List Octets) :
    Action Bool := do
  let site ← site
  let place := match directory with
    | some d => ((site.enter (Tool.path d)).toOption.bind Site.directory)
    | none => site.directory
  match ← launch environment (fun p => { p with directory := place }) words with
  | .error cause =>
    complain name (Tool.cited (words.headD []) ++ ": " ++ cause.reason)
    return false
  | .ok id =>
    let ending ← awaitEnding id
    reap
    return ending = .exited 0

def replaceAll (item : Octets) (words : List Octets) : List Octets :=
  words.map fun w => Starting.Items.replaceMark ['\x7b', '\x7d'] item (w.length + 1) w

/-- What a command gets for a file: its path, or its name within its directory. -/
def itemOf (fromWithin : Bool) (f : Finding) : Octets :=
  if fromWithin then
    let base := baseOf f
    if base = ['/'] then base else "./".toList ++ base
  else f.shown

def fail (name message : String) : Searching Unit := do
  complain name message
  modify fun p => { p with status := 1 }

/-- Evaluates an expression for a file. -/
def evaluate (name : String) (environment : Environment) (f : Finding) : Expression → Searching Bool
  | .always value => return value
  | .test holds => return holds (← site) f
  | .tell file text => do
    let text := text (← site) f
    let streams := (← get).streams
    match file.bind fun name => streams.lookup name with
    | some index =>
      let _ ← writeStream index text
    | none => write 1 text
    return true
  | .run words fromWithin =>
    runCommand name environment (if fromWithin then some (parentOf f.shown) else none)
      (replaceAll (itemOf fromWithin f) words)
  | .gather number words fromWithin => do
    if fromWithin then
      let done ← runCommand name environment (some (parentOf f.shown)) (words ++ [itemOf true f])
      if !done then modify fun p => { p with status := 1 }
    else modify fun p => { p with gathered := (number, f.shown) :: p.gathered }
    return true
  | .delete => do
    if f.shown = ['.'] then return true
    let site ← site
    match site.find false (Tool.path f.shown) with
    | .ok (place, node) =>
      match node with
      | .directory (_ :: _) _ =>
        fail name ("cannot delete " ++ Tool.cited f.shown ++ ": Directory not empty")
        return false
      | _ =>
        match site.detach place with
        | .ok site =>
          setRoot site.root
          return true
        | .error cause =>
          fail name ("cannot delete " ++ Tool.cited f.shown ++ ": " ++ cause.reason)
          return false
    | .error cause =>
      fail name ("cannot delete " ++ Tool.cited f.shown ++ ": " ++ cause.reason)
      return false
  | .prune => do
    modify fun p => { p with pruned := true }
    return true
  | .quit => do
    modify fun p => { p with quits := true }
    return true
  | .negate e => return !(← evaluate name environment f e)
  | .both first second => do
    if ← evaluate name environment f first then
      if (← get).quits then return true else evaluate name environment f second
    else return false
  | .either first second => do
    if ← evaluate name environment f first then return true
    else if (← get).quits then return true
    else evaluate name environment f second
  | .next first second => do
    let _ ← evaluate name environment f first
    if (← get).quits then return true else evaluate name environment f second

/-- Evaluates an expression for what is at a path and below. -/
def visit (name : String) (environment : Environment) (s : Settings) (e : Expression) (start : Octets) :
    (steps : Nat) → (depth : Nat) → (above : List Place) → Octets → Searching Unit
  | 0, _, _, _ => return
  | steps + 1, depth, above, shown => do
    if (← get).quits then return
    let site ← site
    let follows := s.following = .always || (s.following = .atStart && depth = 0)
    let found := match site.find follows (Tool.path shown) with
      | .ok found => Except.ok found
      | .error cause => match site.find false (Tool.path shown) with
        | .ok found => .ok found
        | .error _ => .error cause
    match found with
    | .error cause => fail name (Tool.cited shown ++ ": " ++ cause.reason)
    | .ok (place, node) =>
      let f : Finding := ⟨shown, start, depth, node⟩
      let applies := s.least ≤ depth
      let first := !(s.depthFirst || s.deletes)
      modify fun p => { p with pruned := false }
      if first && applies then
        let _ ← evaluate name environment f e
      let p ← get
      let goesOn := !(p.pruned && first) && !p.quits && !s.most.any (· ≤ depth)
      match node, goesOn with
      | .directory .., true =>
        if above.contains place then
          fail name ("File system loop detected; " ++ Tool.cited shown ++
            " is part of the same file system loop as " ++ Tool.cited start ++ ".")
        else if !(← Action.site).allows .read place then
          fail name (Tool.cited shown ++ ": " ++ Fault.permissionDenied.reason)
        else
          let entries := match (← Action.site).find follows (Tool.path shown) with
            | .ok (_, .directory entries _) => entries
            | _ => []
          for (entry, _) in entries do
            visit name environment s e start steps (depth + 1) (place :: above)
              (inside shown (Octets.ofString entry))
      | _, _ => pure ()
      if !first && applies && !(← get).quits then
        let _ ← evaluate name environment f e

/-- How deep a tree is searched. -/
def maxLevels : Nat := 2000

/-- The gathering actions of an expression. -/
def gatherings : Expression → List (Nat × List Octets)
  | .gather number words false => [(number, words)]
  | .negate e => gatherings e
  | .both first second | .either first second | .next first second =>
    gatherings first ++ gatherings second
  | _ => []

/-- Opens the files that an expression writes to. -/
def openAll (files : List Octets) : Action (List (Octets × Nat)) := do
  let mut opened := #[]
  for file in files.eraseDups do
    match ← openFile .write file with
    | .ok index => opened := opened.push (file, index)
    | .error _ => pure ()
  return opened.toList

/-- The options before the paths, and what comes after them. -/
def leadingOptions : Settings → List Octets → Settings × List Octets
  | s, a :: rest =>
    match Octets.text a with
    | "-L" => leadingOptions { s with following := .always } rest
    | "-H" => leadingOptions { s with following := .atStart } rest
    | "-P" => leadingOptions { s with following := .never } rest
    | _ => (s, a :: rest)
  | s, [] => (s, [])

def search (name : String) (environment : Environment) (arguments : List Octets) : Action Fate := do
  let (settings, arguments) := leadingOptions {} arguments
  let isPath (a : Octets) : Bool :=
    (a.head? ≠ some '-' || a = ['-']) && a ≠ ['!'] && a ≠ ['('] && a ≠ [')'] && a ≠ [',']
  let given := arguments.takeWhile isPath
  let starts := if given = [] then [['.']] else given
  let source : Source := { words := arguments.drop given.length, settings := settings, site := ← site }
  match wholeExpression.run source with
  | .error message =>
    complain name message
    leave 1
  | .ok (e, source) =>
    let streams ← openAll e.files
    let work : Searching Unit := do
      for start in starts do
        visit name environment source.settings e start maxLevels 0 [] start
      for (number, words) in gatherings e do
        let files := ((← get).gathered.filter (·.1 = number)).reverse.map Prod.snd
        if files ≠ [] then
          let done ← runCommand name environment none (words ++ files)
          if !done then modify fun p => { p with status := 1 }
    let (_, p) ← holding (streams.map Prod.snd) (work.run { streams := streams })
    leave p.status

end ScopedCheck.Script.Find
