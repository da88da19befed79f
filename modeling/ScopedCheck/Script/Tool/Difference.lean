import ScopedCheck.Script.Tool.Compare
import ScopedCheck.Script.Tool.Difference.Layout
import ScopedCheck.Script.Tool.Listing
import Std.Data.HashMap

namespace ScopedCheck.Script.Tool.Difference

/-- What a comparison is to do, besides the form of what it writes. -/
structure Request where
  settings : Settings := {}
  form? : Option Form := none
  /-- How many lines are to be shown around a change, given as digits. -/
  digits? : Option Nat := none
  /-- Whether the form came with such a number. -/
  fixed : Bool := false
  headings : Bool := false
  horizon : Nat := 0
  width? : Option Nat := none
  asText : Bool := false
  brief : Bool := false
  tellsSame : Bool := false
  recursive : Bool := false
  /-- Whether absent files count as empty, and whether only absent first files do. -/
  fillsBoth : Bool := false
  fillsFirst : Bool := false
  followsLinks : Bool := true
  anyCaseNames : Bool := false
  labels : List Octets := []
  hidden : List Octets := []
  first? : Option Octets := none
  fromFile? : Option Octets := none
  toFile? : Option Octets := none
  oldLine? : Option Octets := none
  newLine? : Option Octets := none
  sameLine? : Option Octets := none
  oldGroup? : Option Octets := none
  newGroup? : Option Octets := none
  sameGroup? : Option Octets := none
  changedGroup? : Option Octets := none
  /-- The options in words, as a title repeats them. -/
  words : String := ""

/-- Why a request cannot be carried out. -/
structure Refusal where
  message : String
  /-- Whether the message is followed by where to find help. -/
  hint : Bool := true

namespace Request

def withForm (r : Request) (form : Form) : Except Refusal Request :=
  if r.form?.any (· ≠ form) then throw ⟨"conflicting output style options", true⟩
  else return { r with form? := some form }

/-- Shows at least so many lines around a change. -/
def withContext (r : Request) (count : Nat) : Request :=
  { r with settings := { r.settings with context := max r.settings.context count } }

def number? (text : Octets) : Option Nat :=
  let body := text.dropWhile Octets.isSpace
  let body := if body.head? = some '+' then body.tail else body
  if body ≠ [] && body.all Char.isDigit then some (Octets.natOf 10 body) else none

def withCount (r : Request) (form : Form) (text : Octets) : Except Refusal Request := do
  let r ← r.withForm form
  if text = [] then return r.withContext 3
  match number? text with
  | some n => return { r.withContext n with fixed := true }
  | none => throw ⟨"invalid context length '" ++ Octets.text text ++ "'", true⟩

def withBlanks (r : Request) (change : Blanks → Blanks) : Request :=
  { r with settings := { r.settings with blanks := change r.settings.blanks } }

/-- The groups of a text for programs that choose versions by the name of a condition. -/
def withCondition (r : Request) (name : Octets) : Request :=
  let n := Octets.text name
  { r with
    sameGroup? := some "%=".toList
    oldGroup? := some (Octets.ofString ("#ifndef " ++ n ++ "\n%<#endif /* ! " ++ n ++ " */\n"))
    newGroup? := some (Octets.ofString ("#ifdef " ++ n ++ "\n%>#endif /* " ++ n ++ " */\n"))
    changedGroup? := some (Octets.ofString
      ("#ifndef " ++ n ++ "\n%<#else /* " ++ n ++ " */\n%>#endif /* " ++ n ++ " */\n")) }

def withWidth (r : Request) (text : Octets) : Except Refusal Request :=
  match number? text with
  | none | some 0 => throw ⟨"invalid width '" ++ Octets.text text ++ "'", true⟩
  | some n =>
    if r.width?.any (· ≠ n) then throw ⟨"conflicting width options", false⟩
    else return { r with width? := some n }

def readRegex (text : Octets) : Except Refusal Regex :=
  match Regex.read {} (Octets.toChars text) with
  | .ok regex => return regex
  | .error message => throw ⟨Octets.text text ++ ": " ++ message, false⟩

/-- The request with one option more. -/
def withFormat (r : Request) (letter : Char) (value : Octets) : Except Refusal Request := do
  let r ← r.withForm .merged
  match letter with
  | '\x02' => return { r with changedGroup? := some value }
  | '\x0f' => return { r with oldLine? := some value, newLine? := some value, sameLine? := some value }
  | '\x10' => return { r with newGroup? := some value }
  | '\x11' => return { r with newLine? := some value }
  | '\x15' => return { r with oldGroup? := some value }
  | '\x16' => return { r with oldLine? := some value }
  | '\x1e' => return { r with sameGroup? := some value }
  | _ => return { r with sameLine? := some value }

/-- The request with one option more that is only switched on. -/
def withSwitch (r : Request) (letter : Char) : Request :=
  let s := r.settings
  match letter with
  | 'a' => { r with asText := true }
  | 'b' => r.withBlanks fun b => { b with runs := true }
  | 'Z' => r.withBlanks fun b => { b with trailing := true }
  | 'E' => r.withBlanks fun b => { b with tabs := true }
  | 'w' => r.withBlanks fun b => { b with all := true }
  | 'B' => { r with settings := { s with skipEmpty := true } }
  | 'd' => { r with settings := { s with thorough := true } }
  | 'i' => { r with settings := { s with anyCase := true } }
  | 'N' => { r with fillsBoth := true }
  | 'P' => { r with fillsFirst := true }
  | 'q' => { r with brief := true }
  | 'r' => { r with recursive := true }
  | 's' => { r with tellsSame := true }
  | 't' => { r with settings := { s with expandTabs := true } }
  | 'T' => { r with settings := { s with tabAfterMark := true } }
  | '\x07' => { r with anyCaseNames := true }
  | '\x13' => { r with anyCaseNames := false }
  | '\x0e' => { r with settings := { s with leftOnly := true } }
  | '\x12' => { r with followsLinks := false }
  | '\x19' => { r with settings := { s with dropReturns := true } }
  | '\x1a' => { r with settings := { s with bareEmpty := true } }
  | '\x1b' => { r with settings := { s with skipCommon := true } }
  | _ => r

/-- The request with one option more; the letter before tells whether digits go on. -/
def withOption (r : Request) (before : Char) (letter : Char) (value : Octets) :
    Except Refusal Request := do
  let s := r.settings
  if letter.isDigit then
    let known := if before.isDigit then r.digits?.getD 0 else 0
    return { r with digits? := some (10 * known + Octets.digit letter) }
  else if "\x02\x0f\x10\x11\x15\x16\x1e\x1f".toList.contains letter then r.withFormat letter value
  else match letter with
    | 'C' | '\x04' => r.withCount .context value
    | 'U' | '\x7f' => r.withCount .unified value
    | 'c' => return (← r.withForm .context).withContext 3
    | 'u' => return (← r.withForm .unified).withContext 3
    | 'D' => return (← r.withForm .merged).withCondition value
    | 'e' => r.withForm .script
    | 'f' => r.withForm .forward
    | 'n' => r.withForm .revisions
    | 'y' => r.withForm .columns
    | '\x14' => r.withForm .plain
    | 'F' => return { r with settings := { s with headings := s.headings ++ [← readRegex value] } }
    | 'I' => return { r with settings := { s with skipped := s.skipped ++ [← readRegex value] } }
    | 'p' =>
      let regex ← readRegex "^[[:alpha:]$_]".toList
      return { r with headings := true, settings := { s with headings := s.headings ++ [regex] } }
    | 'L' =>
      if r.labels.length = 2 then throw ⟨"too many file label options", false⟩
      else return { r with labels := r.labels ++ [value] }
    | 'S' => return { r with first? := some value }
    | 'W' => r.withWidth value
    | 'x' => return { r with hidden := r.hidden ++ [value] }
    | '\x05' => return { r with fromFile? := some value }
    | '\x06' => return { r with horizon := (number? value).getD 0 }
    | '\x1c' =>
      match number? value with
      | none | some 0 => throw ⟨"invalid tabsize '" ++ Octets.text value ++ "'", true⟩
      | some n => return { r with settings := { s with tabSize := n } }
    | '\x1d' => return { r with toFile? := some value }
    | _ => return r.withSwitch letter

def withOptions : Request → (before : Char) → List (Char × Octets) → Except Refusal Request
  | r, _, [] => return r
  | r, before, (letter, value) :: rest => do
    withOptions (← r.withOption before letter value) letter rest

/-- The formats that are used: those that are not given follow from the others. -/
def formats (r : Request) : Formats :=
  let usual : Formats := {}
  let old := r.oldGroup? <|> r.changedGroup?
  let new := r.newGroup? <|> r.changedGroup?
  let oldGroup := old.getD usual.oldGroup
  let newGroup := new.getD usual.newGroup
  { old := r.oldLine?.getD usual.old, new := r.newLine?.getD usual.new
    same := r.sameLine?.getD usual.same, oldGroup := oldGroup, newGroup := newGroup
    sameGroup := r.sameGroup?.getD usual.sameGroup
    changedGroup := r.changedGroup?.getD (oldGroup ++ newGroup) }

/-- The request when all options are known. -/
def finished (r : Request) : Request :=
  let form := r.form?.getD (if r.headings then .context else .plain)
  let s := if r.form?.isNone && r.headings && r.digits?.isNone then
    { r.settings with context := 3 } else r.settings
  let context := match r.digits? with
    | some n =>
      if (form = .context || form = .unified) && (s.context < n || (n < s.context && !r.fixed)) then n
      else s.context
    | none => s.context
  { r with settings := { s with form := form, context := context, width := r.width?.getD 130
                                formats := r.formats } }

/-- How a file is called: by its label, if it has one. -/
def called (r : Request) (n : Nat) (name : Octets) : Octets := r.labels.getD n name

end Request

/-- The lines of a text; where last lines are completed, so is the last one. -/
def linesOf (s : Settings) (content : Octets) : Array Octets :=
  let content := if s.dropReturns then
      (Octets.lines content).flatMap fun line =>
        let body := Octets.chomp line
        if body ≠ line && body.getLast? = some '\r' then body.dropLast ++ ['\n'] else line
    else content
  let lacks := content.getLast?.any (· ≠ '\n')
  (Octets.lines (if lacks && !s.form.keepsLastLine then content ++ ['\n'] else content)).toArray

/-- How many lines two lists begin with alike. -/
def commonCount : List Octets → List Octets → Nat
  | a :: as, b :: bs => if a = b then commonCount as bs + 1 else 0
  | _, _ => 0

/-- Numbers keys in the order in which they come first. -/
def classesOf (keys : List (Octets × Bool)) : Array Nat :=
  let start : Std.HashMap (Octets × Bool) Nat × Array Nat := ({}, #[])
  (keys.foldl (fun (known, found) key =>
    match known[key]? with
    | some n => (known, found.push n)
    | none => (known.insert key (known.size + 1), found.push (known.size + 1))) start).2

/-- The texts with the changes between them. What both begin and end with takes no part in the
search, except for as many lines as are shown around a change. -/
def sidesOf (r : Request) (old new : Octets) : Sides :=
  let s := r.settings
  let (old, new) := (linesOf s old, linesOf s new)
  let horizon := max r.horizon s.context
  let start := commonCount old.toList new.toList - horizon
  let (oldRest, newRest) := (old.toList.drop start, new.toList.drop start)
  let stop := commonCount oldRest.reverse newRest.reverse - horizon
  let oldMiddle := (oldRest.take (oldRest.length - stop)).map s.key
  let newMiddle := (newRest.take (newRest.length - stop)).map s.key
  let classes := classesOf (oldMiddle ++ newMiddle)
  let changes := align s.thorough (classes.extract 0 oldMiddle.length)
    (classes.extract oldMiddle.length classes.size)
  ⟨old, new, changes.map (Change.after start)⟩

/-- A name as a header shows it: in quotes if it holds blanks or characters that need escapes. -/
def shownName (name : Octets) : Octets :=
  let named : List (Char × Char) :=
    [('\x07', 'a'), ('\x08', 'b'), ('\t', 't'), ('\n', 'n'), ('\x0b', 'v'), ('\x0c', 'f'),
     ('\r', 'r'), ('"', '"'), ('\\', '\\')]
  let escape (c : Char) : Octets :=
    match named.lookup c with
    | some d => ['\\', d]
    | none =>
      if c.toNat < 32 || 128 ≤ c.toNat then
        let digits := Nat.toDigits 8 c.toNat
        '\\' :: List.replicate (3 - digits.length) '0' ++ digits
      else [c]
  let text := name.flatMap escape
  if text ≠ name || name.contains ' ' then '"' :: text ++ ['"'] else name

/-- One file of a comparison: its name, what it is if it is there, and where it is. -/
structure Item where
  name : Octets
  node? : Option Node := none
  place? : Option Place := none
  /-- The directory that an absent file would be in has this kind of file on the other side. -/
  isDirectory : Bool := false

def stamp (node? : Option Node) : Octets :=
  let format := "%Y-%m-%d %H:%M:%S.%N %z".toList
  formatDate ((node?.map modifiedOf).getD 0) (format.length + 1) format

/-- What is written before the differences of two files. -/
def header (r : Request) (titled : Bool) (a b : Item) : Octets :=
  let title := if titled then
      "diff".toList ++ Octets.ofString r.words ++ ' ' :: shownName (r.called 0 a.name) ++
        ' ' :: shownName (r.called 1 b.name) ++ ['\n']
    else []
  let line (mark : String) (n : Nat) (item : Item) : Octets :=
    mark.toList ++ ' ' :: (match r.labels[n]? with
      | some label => label
      | none => shownName item.name ++ '\t' :: stamp item.node?) ++ ['\n']
  title ++ match r.settings.form with
    | .context => line "***" 0 a ++ line "---" 1 b
    | .unified => line "---" 0 a ++ line "+++" 1 b
    | _ => []

def tell (parts : List Octets) : Tool Unit := printLine parts.flatten

/-- How much of a file shows whether it is a text. -/
def sampleSize : Nat := 4096

def isBinary (content : Octets) : Bool := (content.take sampleSize).contains '\x00'

/-- Compares the contents of two files, and gives the status of that. -/
def compareContents (r : Request) (titled : Bool) (a b : Item) (old new : Octets) : Tool Nat := do
  let (nameA, nameB) := (r.called 0 a.name, r.called 1 b.name)
  let s := r.settings
  if !r.asText && (isBinary old || isBinary new) then
    if old = new then return 0
    tell [(if r.brief then "Files " else "Binary files ").toList, nameA, " and ".toList, nameB,
      " differ".toList]
    return 1
  let sides := sidesOf r old new
  let differs := sides.changes.any fun c => !sides.skips s c
  if r.brief then
    if differs then tell ["Files ".toList, nameA, " and ".toList, nameB, " differ".toList]
  else if differs || !s.quietIfSame then
    let text := body s sides
    if text ≠ [] || s.form = .columns then print (header r titled a b ++ text)
  let mut status := if differs then 1 else 0
  if !s.form.keepsLastLine then
    for (name, content) in [(nameA, old), (nameB, new)] do
      if content.getLast?.any (· ≠ '\n') then
        complainWith 2 (Octets.text name ++ ": No newline at end of file\n")
        status := 2
  return status

def kindName (node : Node) : String :=
  match node with
  | .directory .. => "directory"
  | .link _ => "symbolic link"
  | .file content attributes =>
    match attributes.kind with
    | .regular => if content = [] then "regular empty file" else "regular file"
    | .pipe => "fifo"
    | .sink | .zeros | .full | .noise => "character special file"

/-- Whether two items are one file. -/
def isSame (a b : Item) : Bool :=
  (a.place?.isSome && a.place? = b.place?) ||
    match a.node?, b.node? with
    | some (.file _ x), some (.file _ y) => x.identity ≠ 0 && x.identity = y.identity
    | _, _ => false

/-- Looks at what an operand names. -/
def look (r : Request) (name : Octets) : Tool (Except Fault Item) := do
  if name = ['-'] then
    let now := (← site).now
    return .ok ⟨name, some (.file [] { modified := now }), none, false⟩
  match (← site).find r.followsLinks (path name) with
  | .ok (place, node) => return .ok ⟨name, some node, some place, node.isDirectory⟩
  | .error cause => return .error cause

/-- The content of an item; what is absent is empty. -/
def contentOf (item : Item) : Tool (Except Fault Octets) := do
  match item.node? with
  | none => return .ok []
  | some _ => if item.name = ['-'] then return .ok (← input) else readPath item.name

/-- Compares two items that can be compared. -/
def compareItems (r : Request) (directories : Item → Item → Tool Nat)
    (parents? : Option (Octets × Octets)) (name : Octets) (a b : Item) : Tool Nat := do
  let absent := a.node?.isNone || b.node?.isNone
  if a.node?.isNone && b.node?.isNone then return 0
  else if !absent && isSame a b && r.settings.quietIfSame then return 0
  else if a.isDirectory && b.isDirectory && !absent then
    if parents?.isSome && !r.recursive then
      tell ["Common subdirectories: ".toList, a.name, " and ".toList, b.name]
      return 0
    else directories a b
  else
    let isPlain (item : Item) : Bool := match item.node? with
      | some (.file _ attributes) => attributes.kind = .regular
      | some (.link _) => true
      | some (.directory ..) => false
      | none => true
    if a.isDirectory || b.isDirectory || (parents?.isSome && !(isPlain a && isPlain b)) then
      if absent then
        if (a.isDirectory || b.isDirectory) && r.recursive &&
            (r.fillsBoth || (r.fillsFirst && a.node?.isNone)) then directories a b
        else
          let (first, second) := parents?.getD ([], [])
          tell ["Only in ".toList, if a.node?.isNone then second else first, ": ".toList, name]
          return 1
      else
        let kind (item : Item) : Octets := ((item.node?.map kindName).getD "").toList
        tell ["File ".toList, r.called 0 a.name, " is a ".toList, kind a, " while file ".toList,
          r.called 1 b.name, " is a ".toList, kind b]
        return 1
    else match a.node?, b.node? with
      | some (.link x), some (.link y) =>
        if x = y then return 0
        tell ["Symbolic links ".toList, a.name, " and ".toList, b.name, " differ".toList]
        return 1
      | _, _ =>
        match ← contentOf a with
        | .error cause =>
          complainWith 2 (Octets.text a.name ++ ": " ++ cause.reason)
          return 2
        | .ok old =>
          match ← if a.name = b.name then pure (.ok old) else contentOf b with
          | .error cause =>
            complainWith 2 (Octets.text b.name ++ ": " ++ cause.reason)
            return 2
          | .ok new => compareContents r parents?.isSome a b old new

/-- Where a file of that name is that is compared with a directory: in it. -/
def reachInto (r : Request) (a b : Item) : Tool (Option (Item × Item)) := do
  let (directory, file) := if a.isDirectory then (a, b) else (b, a)
  if file.name = ['-'] then
    complainWith 2 "cannot compare '-' to a directory"
    return none
  let name := inside directory.name (lastName file.name)
  match ← look r name with
  | .ok found => return some (if a.isDirectory then (found, b) else (a, found))
  | .error cause =>
    complainWith 2 (Octets.text name ++ ": " ++ cause.reason)
    return none

/-- Compares what two names stand for, in two directories if they come from such; one of the names
may be missing there. Gives the status of that. -/
def compareNames (r : Request) (directories : Item → Item → Tool Nat)
    (parents? : Option (Octets × Octets)) (first? second? : Option Octets) : Tool Nat := do
  let name := (first? <|> second?).getD []
  let (parentA, parentB) := parents?.getD ([], [])
  let full (parent : Octets) : Octets := if parents?.isSome then inside parent name else name
  let nameA := full parentA
  let nameB := if parents?.isSome then full parentB else second?.getD name
  if first?.isNone && !(r.fillsBoth || r.fillsFirst) then
    tell ["Only in ".toList, parentB, ": ".toList, name]
    return 1
  if second?.isNone && !r.fillsBoth then
    tell ["Only in ".toList, parentA, ": ".toList, name]
    return 1
  let a ← if first?.isSome then look r nameA else pure (.ok ⟨nameA, none, none, false⟩)
  let b ← if second?.isSome then look r nameB else pure (.ok ⟨nameB, none, none, false⟩)
  let spared (fills : Bool) (found other : Except Fault Item) : Bool :=
    match found, other with
    | .error .notFound, .ok o => fills && parents?.isNone && o.node?.isSome
    | _, _ => false
  let settled (fills : Bool) (name : Octets) (found other : Except Fault Item) : Except Fault Item :=
    if spared fills found other then .ok ⟨name, none, none, false⟩ else found
  let first := settled (r.fillsBoth || r.fillsFirst) nameA a b
  let second := settled r.fillsBoth nameB b a
  match first, second with
  | .ok a, .ok b =>
    let a := if a.node?.isNone then { a with isDirectory := b.isDirectory } else a
    let b := if b.node?.isNone then { b with isDirectory := a.isDirectory } else b
    let pair? ← if parents?.isNone && a.isDirectory ≠ b.isDirectory then reachInto r a b
      else pure (some (a, b))
    match pair? with
    | none => return 2
    | some (a, b) =>
      let status ← compareItems r directories parents? name a b
      if status = 0 && r.tellsSame && !a.isDirectory then
        tell ["Files ".toList, r.called 0 a.name, " and ".toList, r.called 1 b.name,
          " are identical".toList]
      return status
  | _, _ =>
    for (name, found) in [(nameA, first), (nameB, second)] do
      if let .error cause := found then complainWith 2 (Octets.text name ++ ": " ++ cause.reason)
    return 2

/-- The names in a directory that are compared. -/
def namesIn (r : Request) (item : Item) : List Octets :=
  match item.node? with
  | some (.directory entries _) =>
    sortNames ((entries.map fun entry => Octets.ofString entry.1).filter fun name =>
      !r.hidden.any fun p => matchesPattern r.anyCaseNames p name)
  | _ => []

/-- The names of two sorted lists, those that both have beside each other. -/
def pairNames : (steps : Nat) → List Octets → List Octets → List (Option Octets × Option Octets)
  | 0, _, _ => []
  | _, as, [] => as.map fun a => (some a, none)
  | _, [], bs => bs.map fun b => (none, some b)
  | steps + 1, a :: as, b :: bs =>
    if a = b then (some a, some b) :: pairNames steps as bs
    else if a < b then (some a, none) :: pairNames steps as (b :: bs)
    else (none, some b) :: pairNames steps (a :: as) bs

/-- Compares what is in two directories; how deep that goes is bounded. -/
def compareDirectories (r : Request) : (depth : Nat) → (top : Bool) → Item → Item → Tool Nat
  | 0, _, _, _ => return 2
  | depth + 1, top, a, b => do
    let (as, bs) := (namesIn r a, namesIn r b)
    let mut status := 0
    for (first?, second?) in pairNames (as.length + bs.length + 1) as bs do
      let name := (first? <|> second?).getD []
      if !(top && r.first?.any (name < ·)) then
        let found ← compareNames r (compareDirectories r depth false) (some (a.name, b.name)) first? second?
        status := max status found
    return status

def compareOperands (r : Request) (first second : Octets) : Tool Nat :=
  compareNames r (compareDirectories r maxDepth true) none (some first) (some second)

def grammar : Options.Grammar :=
  { letters := "0123456789abBcdeEfhHilnNpPqrstTuwyvZ\x03\x04\x7f"
    valued := "CDFILSUWxX\x02\x05\x06\x0f\x10\x11\x15\x16\x17\x1c\x1d\x1e\x1f"
    optional := "\x03\x04\x7f"
    long := [("binary", '\x01'), ("brief", 'q'), ("changed-group-format", '\x02'),
      ("color", '\x03'), ("context", '\x04'), ("ed", 'e'), ("exclude", 'x'), ("exclude-from", 'X'),
      ("expand-tabs", 't'), ("forward-ed", 'f'), ("from-file", '\x05'), ("horizon-lines", '\x06'),
      ("ifdef", 'D'), ("ignore-all-space", 'w'), ("ignore-blank-lines", 'B'), ("ignore-case", 'i'),
      ("ignore-file-name-case", '\x07'), ("ignore-matching-lines", 'I'),
      ("ignore-space-change", 'b'), ("ignore-tab-expansion", 'E'), ("ignore-trailing-space", 'Z'),
      ("inhibit-hunk-merge", '\x08'), ("initial-tab", 'T'), ("label", 'L'),
      ("left-column", '\x0e'), ("line-format", '\x0f'), ("minimal", 'd'), ("new-file", 'N'),
      ("new-group-format", '\x10'), ("new-line-format", '\x11'), ("no-dereference", '\x12'),
      ("no-ignore-file-name-case", '\x13'), ("normal", '\x14'), ("old-group-format", '\x15'),
      ("old-line-format", '\x16'), ("paginate", 'l'), ("palette", '\x17'), ("rcs", 'n'),
      ("recursive", 'r'), ("report-identical-files", 's'), ("sdiff-merge-assist", '\x18'),
      ("show-c-function", 'p'), ("show-function-line", 'F'), ("side-by-side", 'y'),
      ("speed-large-files", 'H'), ("starting-file", 'S'), ("strip-trailing-cr", '\x19'),
      ("suppress-blank-empty", '\x1a'), ("suppress-common-lines", '\x1b'), ("tabsize", '\x1c'),
      ("text", 'a'), ("to-file", '\x1d'), ("unchanged-group-format", '\x1e'),
      ("unchanged-line-format", '\x1f'), ("unidirectional-new-file", 'P'), ("unified", '\x7f'),
      ("version", 'v'), ("width", 'W')] }

/-- The arguments that are options or values of options. -/
def optionWords : (steps : Nat) → List Octets → List Octets
  | 0, _ | _, [] => []
  | steps + 1, word :: rest =>
    let taken (after : List Octets) : List Octets :=
      word :: rest.take (rest.length - after.length) ++ optionWords steps after
    match word with
    | ['-', '-'] => [word]
    | '-' :: '-' :: name => taken (Options.readLong grammar name rest {}).2
    | '-' :: c :: cs => taken (Options.readLetters grammar (c :: cs) rest {}).2
    | _ => optionWords steps rest

/-- The patterns for names in a file. -/
def readHidden (r : Request) : List Octets → Tool (Option Request)
  | [] => return some r
  | file :: rest => do
    match ← read file with
    | .ok content =>
      let patterns := ((Octets.lines content).map Octets.chomp).filter (· ≠ [])
      readHidden { r with hidden := r.hidden ++ patterns } rest
    | .error cause =>
      complainWith 2 (Octets.text file ++ ": " ++ cause.reason)
      return none

/-- Compares the operands as they are to be compared. -/
def runRequest (r : Request) (lastWord : Octets) (operands : List Octets) : Tool Unit := do
  let all (compare : Octets → Tool Nat) : Tool Unit := do
    let mut status := 0
    for operand in operands do
      let found ← compare operand
      status := max status found
    setStatus status
  match r.fromFile?, r.toFile?, operands with
  | some _, some _, _ => complainWith 2 "--from-file and --to-file both specified"
  | some file, none, _ => all fun operand => compareOperands r file operand
  | none, some file, _ => all fun operand => compareOperands r operand file
  | none, none, [a, b] => do
    let status ← compareOperands r a b
    setStatus status
  | none, none, _ :: _ :: extra :: _ => misuseByName 2 ("extra operand '" ++ Octets.text extra ++ "'")
  | none, none, _ => misuseByName 2 ("missing operand after '" ++ Octets.text lastWord ++ "'")

/-- Tells how files differ, or only whether they do. -/
def run (arguments : List Octets) : Tool Unit := do
  let o := Options.read grammar arguments
  let name := Octets.ofString (← get).name
  match Request.withOptions {} ' ' o.given with
  | .error refusal =>
    if refusal.hint then misuseByName 2 refusal.message else complainWith 2 refusal.message
  | .ok r =>
    match o.fault? with
    | some fault => misuseByName 2 fault
    | none =>
      if o.has 'v' then
        printLine "diff (GNU diffutils) 3.10".toList
        return
      let words := optionWords (arguments.length + 1) arguments
      let r := { r.finished with words := String.join (words.map fun word => " " ++ named word) }
      match ← readHidden r (o.values 'X') with
      | none => return
      | some r => runRequest r ((words ++ o.operands).getLast?.getD name) o.operands

end ScopedCheck.Script.Tool.Difference
