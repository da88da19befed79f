import ScopedCheck.Script.Format
import ScopedCheck.Script.Pattern
import ScopedCheck.Script.Tool.Names

namespace ScopedCheck.Script.Tool

mutual

/-- How many names at and below a node the file of an identity has. -/
def namesOf (identity : Nat) : Node → Nat
  | .file _ attributes => if attributes.identity = identity then 1 else 0
  | .link _ => 0
  | .directory entries _ => namesOfAll identity entries

def namesOfAll (identity : Nat) : List (String × Node) → Nat
  | [] => 0
  | (_, node) :: rest => namesOf identity node + namesOfAll identity rest

end

def linkCount (site : Site) : Node → Nat
  | .file _ attributes => if attributes.identity = 0 then 1 else max 1 (namesOf attributes.identity site.root)
  | .link _ => 1
  | .directory entries _ => 2 + (entries.filter (·.2.isDirectory)).length

def sizeOf : Node → Nat
  | .file content _ => content.length
  | .link target => (Utf8.encode target.text).length
  | .directory .. => 4096

/-- How many blocks of 512 bytes a node takes. -/
def blocksOf : Node → Nat
  | .file content _ => (content.length + 4095) / 4096 * 8
  | .link _ => 0
  | .directory .. => 8

/-- The letter for the kind of a node. -/
def kindLetter : Node → Char
  | .file _ attributes =>
    match attributes.kind with
    | .pipe => 'p'
    | .sink | .zeros | .full | .noise => 'c'
    | .regular => '-'
  | .link _ => 'l'
  | .directory .. => 'd'

def modeLetters (node : Node) : Octets :=
  kindLetter node :: Permissions.letters node.mode

/-- A size with a unit, rounded up, with one decimal place if it is small. -/
def humanSize (n : Nat) : Octets :=
  let rec scale : Nat → Nat → List Char → Octets
    | 0, _, _ => []
    | _, _, [] => []
    | steps + 1, unit, letter :: letters =>
      if n < unit * 1024 || letters = [] then
        let tenths := (n * 10 + unit - 1) / unit
        if tenths < 100 then Octets.ofNat (tenths / 10) ++ '.' :: Octets.ofNat (tenths % 10) ++ [letter]
        else
          let whole := (n + unit - 1) / unit
          if whole ≥ 1024 && letters ≠ [] then "1.0".toList ++ letters.take 1
          else Octets.ofNat whole ++ [letter]
      else scale steps (unit * 1024) letters
  if n < 1024 then Octets.ofNat n else scale 7 1024 "KMGTPE".toList

def sortNames (names : List Octets) : List Octets :=
  names.mergeSort Octets.isAtMost

/-- An entry of a listing. -/
structure Entry where
  name : Octets
  node : Node
  /-- What a link leads to. -/
  goal? : Option Node := none

/-- What shows the kind of an entry after its name. -/
def classify (o : Options) (node : Node) : Octets :=
  let full := o.has 'F'
  match node with
  | .directory .. => if full || o.has 'p' || o.has '/' then ['/'] else []
  | .link _ => if full || o.has '/' then ['@'] else []
  | .file _ attributes =>
    if attributes.kind = .pipe then (if full || o.has '/' then ['|'] else [])
    else if full && attributes.executable then ['*'] else []

/-- The colour that shows the kind of a node. -/
def colourOf (e : Entry) : Option String :=
  match e.node with
  | .directory .. => some "01;34"
  | .link _ => some "01;36"
  | .file _ attributes =>
    match attributes.kind with
    | .pipe => some "33"
    | .sink | .zeros | .full | .noise => some "01;33"
    | .regular =>
      if Nat.land attributes.mode 0o4000 ≠ 0 then some "37;41"
      else if Nat.land attributes.mode 0o2000 ≠ 0 then some "30;43"
      else if attributes.executable then some "01;32" else none

def isColoured (o : Options) : Bool :=
  match o.value? '#' with
  | none => false
  | some v => v = [] || ["always", "yes", "force"].contains (Octets.text v)

/-- How the name of an entry is written. -/
def shownName (o : Options) (e : Entry) : Octets :=
  let text := match o.last? "QNbq" with
    | some 'Q' => '"' :: e.name.flatMap (fun c =>
        if c = '"' || c = '\\' then ['\\', c] else if isHidden c then escapeOf c else [c]) ++ ['"']
    | some 'b' => e.name.flatMap fun c =>
        if c = ' ' || c = '\\' then ['\\', c] else if isHidden c then escapeOf c else [c]
    | some 'q' => e.name.map fun c => if isHidden c then '?' else c
    | _ => e.name
  match if isColoured o then colourOf e else none with
  | some colour => "\x1b[".toList ++ colour.toList ++ 'm' :: text ++ "\x1b[0m".toList
  | none => text

/-- The time of a file as a listing shows it: with the hour if it is not long ago. -/
def listedTime (o : Options) (now moment : Int) : Octets :=
  let style := (o.value? '~').getD []
  let moment := if moment = 0 then now else moment
  let recent := moment ≤ now && now < moment + 15778476 * Calendar.second
  let format : String :=
    if style.head? = some '+' then Octets.text style.tail
    else if o.has '=' || style = "full-iso".toList then "%F %T.%N %z"
    else if style = "long-iso".toList then "%F %R"
    else if style = "iso".toList then (if recent then "%m-%d %R" else "%F ")
    else if recent then "%b %e %H:%M" else "%b %e  %Y"
  formatDate moment (format.length + 1) format.toList

/-- What stands before the name of an entry in a long listing, in columns. -/
def longColumns (o : Options) (site : Site) (e : Entry) : List (Bool × Octets) :=
  let owner := if o.has 'n' then ['0'] else "root".toList
  let size := if o.has 'h' then humanSize (sizeOf e.node) else Octets.ofNat (sizeOf e.node)
  (if o.has 's' then [(true, if o.has 'h' then humanSize (blocksOf e.node * 512) else Octets.ofNat (blocksOf e.node / 2))] else []) ++
    [(false, modeLetters e.node), (true, Octets.ofNat (linkCount site e.node))] ++
    (if o.has 'g' then [] else [(false, owner)]) ++
    (if o.has 'o' || o.has 'G' then [] else [(false, owner)]) ++
    [(true, size), (false, listedTime o site.now (modifiedOf e.node))]

/-- Rows whose columns are all as wide as the widest of their texts. -/
def aligned (rows : List (List (Bool × Octets))) : List Octets :=
  let count := rows.foldl (fun n row => max n row.length) 0
  let widths := (List.range count).map fun n =>
    rows.foldl (fun width row => max width ((row[n]?.map fun c => c.2.length).getD 0)) 0
  rows.map fun row => [' '].intercalate ((row.zip widths).map fun ((right, text), width) =>
    let fill := List.replicate (width - text.length) ' '
    if right then fill ++ text else text ++ fill)

def isLong (o : Options) : Bool :=
  o.last? "l1Cxmgon=" |>.any fun c => c = 'l' || c = 'g' || c = 'o' || c = 'n' || c = '='

/-- How entries are laid out. -/
def layoutOf (o : Options) : Char :=
  match o.last? "lgon=" with
  | some _ => 'l'
  | none => (o.last? "1Cxm").getD '1'

/-- The width of a line. -/
def lineWidth (o : Options) : Nat :=
  match (o.value? 'w').map (Octets.natOf 10) with
  | some 0 => 100000
  | some n => n
  | none => 80

/-- The blanks from one column to another; where a stop lies between them, up to that. -/
def indent : (steps : Nat) → (start goal : Nat) → Octets
  | 0, _, _ => []
  | steps + 1, start, goal =>
    if start ≥ goal then []
    else if goal / 8 > (start + 1) / 8 then '\t' :: indent steps (start / 8 * 8 + 8) goal
    else ' ' :: indent steps (start + 1) goal

/-- The widths of columns if there are so many, down or across. -/
def columnWidths (across : Bool) (lengths : List Nat) (columns : Nat) : List Nat :=
  let rows := (lengths.length + columns - 1) / columns
  let indexed := lengths.zipIdx
  (List.range columns).map fun c =>
    let inColumn := indexed.filter fun (_, n) => if across then n % columns = c else n / rows = c
    inColumn.foldl (fun width (length, _) => max width (length + if c + 1 = columns then 0 else 2)) 0

/-- Names in as many columns as fit into a line. -/
def inColumns (across : Bool) (width : Nat) (texts : List (Octets × Nat)) : List Octets :=
  let lengths := texts.map Prod.snd
  let most := max 1 (min texts.length (width / 3))
  let fits (columns : Nat) : Bool :=
    let rows := (lengths.length + columns - 1) / columns
    let widths := columnWidths across lengths columns
    widths.foldl (· + ·) 0 < width && (across || rows * (columns - 1) < lengths.length || columns = 1)
  let columns := ((List.range most).map (most - ·)).find? fits |>.getD 1
  let rows := (texts.length + columns - 1) / columns
  let widths := columnWidths across lengths columns
  (List.range rows).map fun r =>
    let members := texts.zipIdx.filter fun (_, n) => if across then n / columns = r else n % rows = r
    let step (state : Octets × Nat × Nat) (member : (Octets × Nat) × Nat) : Octets × Nat × Nat :=
      let (line, position, start) := state
      let ((text, length), n) := member
      let c := if across then n % columns else n / rows
      (line ++ indent 200 position start ++ text, start + length, start + widths.getD c 0)
    (members.foldl step ([], 0, 0)).1

/-- Names after each other, with commas between them. -/
def withCommas (width : Nat) : (position : Nat) → List (Octets × Nat) → Octets
  | _, [] => []
  | position, [(text, length)] =>
    if position > 0 && position + length + 2 ≥ width then '\n' :: text else (if position > 0 then ' ' :: text else text)
  | position, (text, length) :: rest =>
    if position > 0 && position + length + 2 ≥ width then
      '\n' :: text ++ ',' :: withCommas width (length + 1) rest
    else if position > 0 then ' ' :: text ++ ',' :: withCommas width (position + length + 2) rest
    else text ++ ',' :: withCommas width (length + 1) rest

/-- Writes entries in the way that is asked for. -/
def printEntries (o : Options) (entries : List Entry) : Tool Unit := do
  let site ← site
  let isFirst := !(← get).written.any fun (_, text) => text.contains '\x1b'
  if isFirst && isColoured o && entries.any fun e => (colourOf e).isSome then print "\x1b[0m".toList
  let ends := if o.has '0' then '\x00' else '\n'
  let blocks (e : Entry) : Octets := if o.has 's' then
      (if o.has 'h' then humanSize (blocksOf e.node * 512) else Octets.ofNat (blocksOf e.node / 2)) else []
  let widest := entries.foldl (fun n e => max n (blocks e).length) 0
  let sized (e : Entry) : Octets :=
    if o.has 's' then List.replicate (widest - (blocks e).length) ' ' ++ blocks e ++ [' '] else []
  let numbered (e : Entry) : Octets := if o.has 'i' then
      (match e.node with
        | .file _ a => Octets.ofNat a.identity
        | _ => ['1']) ++ [' '] else []
  let text (e : Entry) : Octets × Nat :=
    let lead := numbered e ++ sized e
    let mark := classify o e.node
    let plain := shownName { o with given := o.given.filter (·.1 ≠ '#') } e
    (lead ++ shownName o e ++ mark, (Octets.text (lead ++ plain ++ mark)).length)
  match layoutOf o with
  | 'l' =>
    let leads := aligned (entries.map (longColumns o site))
    for (e, lead) in entries.zip leads do
      let arrow := match e.node with
        | .link target =>
          " -> ".toList ++ Octets.ofString target.text ++ ((e.goal?.map (classify o)).getD [])
        | _ => []
      let mark := match e.node with
        | .link _ => []
        | node => classify o node
      print (numbered e ++ lead ++ ' ' :: shownName o e ++ mark ++ arrow ++ [ends])
  | 'm' => if entries ≠ [] then print (withCommas (lineWidth o) 0 (entries.map text) ++ ['\n'])
  | 'C' => for line in inColumns false (lineWidth o) (entries.map text) do print (line ++ ['\n'])
  | 'x' => for line in inColumns true (lineWidth o) (entries.map text) do print (line ++ ['\n'])
  | _ => for e in entries do print ((text e).1 ++ [ends])

/-- The part of a name after its last dot. -/
def extension (name : Octets) : Octets :=
  if name.contains '.' then '.' :: (name.reverse.takeWhile (· ≠ '.')).reverse else []

/-- Entries in the order that is asked for. -/
def ordered (o : Options) (entries : List Entry) : List Entry :=
  let byName (a b : Entry) : Bool := Octets.isAtMost a.name b.name
  let named := entries.mergeSort byName
  let key := match o.value? '$' with
    | some w => match Octets.text w with
      | "none" => 'U'
      | "time" => 't'
      | "size" => 'S'
      | "extension" => 'X'
      | "version" => 'v'
      | _ => 'n'
    | none => (o.last? "UtSXvf").getD 'n'
  let sorted := match key with
    | 'U' | 'f' => entries
    | 't' => named.mergeSort fun a b => decide (modifiedOf b.node ≤ modifiedOf a.node)
    | 'S' => named.mergeSort fun a b => decide (sizeOf b.node ≤ sizeOf a.node)
    | 'X' => named.mergeSort fun a b => (extension a.name).isAtMost (extension b.name)
    | _ => named
  let sorted := if o.has 'r' && key ≠ 'U' then sorted.reverse else sorted
  if o.has '%' then
    sorted.filter (fun e => e.node.isDirectory || (e.goal?.any Node.isDirectory)) ++
      sorted.filter (fun e => !(e.node.isDirectory || (e.goal?.any Node.isDirectory)))
  else sorted

def matchesPattern (anyCase : Bool) (pattern text : Octets) : Bool :=
  let fold (t : Octets) : Octets := if anyCase then t.map Char.toLower else t
  (Pattern.ofText ((fold pattern).map fun c => (c, false))).matchesText (fold text)

/-- The entries of a directory that are shown. -/
def shownEntries (o : Options) (site : Site) (directory : Octets) (entries : Entries) (mode : Nat) :
    List Entry :=
  let all : List Entry := entries.map fun (name, node) =>
    let name := Octets.ofString name
    let goal := match node with
      | .link _ => (site.node (path (inside directory name))).toOption
      | _ => none
    let node := if o.has 'L' then goal.getD node else node
    ⟨name, node, goal⟩
  let every := o.has 'a' || o.has 'f'
  let above := (site.node (path (inside directory ['.', '.']))).toOption.getD (.directory [])
  let dots : List Entry :=
    if every then [⟨['.'], .directory entries mode, none⟩, ⟨['.', '.'], above, none⟩] else []
  let hidden (name : Octets) : Bool :=
    (o.values 'I').any (fun p => matchesPattern false p name) ||
      (!every && !o.has 'A' && ((o.values '!').any fun p => matchesPattern false p name)) ||
      (o.has 'B' && name.getLast? = some '~')
  let visible := all.filter fun e => (every || o.has 'A' || e.name.head? ≠ some '.') && !hidden e.name
  ordered o (dots ++ visible)

/-- How deep a listing goes. -/
def maxDepth : Nat := 256

/-- Writes the entries of a directory, and those of the directories in it if that is asked for. -/
def printDirectoryEntries (o : Options) (titled : Bool) :
    (depth : Nat) → (first : Bool) → Octets → Entries → (mode : Nat) → Tool Unit
  | 0, _, _, _, _ => return
  | depth + 1, first, title, entries, mode => do
    let site ← site
    if (site.find true (path title)).toOption.any fun found => !site.allows .read found.1 then
      complainWith 2 ("cannot open directory " ++ quoted title ++ ": " ++ Fault.permissionDenied.reason)
      return
    let shown := shownEntries o site title entries mode
    if !first then printLine []
    if titled then printLine (title ++ [':'])
    if isLong o || o.has 's' then
      let blocks := shown.foldl (fun n e => n + blocksOf e.node) 0
      let total := if o.has 'h' then humanSize (blocks * 512) else Octets.ofNat (blocks / 2)
      printLine ("total ".toList ++ total)
    printEntries o shown
    if o.has 'R' then
      for e in shown do
        match e.node with
        | .directory inner mode =>
          if e.name ≠ ['.'] && e.name ≠ ['.', '.'] then
            printDirectoryEntries o titled depth false (inside title e.name) inner mode
        | _ => pure ()

def list (arguments : List Octets) : Tool Unit :=
  withOptions
    { letters := "1aAdFprRlthCxmnsiSXvUfgoGLHQNbqkBcuZ", valued := "wI!$~T", optional := "#F"
      long := [("all", 'a'), ("almost-all", 'A'), ("directory", 'd'), ("recursive", 'R'),
        ("reverse", 'r'), ("color", '#'), ("classify", 'F'), ("file-type", '/'), ("human-readable", 'h'),
        ("inode", 'i'), ("size", 's'), ("ignore", 'I'), ("hide", '!'), ("ignore-backups", 'B'),
        ("sort", '$'), ("time-style", '~'), ("full-time", '='), ("group-directories-first", '%'),
        ("dereference", 'L'), ("dereference-command-line", 'H'), ("quote-name", 'Q'), ("literal", 'N'),
        ("escape", 'b'), ("hide-control-chars", 'q'), ("width", 'w'), ("zero", '0'),
        ("no-group", 'G'), ("numeric-uid-gid", 'n'), ("kibibytes", 'k'), ("show-control-chars", 'N'),
        ("tabsize", 'T')] } 2
    (arguments.map fun a => if a = "-F".toList then "--classify".toList else a) fun o => do
      let site ← site
      let operands := if o.operands = [] then [['.']] else o.operands
      let mut files : Array Entry := #[]
      let mut directories : Array Entry := #[]
      let follows := o.has 'L' || o.has 'H' || !(o.has 'd' || isLong o || o.has 'F')
      for a in operands do
        let lasting := (site.find false (path a)).toOption
        match site.find follows (path a) with
        | .error cause =>
          match lasting with
          | some (_, node) =>
            if o.has 'L' then complainWith 2 ("cannot access " ++ quoted a ++ ": " ++ cause.reason)
            else files := files.push ⟨a, node, none⟩
          | none => complainWith 2 ("cannot access " ++ quoted a ++ ": " ++ cause.reason)
        | .ok (_, .directory entries mode) =>
          if o.has 'd' then files := files.push ⟨a, .directory entries mode, none⟩
          else directories := directories.push ⟨a, .directory entries mode, none⟩
        | .ok (_, node) =>
          let goal := match node with
            | .link _ => (site.node (path a)).toOption
            | _ => none
          files := files.push ⟨a, node, goal⟩
      printEntries o (ordered o files.toList)
      let names := ordered o directories.toList
      let titled := operands.length > 1 || o.has 'R'
      let mut first := files.isEmpty
      for e in names do
        match e.node with
        | .directory entries mode => printDirectoryEntries o titled maxDepth first e.name entries mode
        | _ => pure ()
        first := false

/-- Sets a fact as the flags and the width before it ask for. -/
def setFact (flags : Octets) (width : Nat) (precision : Option Nat) (text : Octets) : Octets :=
  let text := (precision.map text.take).getD text
  let fill := List.replicate (width - text.length) (if flags.contains '0' then '0' else ' ')
  if flags.contains '-' then text ++ List.replicate (width - text.length) ' ' else fill ++ text

/-- A fact about a node. -/
def fact (site : Site) (name : Octets) (node : Node) (c : Char) : Option Octets :=
  let moment (m : Int) : Octets := formatDate m 40 "%F %T.%N %z".toList
  match c with
  | 'n' => some name
  | 'N' => some (Octets.ofString (match node with
      | .link target => quoted name ++ " -> " ++ quoted (Octets.ofString target.text)
      | _ => quoted name))
  | 's' => some (Octets.ofNat (sizeOf node))
  | 'F' => some (Octets.ofString (fileKind node))
  | 'a' => some (Permissions.digits 1 node.mode)
  | 'A' => some (modeLetters node)
  | 'f' =>
    let kind := match kindLetter node with
      | 'd' => 0o40000
      | 'l' => 0o120000
      | 'p' => 0o10000
      | 'c' => 0o20000
      | _ => 0o100000
    some (Nat.toDigits 16 (kind + node.mode))
  | 'h' => some (Octets.ofNat (linkCount site node))
  | 'i' => some (match node with
      | .file _ a => Octets.ofNat a.identity
      | _ => ['1'])
  | 'b' => some (Octets.ofNat (blocksOf node))
  | 'B' => some "512".toList
  | 'o' => some "4096".toList
  | 'u' | 'g' | 't' | 'T' => some ['0']
  | 'U' | 'G' => some "root".toList
  | 'Y' | 'X' | 'Z' | 'W' => some (Octets.ofInt ((modifiedOf node).fdiv Calendar.second))
  | 'y' | 'x' | 'z' | 'w' => some (moment (modifiedOf node))
  | 'm' => some ['/']
  | 'd' | 'D' => some ['1']
  | 'C' => some ['?']
  | _ => none

/-- Fills in a format of facts about a file. -/
def describe (site : Site) (name : Octets) (node : Node) (escapes : Bool) : (steps : Nat) → Octets → Octets
  | 0, _ => []
  | _, [] => []
  | steps + 1, '%' :: rest =>
    let flags := rest.takeWhile fun c => "#0+- ".toList.contains c
    let after := rest.drop flags.length
    let digits := after.takeWhile Char.isDigit
    let after := after.drop digits.length
    let (precision, after) := match after with
      | '.' :: more =>
        let digits := more.takeWhile Char.isDigit
        (some (Octets.natOf 10 digits), more.drop digits.length)
      | _ => (none, after)
    let (modifier, after) := match after with
      | 'H' :: d :: more => if d = 'd' || d = 'r' then (['H'], d :: more) else ([], after)
      | 'L' :: d :: more => if d = 'd' || d = 'r' then (['L'], d :: more) else ([], after)
      | _ => ([], after)
    match after with
    | '%' :: more => '%' :: describe site name node escapes steps more
    | c :: more =>
      let text := match fact site name node c with
        | some text => setFact flags (Octets.natOf 10 digits) precision text
        | none => if modifier = [] then ['?'] else ['0']
      text ++ describe site name node escapes steps more
    | [] => '%' :: rest
  | steps + 1, '\\' :: c :: rest =>
    if escapes then
      match Format.escape? (c :: rest) with
      | some (d, rest) => d :: describe site name node escapes steps rest
      | none => c :: describe site name node escapes steps rest
    else '\\' :: describe site name node escapes steps (c :: rest)
  | steps + 1, c :: rest => c :: describe site name node escapes steps rest

def status (arguments : List Octets) : Tool Unit :=
  withOptions
    { letters := "Lft", valued := "c#"
      long := [("format", 'c'), ("printf", '#'), ("dereference", 'L'), ("file-system", 'f'), ("terse", 't')] }
    1 arguments fun o => do
      if o.operands = [] then misuse 1 "missing operand"
      for a in o.operands do
        let site ← site
        match site.find (o.has 'L') (path a) with
        | .error cause => complain ("cannot statx " ++ quoted a ++ ": " ++ cause.reason)
        | .ok (_, node) =>
          match o.last? "c#" with
          | some '#' =>
            let format := (o.value? '#').getD []
            print (describe site a node true (format.length + 1) format)
          | some _ =>
            let format := (o.value? 'c').getD []
            printLine (describe site a node false (format.length + 1) format)
          | none =>
            let full := "  File: %n\n  Size: %-10s\tBlocks: %-10b IO Block: %-6o %F\nDevice: 0,1\tInode: %-11i Links: %h\nAccess: (%04a/%A)  Uid: (    0/    root)   Gid: (    0/    root)\nAccess: %x\nModify: %y\nChange: %z\n Birth: %w\n".toList
            print (describe site a node false (full.length + 1) full)

end ScopedCheck.Script.Tool
