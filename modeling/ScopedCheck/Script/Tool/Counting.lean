import ScopedCheck.Script.Tool.Filters

namespace ScopedCheck.Script.Tool

structure Counts where
  lines : Nat := 0
  words : Nat := 0
  characters : Nat := 0
  bytes : Nat := 0
  /-- The greatest width of a line. -/
  width : Nat := 0

/-- The greatest width of the lines. A tab goes on to the next multiple of eight. -/
def greatestWidth (text : List Char) : Nat :=
  let (here, greatest) := text.foldl (fun (here, greatest) c =>
    if c = '\n' || c = '\r' || c = '\x0c' then (0, max greatest here)
    else if c = '\t' then ((here / 8 + 1) * 8, greatest)
    else if Octets.isDamaged c || Octets.isLone c then (here, greatest)
    else (here + Letters.width c, greatest)) (0, 0)
  max here greatest

def countWords (text : Octets) : Nat :=
  (text.foldl (fun (inside, n) c =>
    if Octets.isSpace c then (false, n) else (true, if inside then n else n + 1)) (false, 0)).2

def Counts.of (content : Octets) : Counts :=
  let cs := Octets.toChars content
  { lines := content.count '\n', words := countWords content
    characters := (cs.filter (!Octets.isDamaged ·)).length, bytes := content.length
    width := greatestWidth cs }

def Counts.add (a b : Counts) : Counts :=
  ⟨a.lines + b.lines, a.words + b.words, a.characters + b.characters, a.bytes + b.bytes,
    max a.width b.width⟩

/-- The counts that options ask for. -/
def Counts.columns (o : Options) (c : Counts) : List Nat :=
  let whole := !"lwcmL".toList.any o.has
  (if whole || o.has 'l' then [c.lines] else []) ++ (if whole || o.has 'w' then [c.words] else []) ++
    (if o.has 'm' then [c.characters] else []) ++ (if whole || o.has 'c' then [c.bytes] else []) ++
    (if o.has 'L' then [c.width] else [])

/-- The size of what an operand names, if that is a file that keeps its content. -/
def sizeBefore? (operand : Octets) : Tool (Option (Option Nat)) := do
  let s ← get
  if isInput operand then
    return some (s.source?.map fun (_, offset) => offset + s.input.length)
  else match s.site.node (path operand) with
    | .ok (.file content attributes) =>
      return some (if attributes.kind = .regular then some content.length else none)
    | .ok _ => return some none
    | .error _ => return none

/-- How wide the columns are: as wide as the sizes of the files ask for, and wide where the size of
an input is not known beforehand. -/
def countWidth (o : Options) (operands : List Octets) : Tool Nat := do
  if operands.length = 1 && (({} : Counts).columns o).length = 1 then return 1
  let mut total := 0
  let mut least := 1
  for operand in operands do
    match ← sizeBefore? operand with
    | some (some size) => total := total + size
    | some none => least := 7
    | none => pure ()
  return max least (Octets.ofNat total).length

/-- Counts lines, words and bytes. -/
def count (arguments : List Octets) : Tool Unit :=
  withOptions
    { letters := "lwcmL", valued := "tF"
      long := [("lines", 'l'), ("words", 'w'), ("bytes", 'c'), ("chars", 'm'),
        ("max-line-length", 'L'), ("total", 't'), ("files0-from", 'F')] }
    1 arguments fun o => do
      let listed ← match o.value? 'F' with
        | some list => match ← read list with
          | .ok names => pure ((Text.split '\x00' names).filter (· ≠ []))
          | .error cause =>
            complain ("cannot open " ++ quoted list ++ " for reading: " ++ cause.reason)
            return
        | none => pure []
      let operands := if (o.value? 'F').isSome then listed else o.operands
      let all := if operands = [] then [['-']] else operands
      let width ← countWidth o all
      let row (c : Counts) (name : Octets) : Octets :=
        [' '].intercalate ((c.columns o).map fun n => padLeft width (Octets.ofNat n)) ++
          (if name = [] then [] else ' ' :: name)
      let mut total : Counts := {}
      let only := o.value? 't' = some "only".toList
      for operand in all do
        let name := if operands = [] then [] else operand
        match ← read operand with
        | .ok content =>
          let found := Counts.of content
          total := total.add found
          if !only then printLine (row found name)
        | .error cause =>
          complain (named operand ++ ": " ++ cause.reason)
          if cause = .isDirectory && !only then printLine (row {} name)
      if only then printLine ([' '].intercalate ((total.columns o).map Octets.ofNat))
      else if o.value? 't' ≠ some "never".toList &&
          (all.length > 1 || o.value? 't' = some "always".toList) then
        printLine (row total "total".toList)

/-- Runs of lines that count as equal. -/
def runs (key : Octets → Octets) (lines : List Octets) : List (List Octets) :=
  (lines.foldr (fun line groups =>
    match groups with
    | (k, group) :: rest =>
      if key line = k then (k, line :: group) :: rest else (key line, [line]) :: groups
    | [] => [(key line, [line])]) []).map Prod.snd

/-- What counts of a line: fields and characters at the front may be left out, and only so many
characters may count. -/
def keyOf (o : Options) (fields characters : Nat) (width : Option Nat) (line : Octets) : Octets :=
  let isBlank (c : Char) : Bool := c = ' ' || c = '\t'
  let past := (List.range fields).foldl (fun (text : Octets) _ =>
    (text.dropWhile isBlank).dropWhile (!isBlank ·)) line
  let rest := past.drop characters
  let rest := match width with
    | some n => rest.take n
    | none => rest
  if o.has 'i' then rest.map Char.toLower else rest

/-- The groups of lines with empty lines before, after or between them. -/
def separateGroups (method : Octets) (ends : Char) (groups : List (List Octets)) : Octets :=
  let texts := groups.map fun group => group.flatMap (· ++ [ends])
  match Octets.text method with
  | "prepend" => texts.flatMap fun text => ends :: text
  | "append" => texts.flatMap fun text => text ++ [ends]
  | "separate" => [ends].intercalate texts
  | "both" => if texts = [] then [] else ends :: texts.flatMap fun text => text ++ [ends]
  | _ => texts.flatten

def uniqueLines (o : Options) (fields characters : Nat) (width : Option Nat) (content : Octets) : Octets :=
  let ends := lineEnd o
  let groups := runs (keyOf o fields characters width) (linesOf o content)
  match o.value? 'G', o.value? 'D' with
  | some method, _ => separateGroups (if method = [] then "separate".toList else method) ends groups
  | none, some method => separateGroups method ends (groups.filter fun g => g.length > 1)
  | none, none =>
    (groups.filter fun g => (!o.has 'd' || g.length > 1) && (!o.has 'u' || g.length = 1)).flatMap fun g =>
      (if o.has 'c' then padLeft 7 (Octets.ofNat g.length) ++ [' '] else []) ++ g.headD [] ++ [ends]

def unique (arguments : List Octets) : Tool Unit :=
  withOptions
    { letters := "cduizDG", valued := "fsw", optional := "DG"
      long := [("count", 'c'), ("repeated", 'd'), ("unique", 'u'), ("ignore-case", 'i'),
        ("zero-terminated", 'z'), ("skip-fields", 'f'), ("skip-chars", 's'), ("check-chars", 'w'),
        ("all-repeated", 'D'), ("group", 'G')] }
    1 (arguments.map fun a => if a = "-D".toList then "--all-repeated".toList else a) fun o => do
      let wrong := [('f', "fields to skip"), ('s', "bytes to skip"), ('w', "bytes to compare")].findSome?
        fun (letter, what) => (o.value? letter).bind fun text =>
          if (natural? text).isNone then some (Octets.text text ++ ": invalid number of " ++ what) else none
      match wrong, o.operands with
      | some message, _ => complain message
      | none, _ :: _ :: extra :: _ => misuse 1 ("extra operand " ++ cited extra)
      | none, operands =>
        if (o.has 'D' || o.has 'd') && o.has 'c' && o.has 'D' then
          misuse 1 "printing all duplicated lines and repeat counts is meaningless"
        else
          let number (letter : Char) : Nat := ((o.value? letter).bind natural?).getD 0
          let source := operands.headD ['-']
          match ← read source with
          | .error .isDirectory => complain ("error reading " ++ quoted source)
          | .error cause => complain (named source ++ ": " ++ cause.reason)
          | .ok content =>
            let text := uniqueLines o (number 'f') (number 's') ((o.value? 'w').bind natural?) content
            match operands with
            | [_, target] =>
              if isInput target then print text
              else match ← writeFile (path target) text.toBytes none with
                | .ok () => pure ()
                | .error cause => complain (named target ++ ": " ++ cause.reason)
            | _ => print text

end ScopedCheck.Script.Tool
