import ScopedCheck.Script.Tool.Filters

namespace ScopedCheck.Script.Tool.Merging

/-- When the order of lines is checked: when a line without a partner was met, always, or never. -/
inductive Check where
  | lenient
  | strict
  | none
  deriving DecidableEq

/-- The part of a file that is still to come, and how far it has been read. -/
structure Stream where
  rest : List Octets
  /-- The lines read last, the very last first. -/
  past : List Octets := []
  number : Nat := 0
  /-- Whether a line out of order was told about. -/
  told : Bool := false

/-- Two files on the way to being merged. -/
structure Merge where
  first : Stream
  second : Stream
  /-- Whether a line without a partner was met. -/
  unpaired : Bool := false

def Merge.get (m : Merge) (second : Bool) : Stream := if second then m.second else m.first

def Merge.set (m : Merge) (second : Bool) (s : Stream) : Merge :=
  if second then { m with second := s } else { m with first := s }

/-- A merge that may be given up. -/
abbrev MergeTool := StateT Merge (ExceptT Unit Tool)

def say (text : Octets) : MergeTool Unit := do let _ ← (print text : Tool Unit)

/-- Ends the merge with a complaint. -/
def giveUp {α : Type} (message : String) : MergeTool α := do
  let _ ← (complain message : Tool Unit)
  throw ()

/-- Tells about a line out of order, unless it is not asked for or was done before. -/
def checkOrder (check : Check) (second : Bool) (ordered : Bool) (message : String) : MergeTool Unit := do
  let m ← get
  let s := m.get second
  if check ≠ .none && (check = .strict || m.unpaired) && !s.told && !ordered then
    if check = .strict then giveUp message
    else
      let _ ← (complain message : Tool Unit)
      set (m.set second { s with told := true })

/-- Runs a merge of two contents. -/
def merge (first second : List Octets) (run : MergeTool Unit) : Tool Unit := do
  let _ ← (run.run { first := { rest := first }, second := { rest := second } }).run

/-- Which columns there are, what stands between them, and how lines end. -/
structure Columns where
  first : Bool := true
  second : Bool := true
  both : Bool := true
  separator : Octets := ['\t']
  ends : Char := '\n'

/-- Leaves the line of a file and goes on to the next one. -/
def leaveLine (check : Check) (second : Bool) : MergeTool Unit := do
  let m ← get
  let s := m.get second
  match s.rest with
  | [] => return
  | line :: rest =>
    let number := if second then "2" else "1"
    let message := "file " ++ number ++ " is not in sorted order"
    set (m.set second { s with rest := rest, past := line :: s.past.take 1 })
    match rest, s.past with
    | next :: _, _ => checkOrder check second (line.isAtMost next) message
    | [], before :: _ => checkOrder check second (before.isAtMost line) message
    | [], [] => return

/-- Writes the lines of both files in columns, and counts what is in each column. -/
def columnLines (c : Columns) (check : Check) : (steps : Nat) → Nat × Nat × Nat → MergeTool (Nat × Nat × Nat)
  | 0, counts => return counts
  | steps + 1, (first, second, both) => do
    let m ← get
    let write (shown : Bool) (columns : List Bool) (line : Octets) : MergeTool Unit :=
      if shown then say ((columns.filter id).flatMap (fun _ => c.separator) ++ line ++ [c.ends]) else return
    let unpair : MergeTool Unit := modify fun m => { m with unpaired := true }
    let onlyFirst (line : Octets) : MergeTool (Nat × Nat × Nat) := do
      unpair
      write c.first [] line
      leaveLine check false
      columnLines c check steps (first + 1, second, both)
    let onlySecond (line : Octets) : MergeTool (Nat × Nat × Nat) := do
      unpair
      write c.second [c.first] line
      leaveLine check true
      columnLines c check steps (first, second + 1, both)
    match m.first.rest, m.second.rest with
    | [], [] => return (first, second, both)
    | a :: _, [] => onlyFirst a
    | [], b :: _ => onlySecond b
    | a :: _, b :: _ =>
      if a = b then
        write c.both [c.first, c.second] b
        leaveLine check false
        leaveLine check true
        columnLines c check steps (first, second, both + 1)
      else if a < b then onlyFirst a
      else onlySecond b

/-- The two operands, or a complaint about their number. -/
def twoOperands (extra : Octets → String) (lastWord : Octets) (operands : List Octets)
    (use : Octets → Octets → Tool Unit) : Tool Unit := do
  match operands with
  | [a, b] => use a b
  | [] => misuse 1 "missing operand"
  | [_] => misuse 1 ("missing operand after " ++ cited lastWord)
  | _ :: _ :: more :: _ => misuse 1 ("extra operand " ++ extra more)

/-- Tells which lines of two sorted files are in one only or in both. -/
def common (arguments : List Octets) : Tool Unit :=
  withOptions
    { letters := "123zcnT", valued := "\x01"
      long := [("check-order", 'c'), ("nocheck-order", 'n'), ("output-delimiter", '\x01'),
        ("total", 'T'), ("zero-terminated", 'z')] }
    1 arguments fun o => do
      let delimiters := o.values '\x01'
      if delimiters.any (· ≠ delimiters.headD []) then complain "multiple output delimiters specified"
      else twoOperands cited (arguments.getLast?.getD []) o.operands fun a b => do
        match ← read a with
        | .error cause => complain (named a ++ ": " ++ cause.reason)
        | .ok first =>
          match ← read b with
          | .error cause => complain (named b ++ ": " ++ cause.reason)
          | .ok second =>
            let separator := match delimiters with
              | [] => ['\t']
              | d :: _ => if d = [] then ['\x00'] else d
            let c : Columns := ⟨!o.has '1', !o.has '2', !o.has '3', separator, lineEnd o⟩
            let check := match o.last? "cn" with
              | some 'c' => Check.strict
              | some _ => .none
              | none => .lenient
            let (firsts, seconds) := (linesOf o first, linesOf o second)
            merge firsts seconds do
              let (x, y, z) ← columnLines c check (firsts.length + seconds.length + 1) (0, 0, 0)
              if o.has 'T' then
                say (Octets.ofNat x ++ separator ++ Octets.ofNat y ++ separator ++ Octets.ofNat z ++
                  separator ++ "total".toList ++ [c.ends])
              let m ← get
              if m.first.told || m.second.told then giveUp "input is not in sorted order"

/-- A field of the output: the common one, or one of a file. -/
inductive Column where
  | key
  | field (second : Bool) (number : Nat)

/-- How lines are joined. -/
structure Join where
  /-- The field that is compared, counted from zero, in each file. -/
  keys : Nat × Nat := (0, 0)
  /-- What fields end in; without it blanks do. -/
  separator? : Option Char := none
  anyCase : Bool := false
  filler : Octets := []
  columns : List Column := []
  /-- How many fields each line has in the output, where that is fixed. -/
  counts? : Option (Nat × Nat) := none
  showsPairs : Bool := true
  showsFirst : Bool := false
  showsSecond : Bool := false
  header : Bool := false
  check : Check := .lenient
  ends : Char := '\n'
  names : Octets × Octets := ([], [])

/-- The fields of a line between blanks; blanks at the end make an empty one more. -/
def blankFields : (steps : Nat) → Octets → List Octets
  | 0, _ => []
  | steps + 1, text =>
    let isBlank (c : Char) : Bool := c = ' ' || c = '\t' || c = '\n'
    let field := text.takeWhile (!isBlank ·)
    match text.drop field.length with
    | [] => [field]
    | _ :: rest => field :: blankFields steps (rest.dropWhile isBlank)

def Join.fields (j : Join) (line : Octets) : List Octets :=
  match j.separator? with
  | some '\n' => if line = [] then [] else [line]
  | some c => if line = [] then [] else Text.split c line
  | none =>
    match line.dropWhile fun c => c = ' ' || c = '\t' with
    | [] => []
    | text => blankFields (text.length + 1) text

def Join.keyOf (j : Join) (second : Bool) (line : Octets) : Octets :=
  let key := (j.fields line).getD (if second then j.keys.2 else j.keys.1) []
  if j.anyCase then key.map Char.toUpper else key

/-- The line that two lines make together; one of them may be missing. -/
def Join.line (j : Join) (first? second? : Option Octets) : Octets :=
  let fields (line? : Option Octets) : List Octets := (line?.map j.fields).getD []
  let (firsts, seconds) := (fields first?, fields second?)
  let shown (all : List Octets) (n : Nat) : Octets :=
    match all[n]? with
    | some (c :: cs) => c :: cs
    | _ => j.filler
  let key := if first?.isSome then shown firsts j.keys.1 else shown seconds j.keys.2
  let others (all : List Octets) (key : Nat) (count? : Option Nat) : List Octets :=
    ((List.range (count?.getD all.length)).filter (· ≠ key)).map (shown all)
  let parts := match j.columns with
    | [] => key :: others firsts j.keys.1 (j.counts?.map Prod.fst) ++
        others seconds j.keys.2 (j.counts?.map Prod.snd)
    | columns => columns.map fun
      | .key => key
      | .field second n => shown (if second then seconds else firsts) n
  [j.separator?.getD ' '].intercalate parts ++ [j.ends]

/-- Takes the next line of a file. -/
def takeLine (j : Join) (second : Bool) : MergeTool (Option Octets) := do
  let m ← get
  let s := m.get second
  match s.rest with
  | [] => return none
  | line :: rest =>
    let number := s.number + 1
    set (m.set second { s with rest := rest, past := [line], number := number })
    match s.past with
    | before :: _ =>
      let name := if second then j.names.2 else j.names.1
      checkOrder j.check second ((j.keyOf second before).isAtMost (j.keyOf second line))
        (Octets.text name ++ ":" ++ toString number ++ ": is not sorted: " ++ Octets.text line)
    | [] => pure ()
    return some line

/-- Takes lines as long as they have a key; the first one that has another is the next. -/
def takeEqual (j : Join) (second : Bool) (key : Octets) :
    (steps : Nat) → MergeTool (List Octets × Option Octets)
  | 0 => return ([], none)
  | steps + 1 => do
    match ← takeLine j second with
    | none => return ([], none)
    | some line =>
      if j.keyOf second line = key then
        let (more, next) ← takeEqual j second key steps
        return (line :: more, next)
      else return ([], some line)

/-- Joins the lines from two lines on, and gives the lines that are left where one file has ended. -/
def joinLines (j : Join) : (steps : Nat) → Option Octets → Option Octets →
    MergeTool (Option Octets × Option Octets)
  | 0, first?, second? => return (first?, second?)
  | steps + 1, first?, second? => do
    match first?, second? with
    | some a, some b =>
      let (keyA, keyB) := (j.keyOf false a, j.keyOf true b)
      let unpair : MergeTool Unit := modify fun m => { m with unpaired := true }
      if keyA = keyB then
        let m ← get
        let (as, nextA) ← takeEqual j false keyA (m.first.rest.length + 1)
        let (bs, nextB) ← takeEqual j true keyA (m.second.rest.length + 1)
        if j.showsPairs then
          for x in a :: as do
            for y in b :: bs do say (j.line (some x) (some y))
        joinLines j steps nextA nextB
      else if keyA < keyB then
        if j.showsFirst then say (j.line (some a) none)
        let next ← takeLine j false
        unpair
        joinLines j steps next (some b)
      else
        if j.showsSecond then say (j.line none (some b))
        let next ← takeLine j true
        unpair
        joinLines j steps (some a) next
    | _, _ => return (first?, second?)

/-- Goes through what is left of one file. -/
def finish (j : Join) (second : Bool) : (steps : Nat) → MergeTool Unit
  | 0 => return
  | steps + 1 => do
    let shows := if second then j.showsSecond else j.showsFirst
    match ← takeLine j second with
    | none => return
    | some line =>
      if shows then say (if second then j.line none (some line) else j.line (some line) none)
      if ((← get).get second).told && !shows then return
      finish j second steps

def joinAll (j : Join) : MergeTool Unit := do
  let a ← takeLine j false
  let b ← takeLine j true
  let m ← get
  let steps := m.first.rest.length + m.second.rest.length + 2
  let (a, b) ← if j.header && (a.isSome || b.isSome) then do
      say (j.line (some (a.getD [])) (some (b.getD [])))
      modify fun m => { m with first := { m.first with past := [] }, second := { m.second with past := [] } }
      let a ← takeLine j false
      let b ← takeLine j true
      pure (a, b)
    else pure (a, b)
  let (a, b) ← joinLines j steps a b
  let m ← get
  let checks := j.check ≠ .none && !(m.first.told && m.second.told)
  let unpair (other : Option Octets) : MergeTool Unit :=
    if other.isSome then modify fun m => { m with unpaired := true } else return
  if let some line := a then
    if j.showsFirst || checks then
      if j.showsFirst then say (j.line (some line) none)
      unpair b
      finish j false steps
  if let some line := b then
    if j.showsSecond || checks then
      if j.showsSecond then say (j.line none (some line))
      unpair a
      finish j true steps
  let m ← get
  if m.first.told || m.second.told then giveUp "input is not in sorted order"

/-- What the options of a join say so far. -/
structure Wishes where
  join : Join := {}
  key1? : Option Nat := none
  key2? : Option Nat := none
  filler? : Option Octets := none
  fits : Bool := false

/-- A field number, counted from zero. -/
def fieldNumber (text : Octets) : Except String Nat :=
  match natural? text with
  | none | some 0 => .error ("invalid field number: " ++ cited text)
  | some n => .ok (n - 1)

def setKey (known : Option Nat) (key : Nat) : Except String (Option Nat) :=
  match known with
  | some k =>
    if k = key then .ok known
    else .error ("incompatible join fields " ++ toString k ++ ", " ++ toString key)
  | none => .ok (some key)

def readColumn (text : Octets) : Except String Column :=
  match text with
  | ['0'] => .ok .key
  | '0' :: _ => .error ("invalid field specifier: " ++ cited text)
  | c :: rest =>
    if c = '1' || c = '2' then
      match rest with
      | '.' :: number => (fieldNumber number).map (.field (c = '2'))
      | _ => .error ("invalid field specifier: " ++ cited text)
    else .error ("invalid file number in field spec: " ++ cited text)
  | [] => .error ("invalid file number in field spec: " ++ cited text)

def readColumns (text : Octets) : Except String (List Column) :=
  let spaced := text.map fun c => if c = ',' || c = '\t' then ' ' else c
  (Text.split ' ' spaced).mapM readColumn

/-- The character that separates fields; nothing keeps lines whole. -/
def readSeparator (text : Octets) : Except String Char :=
  match text with
  | [] => .ok '\n'
  | [c] => .ok c
  | _ =>
    if text = "\\0".toList then .ok '\x00' else .error ("multi-character tab " ++ cited text)

def Wishes.withOption (w : Wishes) : Char × Octets → Except String Wishes
  | (letter, value) => do
    let j := w.join
    match letter with
    | 'a' | 'v' =>
      let n ← fieldNumber value
      let j := if letter = 'v' then { j with showsPairs := false } else j
      if n = 0 then return { w with join := { j with showsFirst := true } }
      else if n = 1 then return { w with join := { j with showsSecond := true } }
      else throw ("invalid field number: " ++ cited value)
    | 'e' =>
      if w.filler?.any (· ≠ value) then throw "conflicting empty-field replacement strings"
      else return { w with filler? := some value, join := { j with filler := value } }
    | 'i' => return { w with join := { j with anyCase := true } }
    | '1' => return { w with key1? := ← setKey w.key1? (← fieldNumber value) }
    | '2' => return { w with key2? := ← setKey w.key2? (← fieldNumber value) }
    | 'j' =>
      let n ← fieldNumber value
      let first ← setKey w.key1? n
      let second ← setKey w.key2? n
      return { w with key1? := first, key2? := second }
    | 'o' =>
      if value = "auto".toList then return { w with fits := true }
      else
        let columns ← readColumns value
        return { w with join := { j with columns := j.columns ++ columns } }
    | 't' =>
      let c ← readSeparator value
      if j.separator?.any (· ≠ c) then throw "incompatible tabs"
      else return { w with join := { j with separator? := some c } }
    | 'z' => return { w with join := { j with ends := '\x00' } }
    | 'H' => return { w with join := { j with header := true } }
    | 'c' => return { w with join := { j with check := .strict } }
    | _ => return { w with join := { j with check := .none } }

/-- The operands, without those at the front that go on with the columns of the output. -/
def columnOperands : (more : Bool) → Wishes → List Octets → Except String (Wishes × List Octets)
  | true, w, text :: rest =>
    if 2 ≤ rest.length then do
      let w ← w.withOption ('o', text)
      columnOperands true w rest
    else return (w, text :: rest)
  | _, w, operands => return (w, operands)

/-- Joins the lines of two sorted files that have a field in common. -/
def joinFiles (arguments : List Octets) : Tool Unit :=
  withOptions
    { letters := "izcnH", valued := "aev12jot"
      long := [("ignore-case", 'i'), ("check-order", 'c'), ("nocheck-order", 'n'),
        ("zero-terminated", 'z'), ("header", 'H')] }
    1 arguments fun o => do
      let found := do
        let w ← o.given.foldlM Wishes.withOption {}
        columnOperands (o.has 'o' && 2 < o.operands.length) w o.operands
      match found with
      | .error message => complain message
      | .ok (w, operands) =>
        twoOperands quoted (arguments.getLast?.getD []) operands fun a b => do
          let missing (name : Octets) (cause : Fault) : Tool Unit :=
            complain (if cause = .isDirectory then "read error: Is a directory"
              else named name ++ ": " ++ cause.reason)
          if a = ['-'] && b = ['-'] then
            complain ("both files cannot be standard input: " ++ Fault.notFound.reason)
          else match ← read a with
            | .error cause => missing a cause
            | .ok first =>
              match ← read b with
              | .error cause => missing b cause
              | .ok second =>
                let keys := (w.key1?.getD 0, w.key2?.getD 0)
                let j := { w.join with keys := keys, names := (a, b) }
                let records (text : Octets) : List Octets :=
                  (Octets.records j.ends text).map (chompEnd j.ends)
                let (firsts, seconds) := (records first, records second)
                let count (lines : List Octets) : Nat := (j.fields (lines.headD [])).length
                let j := if w.fits then { j with counts? := some (count firsts, count seconds) } else j
                merge firsts seconds (joinAll j)

end ScopedCheck.Script.Tool.Merging
