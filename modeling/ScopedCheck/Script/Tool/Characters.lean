import ScopedCheck.Script.Pattern
import ScopedCheck.Script.Tool.Filters

namespace ScopedCheck.Script.Tool

/-- What stands in a set: some characters, a class that has a name, or a character again and again. -/
inductive SetPart where
  | members (cs : Octets)
  | named (name : String)
  | again (c : Char) (count : Option Nat)

def SetPart.chars : SetPart → Octets
  | members cs => cs
  | named name =>
    let test := (Pattern.classes.lookup name).getD fun _ => false
    ((List.range 256).map Char.ofNat).filter test
  | again c count => List.replicate (count.getD 0) c

/-- One character of a set, perhaps written by an escape. -/
def setChar (text : Octets) : Option (Char × Octets) :=
  match text with
  | [] => none
  | '\\' :: rest =>
    match rest with
    | [] => some ('\\', [])
    | d :: more =>
      let digits := (rest.take 3).takeWhile (Octets.isDigitOf 8)
      let digits := if Octets.natOf 8 digits < 256 then digits else digits.take 2
      if digits ≠ [] then some (Char.ofNat (Octets.natOf 8 digits), rest.drop digits.length)
      else
        let named : List (Char × Char) :=
          [('n', '\n'), ('t', '\t'), ('r', '\r'), ('f', '\x0c'), ('v', '\x0b'), ('a', '\x07'), ('b', '\x08')]
        some ((named.lookup d).getD d, more)
  | c :: rest => some (c, rest)

/-- A class, an equivalence or a repetition in brackets, and what comes after it. -/
def bracketed? (text : Octets) : Except String (Option (SetPart × Octets)) :=
  match text with
  | '[' :: ':' :: rest =>
    let name := rest.takeWhile fun c => c ≠ ':' && c ≠ ']'
    match rest.drop name.length with
    | ':' :: ']' :: after =>
      if (Pattern.classes.lookup (String.ofList name)).isSome then
        .ok (some (.named (String.ofList name), after))
      else .error ("invalid character class " ++ cited name)
    | _ => .ok none
  | '[' :: '=' :: c :: '=' :: ']' :: after => .ok (some (.members [c], after))
  | '[' :: rest =>
    match setChar rest with
    | some (c, '*' :: more) =>
      let digits := more.takeWhile Char.isDigit
      match more.drop digits.length with
      | ']' :: after =>
        let count := Octets.natOf (if digits.head? = some '0' then 8 else 10) digits
        .ok (some (.again c (if count = 0 then none else some count), after))
      | _ => .ok none
    | _ => .ok none
  | _ => .ok none

def readSet : (steps : Nat) → Octets → Except String (List SetPart)
  | 0, _ => .ok []
  | _, [] => .ok []
  | steps + 1, text => do
    match ← bracketed? text with
    | some (part, after) => return part :: (← readSet steps after)
    | none =>
      match setChar text with
      | none => return []
      | some (c, rest) =>
        match rest with
        | '-' :: (d :: more) =>
          match setChar (d :: more) with
          | some (high, after) =>
            if high < c then
              throw ("range-endpoints of '" ++ Octets.text (text.take (text.length - after.length)) ++
                "' are in reverse collating sequence order")
            let range := (List.range (high.toNat + 1 - c.toNat)).map fun n => Char.ofNat (c.toNat + n)
            return .members range :: (← readSet steps after)
          | none => return [.members [c]]
        | _ => return .members [c] :: (← readSet steps rest)

def setOf (text : Octets) : Except String (List SetPart) := readSet (text.length + 1) text

def charsOf (parts : List SetPart) : Octets := parts.flatMap SetPart.chars

/-- The characters of a second set. A character without a count is repeated as often as it takes to
make the set as long as the first one. -/
def charsFor (length : Nat) (parts : List SetPart) : Octets :=
  let missing := length - (charsOf parts).length
  parts.flatMap fun part => match part with
    | .again c none => List.replicate missing c
    | part => part.chars

/-- Keeps one of each run of a character that is in the set. -/
def squeeze (set : Array Bool) (text : Octets) : Octets :=
  let kept := text.foldl (fun (kept : Octets) c =>
    if kept.head? = some c && set.getD c.toNat false then kept else c :: kept) []
  kept.reverse

/-- Which characters are in a set. -/
def marks (cs : Octets) : Array Bool :=
  cs.foldl (fun table c => table.set! c.toNat true) (Array.replicate 256 false)

/-- What is written in the place of each character: for one that is in the first set several times
the last place counts, and the second set goes on with its last character. -/
def replacements (first second : Octets) : Array Char :=
  let last := second.getLast?.getD ' '
  let padded := second ++ List.replicate (first.length - second.length) last
  (first.zip padded).foldl (fun table (c, d) => table.set! c.toNat d)
    ((List.range 256).map Char.ofNat).toArray

/-- What is wrong with the operands. -/
def translationFault? (o : Options) : Option String :=
  let shown (n : Nat) : String := cited (o.operands[n]?.getD [])
  let deletes := o.has 'd'
  let squeezes := o.has 's'
  let last := o.operands.length - 1
  let least := if deletes = squeezes then 2 else 1
  let most := if deletes && !squeezes then 1 else 2
  if o.operands = [] then some "missing operand"
  else if o.operands.length < least then
    some ("missing operand after " ++ shown last ++ "\nTwo strings must be given when " ++
      (if squeezes then "both deleting and squeezing repeats." else "translating."))
  else if most < o.operands.length then
    some ("extra operand " ++ shown most ++
      (if o.operands.length = 2 then
        "\nOnly one string may be given when deleting without squeezing repeats." else ""))
  else none

/-- What is wrong with the second set of a translation. -/
def targetFault? (o : Options) (first second : List SetPart) (size : Nat) : Option String :=
  let isCase (name : String) : Bool := name = "upper" || name = "lower"
  let classes (parts : List SetPart) : List String := parts.filterMap fun part => match part with
    | .named name => some name
    | _ => none
  if (classes second).any (!isCase ·) then
    some "when translating, the only character classes that may appear in\nstring2 are 'upper' and 'lower'"
  else if (classes second).length > ((classes first).filter isCase).length then
    some "misaligned [:upper:] and/or [:lower:] construct"
  else if size > 0 && charsFor size second = [] && !o.has 't' then
    some "when not truncating set1, string2 must be non-empty"
  else none

def translate (arguments : List Octets) : Tool Unit :=
  withOptions
    { letters := "cCdst", anywhere := false
      long := [("delete", 'd'), ("squeeze-repeats", 's'), ("complement", 'c'), ("truncate-set1", 't')] }
    1 arguments fun o => do
      match translationFault? o, o.operands.mapM setOf with
      | some fault, _ => misuse 1 fault
      | none, .error message => complain message
      | none, .ok [] => return
      | none, .ok (parts :: more) =>
        let given := charsOf parts
        let first := if o.has 'c' || o.has 'C' then
            let marked := marks given
            ((List.range 256).map Char.ofNat).filter fun c => !marked.getD c.toNat false
          else given
        let second := more.head?.getD []
        if o.has 'd' then
          let removed := marks first
          let kept := (← input).filter fun c => !removed.getD c.toNat false
          print (if o.has 's' then squeeze (marks (charsOf second)) kept else kept)
        else if more = [] then print (squeeze (marks first) (← input))
        else match targetFault? o parts second first.length with
          | some message => complain message
          | none =>
            let target := charsFor first.length second
            let first := if o.has 't' then first.take target.length else first
            let table := replacements first target
            let changed := (← input).map fun c => table.getD c.toNat c
            print (if o.has 's' then squeeze (marks target) changed else changed)

/-- A range of positions, counted from one. -/
structure Range where
  low : Nat
  high : Option Nat

def Range.contains (r : Range) (n : Nat) : Bool := r.low ≤ n && r.high.all (n ≤ ·)

/-- A range of a list that is being read: the number before the dash, that after it, and whether there
is a dash. -/
structure OpenRange where
  low? : Option Nat := none
  high? : Option Nat := none
  isDashed : Bool := false

/-- The greatest number is none that a list can name. -/
def maxPosition : Nat := 18446744073709551615

/-- One more digit of a range. -/
def OpenRange.digit (r : OpenRange) (c : Char) : OpenRange :=
  let grown (n? : Option Nat) : Option Nat := some (10 * n?.getD 0 + (c.toNat - 48))
  if r.isDashed then { r with high? := grown r.high? } else { r with low? := grown r.low? }

/-- How the numbers of a list are called: of fields, or of bytes. -/
structure PositionNames where
  plural : String
  range : String
  one : String
  large : String

def PositionNames.fields : PositionNames := ⟨"fields", "field range", "field value", "field number"⟩

def PositionNames.bytes : PositionNames :=
  ⟨"byte/character positions", "byte or character range", "byte/character position", "byte/character offset"⟩

/-- The range that is complete. -/
def OpenRange.finish (names : PositionNames) (r : OpenRange) : Except String Range :=
  match r.isDashed, r.low?, r.high? with
  | true, none, none => .error "invalid range with no endpoint: -"
  | true, low?, none => .ok ⟨low?.getD 1, none⟩
  | true, low?, some high =>
    if high < low?.getD 1 then .error "invalid decreasing range" else .ok ⟨low?.getD 1, some high⟩
  | false, low?, _ =>
    if low?.getD 0 = 0 then .error (names.plural ++ " are numbered from 1")
    else .ok ⟨low?.getD 0, low?⟩

/-- Reads a list of ranges such as `1,3-5,7-`. The digits of the number that is being read are kept. -/
def readRanges (names : PositionNames) : (r : OpenRange) → (digits : Octets) → Octets →
    Except String (List Range)
  | r, _, [] => (r.finish names).map fun range => [range]
  | r, digits, c :: rest =>
    if c = '-' then
      if r.isDashed then .error ("invalid " ++ names.range)
      else if r.low? = some 0 then .error (names.plural ++ " are numbered from 1")
      else readRanges names { r with isDashed := true } [] rest
    else if c = ',' || c = ' ' || c = '\t' then do
      let range ← r.finish names
      return range :: (← readRanges names {} [] rest)
    else if c.isDigit then
      let grown := r.digit c
      if maxPosition ≤ (if r.isDashed then grown.high? else grown.low?).getD 0 then
        .error (names.large ++ " " ++ cited (digits.reverse ++ c :: rest.takeWhile Char.isDigit) ++ " is too large")
      else readRanges names grown (c :: digits) rest
    else .error ("invalid " ++ names.one ++ " " ++ cited (c :: rest))

def selectFrom {α : Type} (chosen : Nat → Bool) (items : List α) : List α :=
  (items.zipIdx 1).filterMap fun (item, n) => if chosen n then some item else none

/-- The chosen characters, with a text between ranges that do not touch. -/
def selectWith (between : Octets) (chosen : Nat → Bool) (line : Octets) : Octets :=
  let picked := selectFrom (fun n => chosen n) (line.zipIdx 1)
  (picked.foldl (fun (last, text) (c, n) =>
    (n, if last ≠ 0 && last + 1 < n then c :: between.reverse ++ text else c :: text)) (0, [])).2.reverse

def cutGrammar : Options.Grammar :=
  { letters := "snzC", valued := "dfcbO"
    long := [("delimiter", 'd'), ("fields", 'f'), ("characters", 'c'), ("bytes", 'b'),
      ("only-delimited", 's'), ("complement", 'C'), ("output-delimiter", 'O'), ("zero-terminated", 'z')] }

/-- What is wrong with the options. -/
def cutFault? (o : Options) : Option String :=
  let lists := o.given.filter fun (letter, _) => "fcb".toList.contains letter
  if lists.length > 1 then some "only one list may be specified"
  else if lists = [] then some "you must specify a list of bytes, characters, or fields"
  else if (o.value? 'd').any fun d => d.length > 1 then some "the delimiter must be a single character"
  else if !o.has 'f' && o.has 'd' then
    some "an input delimiter may be specified only when operating on fields"
  else if !o.has 'f' && o.has 's' then
    some "suppressing non-delimited lines makes sense\n\tonly when operating on fields"
  else none

def cut (arguments : List Octets) : Tool Unit :=
  withOptions cutGrammar 1 arguments fun o => do
    let text := ((o.value? 'f') <|> (o.value? 'c') <|> (o.value? 'b')).getD []
    match cutFault? o, readRanges (if o.has 'f' then .fields else .bytes) {} [] text with
    | some fault, _ | none, .error fault => misuse 1 fault
    | none, .ok ranges =>
      let chosen (n : Nat) : Bool := (ranges.any fun r => r.contains n) != o.has 'C'
      let delimiter := (((o.value? 'd').map fun d => d.headD '\x00')).getD '\t'
      let ends := lineEnd o
      for (_, content) in ← contents 1 o.operands do
        for line in linesOf o content do
          if !o.has 'f' then
            print (selectWith ((o.value? 'O').getD []) chosen line ++ [ends])
          else if !line.contains delimiter then
            if !o.has 's' then print (line ++ [ends])
          else
            let joiner := (o.value? 'O').getD [delimiter]
            print (joiner.intercalate (selectFrom chosen (Text.split delimiter line)) ++ [ends])

/-- The column after a character. -/
def columnAfter (bytes : Bool) (column : Nat) (c : Char) : Nat :=
  if bytes then column + 1
  else match c with
    | '\t' => (column / 8 + 1) * 8
    | '\x08' => column - 1
    | '\r' => 0
    | _ => column + 1

/-- Breaks a line so that no piece is wider than asked for, at blanks if that is wanted. -/
def foldLine (width : Nat) (bytes blanks : Bool) :
    (steps : Nat) → (column : Nat) → (current : Octets) → Octets → List Octets
  | 0, _, current, _ => [current.reverse]
  | _, _, current, [] => if current = [] then [] else [current.reverse]
  | steps + 1, column, current, c :: cs =>
    let next := columnAfter bytes column c
    if next ≤ width || current = [] then foldLine width bytes blanks steps next (c :: current) cs
    else
      let isBlank (d : Char) : Bool := d = ' ' || d = '\t'
      let tail := current.takeWhile (!isBlank ·)
      if blanks && tail.length < current.length then
        let carried := tail.reverse
        let column := carried.foldl (columnAfter bytes) 0
        (current.drop tail.length).reverse :: foldLine width bytes blanks steps column tail (c :: cs)
      else current.reverse :: foldLine width bytes blanks steps 0 [] (c :: cs)

/-- Writes `-3` as an option with a value, where it is not the value of another option. -/
def longWidths : List Octets → List Octets
  | [] => []
  | ['-', '-'] :: rest => ['-', '-'] :: rest
  | ['-', 'w'] :: value :: rest => ['-', 'w'] :: value :: longWidths rest
  | ('-' :: c :: cs) :: rest =>
    (if c.isDigit then '-' :: 'w' :: c :: cs else '-' :: c :: cs) :: longWidths rest
  | word :: rest => word :: longWidths rest

/-- The greatest width of lines that can be asked for. -/
def maxWidth : Nat := 18446744073709551606

def foldLines (arguments : List Octets) : Tool Unit :=
  let arguments := longWidths arguments
  withOptions
    { letters := "bs", valued := "w", long := [("bytes", 'b'), ("spaces", 's'), ("width", 'w')] }
    1 arguments fun o => do
      match (o.value? 'w').map fun text => (text, natural? text) with
      | some (text, none) => complain ("invalid number of columns: " ++ cited text)
      | some (text, some 0) =>
        complain ("invalid number of columns: " ++ cited text ++ ": Numerical result out of range")
      | some (text, some n) =>
        if maxWidth < n then
          complain ("invalid number of columns: " ++ cited text ++ ": Value too large for defined data type")
        else fold o n
      | none => fold o 80
where
  fold (o : Options) (width : Nat) : Tool Unit := do
        for (_, content) in ← contents 1 o.operands do
          for line in Octets.lines content do
            let body := Octets.chomp line
            let pieces := foldLine width (o.has 'b') (o.has 's') (2 * body.length + 2) 0 [] body
            print (['\n'].intercalate pieces ++ line.drop body.length)

/-- The places that tabs lead to: at equal distances, or at those of a list and then at multiples. -/
structure Stops where
  places : List Nat
  distance : Nat

def Stops.after (s : Stops) (column : Nat) : Option Nat :=
  match s.places.find? (column < ·) with
  | some place => some place
  | none => if s.distance = 0 then none else some ((column / s.distance + 1) * s.distance)

/-- Reads the stops that options ask for. -/
def stopsOf (texts : List Octets) : Except String Stops := do
  let pieces := (texts.flatMap fun text =>
    Text.split ',' (text.map fun c => if c = ' ' then ',' else c)).filter (· ≠ [])
  let numbers ← pieces.mapM fun piece =>
    let digits := if piece.head? = some '/' || piece.head? = some '+' then piece.tail else piece
    match natural? digits with
    | some n => if n = 0 then .error "tab size cannot be 0" else .ok n
    | none =>
      .error ("tab size contains invalid character(s): " ++ cited (digits.dropWhile Char.isDigit))
  match pieces, numbers with
  | [], _ => return ⟨[], 8⟩
  | [_], [n] => return ⟨[], n⟩
  | pieces, numbers =>
    let repeats := (pieces.getLast?.getD []).head? = some '/'
    let places := if repeats then numbers.dropLast else numbers
    if (places.zip places.tail).any fun (a, b) => b ≤ a then throw "tab sizes must be ascending"
    return ⟨places, if repeats then numbers.getLast?.getD 0 else 0⟩

/-- Writes blanks for the tabs of a line, perhaps only for those at its beginning. -/
def expandLine (s : Stops) (initial : Bool) : (column : Nat) → (leading : Bool) → Octets → Octets
  | _, _, [] => []
  | column, leading, c :: cs =>
    if c = '\t' && (leading || !initial) then
      let next := (s.after column).getD (column + 1)
      List.replicate (next - column) ' ' ++ expandLine s initial next leading cs
    else
      let next := if c = '\x08' then column - 1 else column + 1
      c :: expandLine s initial next (leading && (c = ' ' || c = '\t')) cs

/-- Writes tabs for blanks that lead up to a stop. -/
def unexpandLine (s : Stops) (all : Bool) :
    (column : Nat) → (pending : Octets) → (start : Nat) → (leading : Bool) → Octets → Octets
  | _, pending, _, _, [] => pending
  | column, pending, start, leading, c :: cs =>
    let isBlank := c = ' ' || c = '\t'
    if isBlank && (all || leading) then
      match s.after (if c = '\t' then column else column) with
      | none => pending ++ c :: unexpandLine s all (column + 1) [] (column + 1) leading cs
      | some stop =>
        if c = '\t' then '\t' :: unexpandLine s all stop [] stop leading cs
        else if column + 1 = stop then
          (if column = start && pending = [] then
            (match cs with
              | ' ' :: _ | '\t' :: _ => ['\t']
              | _ => [' '])
          else ['\t']) ++ unexpandLine s all stop [] stop leading cs
        else unexpandLine s all (column + 1) (pending ++ [c]) start leading cs
    else
      pending ++ c :: unexpandLine s all (column + 1) [] (column + 1) (leading && isBlank) cs

def tabGrammar : Options.Grammar :=
  { letters := "iaf", valued := "t"
    long := [("initial", 'i'), ("all", 'a'), ("first-only", 'f'), ("tabs", 't')] }

/-- Options such as `-4` as values of `-t`. -/
def longTabs (arguments : List Octets) : List Octets :=
  arguments.map fun a => match a with
    | '-' :: c :: cs => if c.isDigit then '-' :: 't' :: c :: cs else a
    | _ => a

def expandTabs (arguments : List Octets) : Tool Unit :=
  withOptions tabGrammar 1 (longTabs arguments) fun o => do
    match stopsOf (o.values 't') with
    | .error message => complain message
    | .ok stops =>
      for (_, content) in ← contents 1 o.operands do
        for line in Octets.lines content do print (expandLine stops (o.has 'i') 0 true line)

def unexpandTabs (arguments : List Octets) : Tool Unit :=
  withOptions tabGrammar 1 (longTabs arguments) fun o => do
    match stopsOf (o.values 't') with
    | .error message => complain message
    | .ok stops =>
      let all := (o.has 'a' || o.has 't') && !o.has 'f'
      for (_, content) in ← contents 1 o.operands do
        for line in Octets.lines content do
          let body := Octets.chomp line
          print (unexpandLine stops all 0 [] 0 true body ++ line.drop body.length)

end ScopedCheck.Script.Tool
