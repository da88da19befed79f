import ScopedCheck.Script.Format
import ScopedCheck.Script.Tool.Filters
import ScopedCheck.Text.Split

namespace ScopedCheck.Script.Tool.Sort

def isBlank (c : Char) : Bool := c = ' ' || c = '\t'

/-- The number that a text begins with: its sign, its whole part, the digits of its fraction without
zeros at the end, and what comes after it. -/
def leadingNumber (text : Octets) : Bool × Nat × Octets × Octets :=
  let body := text.dropWhile isBlank
  let negative := body.head? = some '-'
  let (whole, rest) := Octets.spanNat 10 (if negative then body.tail else body)
  let (digits, rest) := match rest with
    | '.' :: more => (more.takeWhile Char.isDigit, more.dropWhile Char.isDigit)
    | _ => ([], rest)
  let fraction := (digits.reverse.dropWhile (· = '0')).reverse
  (negative && (whole ≠ 0 || fraction ≠ []), whole, fraction, rest)

/-- Puts magnitudes under signs. -/
def signed (minusA minusB : Bool) (order : Ordering) : Ordering :=
  match minusA, minusB with
  | false, false => order
  | true, true => order.swap
  | true, false => .lt
  | false, true => .gt

def compareNumbers (a b : Octets) : Ordering :=
  let (minusA, wholeA, fractionA, _) := leadingNumber a
  let (minusB, wholeB, fractionB, _) := leadingNumber b
  signed minusA minusB ((compare wholeA wholeB).then (compare fractionA fractionB))

/-- How great the unit is that a letter after a number names. -/
def unitOrder (c : Option Char) : Nat :=
  match c with
  | some 'K' | some 'k' => 1
  | some c => ((['M', 'G', 'T', 'P', 'E', 'Z', 'Y', 'R', 'Q'].findIdx? (· = c)).map (· + 2)).getD 0
  | none => 0

/-- Numbers with units: the sign counts first, then the unit, then the number. -/
def compareSizes (a b : Octets) : Ordering :=
  let (minusA, wholeA, fractionA, restA) := leadingNumber a
  let (minusB, wholeB, fractionB, restB) := leadingNumber b
  let unit (whole : Nat) (fraction rest : Octets) : Nat :=
    if whole = 0 && fraction = [] then 0 else unitOrder rest.head?
  let units := compare (unit wholeA fractionA restA) (unit wholeB fractionB restB)
  signed minusA minusB ((units.then (compare wholeA wholeB)).then (compare fractionA fractionB))

/-- A number as floating point knows them. -/
inductive General where
  | missing
  | notNumber
  | below
  | value (numerator : Int) (denominator : Nat)
  | above

def General.ofText (text : Octets) : General :=
  let body := text.dropWhile Octets.isSpace
  let negative := body.head? = some '-'
  let digits := if negative || body.head? = some '+' then body.tail else body
  let word := (digits.take 3).map Char.toLower
  let sign (n : Nat) : Int := if negative then -n else n
  if word = "inf".toList then (if negative then .below else .above)
  else if word = "nan".toList then .notNumber
  else if (digits.take 2).map Char.toLower = ['0', 'x'] && (digits.drop 2).head?.any (Octets.isDigitOf 16) then
    .value (sign (Octets.spanNat 16 (digits.drop 2)).1) 1
  else if digits.head?.any Char.isDigit || (digits.head? = some '.' && digits.tail.head?.any Char.isDigit) then
    let ((n, scale), _) := Format.spanDecimal digits
    .value (sign n) scale
  else .missing

def General.rank : General → Nat
  | missing => 0
  | notNumber => 1
  | below => 2
  | value _ _ => 3
  | above => 4

def General.compare : General → General → Ordering
  | value m d, value n e => Ord.compare (m * e) (n * d)
  | a, b => Ord.compare a.rank b.rank

/-- The number of the month that a text begins with. -/
def monthOf (text : Octets) : Nat :=
  let word := ((text.dropWhile isBlank).take 3).map Char.toUpper
  (["JAN", "FEB", "MAR", "APR", "MAY", "JUN", "JUL", "AUG", "SEP", "OCT", "NOV", "DEC"].findIdx?
    fun m => m.toList = word).elim 0 (· + 1)

/-- The place of a character of a version among those that are no digits: a tilde comes before the
end, and letters come before all else. -/
def versionPlace : Option Char → Nat
  | none => 1
  | some c => if c = '~' then 0 else if c.isDigit then 2 else if c.isAlpha then c.toNat else c.toNat + 256

/-- Compares runs of digits as numbers and what is between them by places. -/
def compareVersions : (steps : Nat) → Octets → Octets → Ordering
  | 0, _, _ => .eq
  | _, [], [] => .eq
  | steps + 1, a, b =>
    let isDigit (t : Octets) : Bool := t.head?.any Char.isDigit
    if (a = [] || isDigit a) && (b = [] || isDigit b) then
      let (m, a) := Octets.spanNat 10 a
      let (n, b) := Octets.spanNat 10 b
      (compare m n).then (compareVersions steps a b)
    else
      let past (t : Octets) : Octets := if isDigit t then t else t.tail
      (compare (versionPlace a.head?) (versionPlace b.head?)).then
        (compareVersions steps (past a) (past b))

/-- Whether a text is made of suffixes, each of which begins with a dot and a letter. -/
def isSuffixes : (inside : Bool) → Octets → Bool
  | _, [] => true
  | _, '.' :: c :: rest =>
    (c.isAlpha || c = '~') && isSuffixes true rest
  | inside, c :: rest => inside && (c.isAlphanum || c = '~') && isSuffixes true rest

/-- A name without the suffixes at its end; something of it stays. -/
def withoutSuffixes (name : Octets) : Octets :=
  let ends := (List.range name.length).filter fun n => 0 < n && isSuffixes false (name.drop n)
  name.take (ends.head?.getD name.length)

/-- The order of names with versions in them. Names that begin with a dot come first. -/
def compareNames (a b : Octets) : Ordering :=
  let rank (t : Octets) : Nat :=
    if t = [] then 0 else if t = ['.'] then 1 else if t = ['.', '.'] then 2
    else if t.head? = some '.' then 3 else 4
  let steps := a.length + b.length + 1
  ((compare (rank a) (rank b)).then
    (compareVersions steps (withoutSuffixes a) (withoutSuffixes b))).then (compareVersions steps a b)

/-- By what keys are compared. -/
inductive Measure where
  | text
  | number
  | general
  | size
  | month
  | version
  deriving DecidableEq

/-- What counts when two keys are compared, and in which direction. -/
structure Manner where
  measure : Measure := .text
  anyCase : Bool := false
  dictionary : Bool := false
  printable : Bool := false
  backward : Bool := false
  deriving DecidableEq

def Manner.ofLetters (has : Char → Bool) : Manner :=
  { measure :=
      if has 'n' then .number else if has 'g' then .general else if has 'h' then .size
      else if has 'M' then .month else if has 'V' then .version else .text
    anyCase := has 'f'
    dictionary := has 'd'
    printable := has 'i'
    backward := has 'r' }

/-- The characters of a key that count. -/
def Manner.counted (m : Manner) (text : Octets) : Octets :=
  let text := if m.dictionary then
      text.filter fun c => c.isAlphanum || isBlank c
    else if m.printable then text.filter fun c => 32 ≤ c.toNat && c.toNat < 127
    else text
  if m.anyCase then text.map Char.toUpper else text

def Manner.compare (m : Manner) (a b : Octets) : Ordering :=
  let order := match m.measure with
    | .text => Ord.compare (m.counted a) (m.counted b)
    | .number => compareNumbers a b
    | .general => (General.ofText a).compare (General.ofText b)
    | .size => compareSizes a b
    | .month => Ord.compare (monthOf a) (monthOf b)
    | .version => compareNames (m.counted a) (m.counted b)
  if m.backward then order.swap else order

/-- A place in a line: so many fields on and so many characters on, perhaps without blanks between
the two. -/
structure Place where
  field : Nat
  column : Nat
  skipsBlanks : Bool := false

structure Key where
  start : Place
  stop : Option Place := none
  manner : Manner := {}

/-- Reads `2`, `2.3` or `2.3nr`; what is left begins after the letters. -/
def readPlace (text : Octets) : Place × Octets × Octets :=
  let (field, rest) := Octets.spanNat 10 text
  let (column, rest) := match rest with
    | '.' :: rest => Octets.spanNat 10 rest
    | _ => (0, rest)
  let letters := rest.takeWhile Char.isAlpha
  (⟨field, column, letters.contains 'b'⟩, letters, rest.drop letters.length)

/-- Reads a key. One that says nothing about its manner has that of the whole. -/
def readKey (whole : Manner) (blanks : Bool) (text : Octets) : Key :=
  let (start, letters, rest) := readPlace text
  let (stop, more) := match rest with
    | ',' :: rest =>
      let (place, letters, _) := readPlace rest
      (some place, letters)
    | _ => (none, [])
  let letters := letters ++ more
  let own := letters ≠ []
  let skip (p : Place) : Place := if own then p else { p with skipsBlanks := blanks }
  ⟨skip start, stop.map skip, if own then Manner.ofLetters letters.contains else whole⟩

/-- What is wrong with the text of a key. -/
def keyFault? (text : Octets) : Option String := do
  let invalid (reason : String) : String := reason ++ ": invalid field specification " ++ cited text
  let noCount (place : String) (rest : Octets) : String :=
    "invalid number " ++ place ++ ": invalid count at start of " ++ cited rest
  let strays (letters : Octets) : Bool := letters.any fun c => !"bdfgiMhnRrV".toList.contains c
  let columnText (t : Octets) : Option Octets :=
    match t.dropWhile Char.isDigit with
    | '.' :: rest => some rest
    | _ => none
  let lacks (t : Octets) : Bool := !t.head?.any Char.isDigit
  let (start, letters, rest) := readPlace text
  if lacks text then return noCount "at field start" text
  if start.field = 0 then return invalid "field number is zero"
  if let some column := columnText text then
    if lacks column then return noCount "after '.'" column
    if start.column = 0 then return invalid "character offset is zero"
  if strays letters then return invalid "stray character in field spec"
  match rest with
  | [] => none
  | ',' :: rest =>
    let (stop, letters, after) := readPlace rest
    if lacks rest then return noCount "after ','" rest
    if stop.field = 0 then return invalid "field number is zero"
    if let some column := columnText rest then
      if lacks column then return noCount "after '.'" column
    if strays letters || after ≠ [] then return invalid "stray character in field spec"
    none
  | _ => return invalid "stray character in field spec"

/-- Letters of which no two may be given for one key, as a message names them. -/
def conflict? (has : Char → Bool) : Option String :=
  let measures := (['g', 'h', 'M', 'n'].filter has).length
  let texts := if has 'V' || has 'R' || has 'd' || has 'i' then 1 else 0
  if measures + texts ≤ 1 then none
  else some ("options '-" ++ String.ofList ("dfghiMnRV".toList.filter has) ++ "' are incompatible")

/-- What is wrong with the options. -/
def fault? (o : Options) : Option String := do
  let tab := (o.value? 't').bind fun t =>
    if t = [] then some "empty tab"
    else if t.length = 1 || t = ['\\', '0'] then none
    else some ("multi-character tab " ++ cited t)
  let keys := o.values 'k'
  let letters (key : Octets) : Octets := key.filter Char.isAlpha
  let conflicts := (keys.filterMap fun k => conflict? (letters k).contains) ++
    (if keys = [] || keys.any (letters · = []) then (conflict? o.has).toList else [])
  let modes := ['c', 'C', 'o'].filter o.has
  let exclusive := (if o.has 'C' && o.has 'c' then ['c', 'C'] else modes)
  tab <|> keys.findSome? keyFault? <|> conflicts.head? <|>
    (if (o.has 'c' || o.has 'C') && modes.length > 1 then
      some ("options '-" ++ String.ofList exclusive ++ "' are incompatible")
    else if (o.has 'c' || o.has 'C') && o.operands.length > 1 then
      some ("extra operand " ++ quoted ((o.operands.drop 1).headD []) ++ " not allowed with -" ++
        (if o.has 'c' then "c" else "C"))
    else none)

/-- What comes after so many fields. Without a separator a field begins with the blanks before it;
with one the separator is left out when another field follows. -/
def dropFields (separator : Option Char) (keepsLast : Bool) : Nat → Octets → Octets
  | 0, text => text
  | n + 1, text =>
    match separator with
    | none => dropFields separator keepsLast n ((text.dropWhile isBlank).dropWhile (!isBlank ·))
    | some c =>
      let rest := text.dropWhile (· ≠ c)
      dropFields separator keepsLast n (if n = 0 && keepsLast then rest else rest.drop 1)

/-- The part of a line from the start of a key on. -/
def Key.onward (k : Key) (separator : Option Char) (line : Octets) : Octets :=
  let rest := dropFields separator false (k.start.field - 1) line
  let rest := if k.start.skipsBlanks then rest.dropWhile isBlank else rest
  rest.drop (k.start.column - 1)

/-- The part of a line that comes after a key. -/
def Key.after (k : Key) (separator : Option Char) (line : Octets) : Octets :=
  match k.stop with
  | none => []
  | some stop =>
    if stop.column = 0 then dropFields separator true stop.field line
    else
      let rest := dropFields separator false (stop.field - 1) line
      let rest := if stop.skipsBlanks then rest.dropWhile isBlank else rest
      rest.drop stop.column

def Key.text (k : Key) (separator : Option Char) (line : Octets) : Octets :=
  let rest := k.onward separator line
  rest.take (rest.length - (k.after separator line).length)

structure Plan where
  keys : List Key
  separator : Option Char
  whole : Manner
  unique : Bool
  stable : Bool

def Plan.ofOptions (o : Options) : Plan :=
  let whole := Manner.ofLetters o.has
  let keys := (o.values 'k').map (readKey whole (o.has 'b'))
  let plain := o.has 'b' || (whole ≠ {} && whole ≠ { backward := true })
  { keys := if keys = [] && plain then [⟨⟨1, 0, o.has 'b'⟩, none, whole⟩] else keys
    separator := (o.value? 't').bind fun t => if t = ['\\', '0'] then some '\x00' else t.head?
    whole := whole
    unique := o.has 'u'
    stable := o.has 's' }

/-- A line with the texts of its keys. -/
structure Entry where
  line : Octets
  keys : List Octets

def Plan.entry (p : Plan) (line : Octets) : Entry :=
  ⟨line, p.keys.map fun k => k.text p.separator line⟩

/-- Lines whose keys are equal are told apart by all of their text, if that is wanted. -/
def Plan.compare (p : Plan) (a b : Entry) : Ordering :=
  let rest := if p.whole.backward then (Ord.compare a.line b.line).swap else Ord.compare a.line b.line
  if p.keys.isEmpty then rest
  else
    let byKeys : Ordering := (p.keys.zip (a.keys.zip b.keys)).foldl
      (fun (order : Ordering) (k, x, y) => order.then (k.manner.compare x y)) .eq
    byKeys.then (if p.unique || p.stable then .eq else rest)

/-- Leaves one of the lines that are equal, if that is wanted. -/
def Plan.thin (p : Plan) (sorted : List Entry) : List Octets :=
  let kept := if p.unique then
      (sorted.foldl (fun kept e =>
        if kept.head?.any fun k => p.compare k e == .eq then kept else e :: kept)
        ([] : List Entry)).reverse
    else sorted
  kept.map Entry.line

def Plan.sort (p : Plan) (lines : List Octets) : List Octets :=
  p.thin ((lines.map p.entry).mergeSort fun a b => p.compare a b != .gt)

/-- The least of the first lines of several lists, with the lists that are left. Of equal ones the
first is taken. -/
def Plan.least? (p : Plan) : List (List Entry) → Option (Entry × List (List Entry))
  | [] => none
  | [] :: others => p.least? others
  | (e :: rest) :: others =>
    match p.least? others with
    | none => some (e, [rest])
    | some (f, left) =>
      if p.compare e f == .gt then some (f, (e :: rest) :: left) else some (e, rest :: others)

def Plan.mergeEntries (p : Plan) : (steps : Nat) → List (List Entry) → List Entry
  | 0, _ => []
  | steps + 1, lists =>
    match p.least? lists with
    | none => []
    | some (e, left) => e :: p.mergeEntries steps left

/-- Merges lists that are in order each. -/
def Plan.merge (p : Plan) (texts : List (List Octets)) : List Octets :=
  let lists := texts.map fun lines => lines.map p.entry
  p.thin (p.mergeEntries ((texts.map List.length).foldl (· + ·) 1) lists)

/-- The first line that does not come after the one before it, with its number. -/
def Plan.disorder? (p : Plan) : (number : Nat) → List Entry → Option (Nat × Octets)
  | n, a :: b :: rest =>
    match p.compare a b with
    | .lt => p.disorder? (n + 1) (b :: rest)
    | .eq => if p.unique then some (n + 1, b.line) else p.disorder? (n + 1) (b :: rest)
    | .gt => some (n + 1, b.line)
  | _, _ => none

/-- Writes places such as `+1` and `-2` as the text of a key. Their counts begin with zero. -/
def modernKeys : List Octets → List Octets
  | ('+' :: c :: cs) :: rest =>
    if !c.isDigit then ('+' :: c :: cs) :: modernKeys rest
    else
      let (start, letters, _) := readPlace (c :: cs)
      let text := Octets.ofNat (start.field + 1) ++ '.' :: Octets.ofNat (start.column + 1) ++ letters
      match rest with
      | ('-' :: d :: ds) :: rest =>
        if !d.isDigit then "-k".toList :: text :: ('-' :: d :: ds) :: modernKeys rest
        else
          let (stop, letters, _) := readPlace (d :: ds)
          let stopText := if stop.column = 0 then Octets.ofNat stop.field
            else Octets.ofNat (stop.field + 1) ++ '.' :: Octets.ofNat stop.column
          "-k".toList :: (text ++ ',' :: stopText ++ letters) :: modernKeys rest
      | rest => "-k".toList :: text :: modernKeys rest
  | a :: rest => a :: modernKeys rest
  | [] => []

def grammar : Options.Grammar :=
  { letters := "rnufbdgihMVRsczCm\x01", valued := "ktoST\x02\x03\x04\x05\x06", optional := "\x07"
    long := [("reverse", 'r'), ("numeric-sort", 'n'), ("unique", 'u'), ("ignore-case", 'f'),
      ("key", 'k'), ("field-separator", 't'), ("output", 'o'), ("version-sort", 'V'),
      ("general-numeric-sort", 'g'), ("human-numeric-sort", 'h'), ("month-sort", 'M'),
      ("random-sort", 'R'), ("ignore-nonprinting", 'i'), ("zero-terminated", 'z'),
      ("stable", 's'), ("check", '\x07'), ("ignore-leading-blanks", 'b'), ("dictionary-order", 'd'),
      ("merge", 'm'), ("sort", '\x02'), ("parallel", '\x03'), ("buffer-size", 'S'),
      ("temporary-directory", 'T'), ("batch-size", '\x04'), ("compress-program", '\x05'),
      ("random-source", '\x06'), ("debug", '\x01')] }

/-- Writes options that name their choice by a word as letters. -/
def plainLetters (o : Options) : Options :=
  { o with given := o.given.map fun (letter, value) =>
      match letter, Octets.text value with
      | '\x07', "quiet" | '\x07', "silent" => ('C', [])
      | '\x07', _ => ('c', [])
      | '\x02', "numeric" => ('n', [])
      | '\x02', "general-numeric" => ('g', [])
      | '\x02', "human-numeric" => ('h', [])
      | '\x02', "month" => ('M', [])
      | '\x02', "random" => ('R', [])
      | '\x02', "version" => ('V', [])
      | _, _ => (letter, value) }

/-- The contents of the operands, if all can be read. -/
def readAll : List Octets → Tool (Option (List Octets))
  | [] => return some []
  | operand :: rest => do
    match ← read operand with
    | .ok content => return (← readAll rest).map (content :: ·)
    | .error .isDirectory =>
      complainWith 2 ("read failed: " ++ Octets.text operand ++ ": Is a directory")
      return none
    | .error cause =>
      complainWith 2 ("cannot read: " ++ Octets.text operand ++ ": " ++ cause.reason)
      return none

def run (arguments : List Octets) : Tool Unit :=
  withOptions grammar 2 (modernKeys arguments) fun o => do
    let o := plainLetters o
    if let some fault := fault? o then
      complainWith 2 fault
      return
    let operands := if o.operands = [] then [['-']] else o.operands
    let missing := fun site operand => !isInput operand && !Site.exists? site (path operand)
    let site ← site
    let order := operands.filter (missing site) ++ operands.filter fun a => !missing site a
    if order ≠ operands then let _ ← readAll order
    else if let some texts ← readAll operands then
      let plan := Plan.ofOptions o
      let lists := texts.map (linesOf o)
      if o.has 'c' || o.has 'C' then
        if let some (n, line) := plan.disorder? 1 (lists.flatten.map plan.entry) then
          let name := Octets.text (operands.headD ['-'])
          if o.has 'c' then
            complain (name ++ ":" ++ toString n ++ ": disorder: " ++ Octets.text line)
          else setStatus 1
      else
        let sorted := if o.has 'm' then plan.merge lists else plan.sort lists.flatten
        let text := sorted.flatMap (· ++ [lineEnd o])
        match o.value? 'o' with
        | some target =>
          if let .error cause ← writeFile (path target) (Octets.toBytes text) none then
            complainWith 2 ("open failed: " ++ Octets.text target ++ ": " ++ cause.reason)
        | none => print text

end ScopedCheck.Script.Tool.Sort
