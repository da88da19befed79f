import ScopedCheck.Script.Tool.Filters

namespace ScopedCheck.Script.Tool.Pieces

/-- How a content is cut into parts of which the number is known: by bytes, by lines that stay whole,
or by lines dealt out in turn. -/
inductive Dealing where
  | bytes
  | lines
  | turns
  deriving DecidableEq

/-- The ways to cut. -/
inductive Way where
  | lines (count : Nat)
  | bytes (count : Nat)
  /-- As many whole lines as fit into so many bytes. -/
  | lineBytes (count : Nat)
  /-- So many parts, or one of them. -/
  | parts (dealing : Dealing) (count : Nat) (chosen : Option Nat)
  deriving DecidableEq

/-- Pieces of so many elements; the last one may be shorter. -/
def inGroups {α : Type} (count : Nat) : (steps : Nat) → List α → List (List α)
  | 0, _ => []
  | _, [] => []
  | steps + 1, all => all.take count :: inGroups count steps (all.drop count)

/-- The last pieces of a text that end in a character, as far as they fit into so many bytes. -/
def inLineGroups (ends : Char) (count : Nat) : (steps : Nat) → Octets → List Octets
  | 0, _ => []
  | _, [] => []
  | steps + 1, text =>
    if text.length < count then [text]
    else
      let window := text.take count
      let rest := (window.reverse.takeWhile (· ≠ ends)).length
      let size := if rest = count then count else count - rest
      text.take size :: inLineGroups ends count steps (text.drop size)

/-- Where the parts of a content begin and end: the first ones have one byte more. -/
def bounds (size count : Nat) : List (Nat × Nat) :=
  let start (n : Nat) : Nat := n * (size / count) + min n (size % count)
  (List.range count).map fun n => (start n, start (n + 1))

/-- Lines with the places where they begin. -/
def placed : (place : Nat) → List Octets → List (Nat × Octets)
  | _, [] => []
  | place, line :: rest => (place, line) :: placed (place + line.length) rest

def partsOf (dealing : Dealing) (ends : Char) (count : Nat) (text : Octets) : List Octets :=
  match dealing with
  | .bytes => (bounds text.length count).map fun (start, stop) => (text.drop start).take (stop - start)
  | .lines =>
    let lines := placed 0 (Octets.records ends text)
    (bounds text.length count).map fun (start, stop) =>
      (lines.filter fun (place, _) => start ≤ place && place < stop).flatMap Prod.snd
  | .turns =>
    let lines := (Octets.records ends text).zipIdx
    (List.range count).map fun n => (lines.filter fun (_, k) => k % count = n).flatMap Prod.fst

/-- The pieces of a content. -/
def Way.pieces (ends : Char) (text : Octets) : Way → List Octets
  | .lines count => (inGroups count (text.length + 1) (Octets.records ends text)).map List.flatten
  | .bytes count => inGroups count (text.length + 1) text
  | .lineBytes count => inLineGroups ends count (text.length + 1) text
  | .parts dealing count _ => partsOf dealing ends count text

/-- How the files are called: what comes before and after the counting letters, how many of them
there are at least or exactly, and at which number they begin. -/
structure Naming where
  stem : Octets := ['x']
  ending : Octets := []
  digits : Octets := "abcdefghijklmnopqrstuvwxyz".toList
  width : Nat := 2
  /-- Whether the width grows with the numbers. -/
  grows : Bool := true
  start : Nat := 0

/-- A number in digits of the naming, so many of them. -/
def Naming.number (n : Naming) : (width : Nat) → Nat → Octets
  | 0, _ => []
  | width + 1, k =>
    let base := n.digits.length
    n.number width (k / base) ++ [n.digits.getD (k % base) 'a']

/-- The counting letters of a name. Where the width grows the last digit leads to more of them. -/
def Naming.letters (n : Naming) : (steps : Nat) → (width : Nat) → Nat → Option Octets
  | 0, _, _ => none
  | steps + 1, width, k =>
    let base := n.digits.length
    let full := Nat.pow base width
    if !n.grows then (if k < full then some (n.number width k) else none)
    else
      let room := full - full / base
      if k < room then some (n.number width k)
      else (n.letters steps (width + 1) (k - room)).map (n.digits.getLast?.toList ++ ·)

def Naming.name (n : Naming) (k : Nat) : Option Octets :=
  (n.letters (k + 1) n.width (n.start + k)).map fun letters => n.stem ++ letters ++ n.ending

/-- How many digits a number of files needs. -/
def widthFor (base : Nat) : (steps : Nat) → Nat → Nat
  | 0, _ => 1
  | steps + 1, last => if last < base then 1 else widthFor base steps (last / base) + 1

/-- What is asked for. -/
structure Request where
  way? : Option Way := none
  naming : Naming := {}
  width? : Option Nat := none
  ends? : Option Char := none
  skipsEmpty : Bool := false
  tells : Bool := false

/-- Why a request cannot be carried out; some reasons are followed by where to find help. -/
abbrev Refusal := String × Bool

namespace Request

def withWay (r : Request) (way : Way) : Except Refusal Request :=
  if r.way?.isSome then .error ("cannot split in more than one way", true)
  else .ok { r with way? := some way }

def counted (what : String) (size? : Octets → Option Nat) (text : Octets) : Except Refusal Nat :=
  match size? text with
  | none | some 0 => .error ("invalid number of " ++ what ++ ": " ++ cited text, false)
  | some n => .ok n

/-- A whole number, perhaps after a plus sign. -/
def plainNumber? (text : Octets) : Option Nat :=
  natural? (if text.head? = some '+' then text.tail else text)

/-- The parts that a text such as `3`, `l/3` or `r/2/3` asks for. -/
def readParts (text : Octets) : Except Refusal Way := do
  let (dealing, rest) := match text with
    | 'l' :: '/' :: rest => (Dealing.lines, rest)
    | 'r' :: '/' :: rest => (.turns, rest)
    | _ => (.bytes, text)
  let first := rest.takeWhile (· ≠ '/')
  if first.length = rest.length then return .parts dealing (← counted "chunks" plainNumber? first) none
  else if (plainNumber? first).isNone then throw ("invalid number of chunks: " ++ cited rest, false)
  else
    let n ← counted "chunks" plainNumber? (rest.drop (first.length + 1))
    let k := (plainNumber? first).getD 0
    if 0 < k && k ≤ n then return .parts dealing n (some k)
    else throw ("invalid chunk number: " ++ cited first, false)

def withEnds (r : Request) (text : Octets) : Except Refusal Request := do
  let c ← match text with
    | [] => .error ("empty record separator", false)
    | [c] => .ok c
    | _ =>
      if text = "\\0".toList then .ok '\x00'
      else .error ("multi-character separator " ++ cited text, false)
  if r.ends?.any (· ≠ c) then throw ("multiple separator characters specified", false)
  return { r with ends? := some c }

/-- Counts with other digits, perhaps from a number on. -/
def withDigits (r : Request) (hexadecimal : Bool) (text : Octets) : Except Refusal Request :=
  let digits := (if hexadecimal then "0123456789abcdef" else "0123456789").toList
  let naming := { r.naming with digits := digits }
  if text = [] then .ok { r with naming := naming }
  else if text.all digits.contains then
    .ok { r with naming := { naming with start := Octets.natOf digits.length text, grows := false } }
  else .error (cited text ++ ": invalid start value for " ++
    (if hexadecimal then "hexadecimal" else "numerical") ++ " suffix", true)

def withOption (r : Request) : Char × Octets → Except Refusal Request
  | ('a', text) =>
    match plainNumber? text with
    | some n => .ok { r with width? := if n = 0 then none else some n }
    | none => .error ("invalid suffix length: " ++ cited text, false)
  | ('b', text) => do r.withWay (.bytes (← counted "bytes" size? text))
  | ('C', text) => do r.withWay (.lineBytes (← counted "lines" size? text))
  | ('l', text) => do r.withWay (.lines (← counted "lines" plainNumber? text))
  | ('n', text) => do r.withWay (← readParts text)
  | ('t', text) => r.withEnds text
  | ('d', text) => r.withDigits false text
  | ('x', text) => r.withDigits true text
  | ('e', _) => .ok { r with skipsEmpty := true }
  | ('\x01', text) =>
    if text.contains '/' then
      .error ("invalid suffix " ++ cited text ++ ", contains directory separator", true)
    else .ok { r with naming := { r.naming with ending := text } }
  | ('\x02', _) => .ok { r with tells := true }
  | _ => .ok r

/-- The naming when all is known: a known number of parts decides about the width. -/
def fixedNaming (r : Request) : Except Refusal Naming :=
  let n := r.naming
  let base := n.digits.length
  match r.way?, r.width? with
  | some (.parts _ count _), width? =>
    let needed := widthFor base count (n.start + count - 1)
    match width? with
    | some width =>
      if width < needed then .error ("the suffix length needs to be at least " ++ toString needed, false)
      else .ok { n with width := width, grows := false }
    | none => .ok { n with width := max 2 needed, grows := false }
  | _, some width => .ok { n with width := width, grows := false }
  | _, none => .ok n

end Request

/-- Writes `-3` as an option with a value, where it is not the value of another option. -/
def longCount : List Octets → List Octets
  | [] => []
  | ['-', '-'] :: rest => ['-', '-'] :: rest
  | ['-', c] :: value :: rest =>
    if "abClnt".toList.contains c then ['-', c] :: value :: longCount rest
    else counted ['-', c] :: longCount (value :: rest)
  | word :: rest => counted word :: longCount rest
where
  counted (word : Octets) : Octets :=
    let digits := word.drop 1
    if word.head? = some '-' && digits ≠ [] && digits.all Char.isDigit then '-' :: 'l' :: digits else word

/-- Writes the pieces to files, up to one that cannot be written. -/
def writePieces (r : Request) (naming : Naming) : (k : Nat) → List Octets → Tool Unit
  | _, [] => return
  | k, piece :: rest => do
    if r.skipsEmpty && piece = [] then writePieces r naming k rest
    else match naming.name k with
      | none => complain "output file suffixes exhausted"
      | some name =>
        if r.tells then printLine ("creating file ".toList ++ Octets.ofString (quoted name))
        match ← writeFile (path name) (Octets.toBytes piece) none with
        | .ok () => writePieces r naming (k + 1) rest
        | .error cause => complain (named name ++ ": " ++ cause.reason)

def runRequest (r : Request) (source : Octets) : Tool Unit := do
  match r.fixedNaming with
  | .error (message, _) => complain message
  | .ok naming =>
    match ← read source with
    | .error .isDirectory => complain (named source ++ ": Is a directory")
    | .error cause => complain ("cannot open " ++ quoted source ++ " for reading: " ++ cause.reason)
    | .ok text =>
      let way := r.way?.getD (.lines 1000)
      let pieces := way.pieces (r.ends?.getD '\n') text
      match way with
      | .parts _ _ (some k) => print (pieces.getD (k - 1) [])
      | _ => writePieces r naming 0 pieces

/-- Cuts a file into pieces. -/
def run (arguments : List Octets) : Tool Unit := do
  let o := Options.read
    { letters := "dexu\x02\x03\x04", valued := "abClnt\x01", optional := "\x03\x04"
      long := [("suffix-length", 'a'), ("additional-suffix", '\x01'), ("bytes", 'b'),
        ("line-bytes", 'C'), ("lines", 'l'), ("number", 'n'), ("separator", 't'),
        ("numeric-suffixes", '\x03'), ("hex-suffixes", '\x04'), ("elide-empty-files", 'e'),
        ("unbuffered", 'u'), ("verbose", '\x02')] } (longCount arguments)
  let given := o.given.map fun (letter, value) =>
    (if letter = '\x03' then 'd' else if letter = '\x04' then 'x' else letter, value)
  let refuse : Refusal → Tool Unit := fun (message, hint) =>
    if hint then misuse 1 message else complain message
  match given.foldlM Request.withOption {}, o.fault? with
  | .error refusal, _ => refuse refusal
  | .ok _, some fault => misuse 1 fault
  | .ok r, none =>
    match o.operands with
    | _ :: _ :: extra :: _ => misuse 1 ("extra operand " ++ cited extra)
    | [source, stem] => runRequest { r with naming := { r.naming with stem := stem } } source
    | operands => runRequest r (operands.headD ['-'])

end ScopedCheck.Script.Tool.Pieces
