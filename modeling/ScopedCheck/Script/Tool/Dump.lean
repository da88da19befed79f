import ScopedCheck.Script.Format
import ScopedCheck.Script.Tool.Filters

namespace ScopedCheck.Script.Tool.Dump

/-- How bytes are shown: how many make one number, how wide it is, its text, and whether the letters
stand at the end of a line. -/
structure Kind where
  size : Nat
  width : Nat
  shown : Nat → Octets
  trailer : Bool := false

/-- A number in digits of a base, filled up with zeros. -/
def digitsOf (base width n : Nat) : Octets :=
  let digits := Nat.toDigits base n
  List.replicate (width - digits.length) '0' ++ digits

/-- A byte as a character, by an escape, or in three octal digits. -/
def character (n : Nat) : Octets :=
  let escapes : List (Nat × Char) :=
    [(0, '0'), (7, 'a'), (8, 'b'), (9, 't'), (10, 'n'), (11, 'v'), (12, 'f'), (13, 'r')]
  match escapes.lookup n with
  | some c => ['\\', c]
  | none => if 32 ≤ n && n < 127 then [Char.ofNat n] else digitsOf 8 3 n

def names : List String :=
  ["nul", "soh", "stx", "etx", "eot", "enq", "ack", "bel", "bs", "ht", "nl", "vt", "ff", "cr", "so",
   "si", "dle", "dc1", "dc2", "dc3", "dc4", "nak", "syn", "etb", "can", "em", "sub", "esc", "fs",
   "gs", "rs", "us", "sp"]

/-- A byte by its name, without its highest bit. -/
def nameOf (n : Nat) : Octets :=
  let n := n % 128
  if n = 127 then "del".toList
  else match names[n]? with
    | some name => name.toList
    | none => [Char.ofNat n]

/-- The number that bits of a size stand for, half of which are negative. -/
def signed (size n : Nat) : Int :=
  if 2 * n < Nat.pow 256 size then n else Int.ofNat n - Int.ofNat (Nat.pow 256 size)

/-- A number of a size in a kind of digits. -/
def numeric (letter : Char) (size : Nat) : Kind :=
  let widthOf (base : Nat) : Nat := (Nat.toDigits base (Nat.pow 256 size - 1)).length
  match letter with
  | 'x' => ⟨size, widthOf 16, digitsOf 16 (widthOf 16), false⟩
  | 'o' => ⟨size, widthOf 8, digitsOf 8 (widthOf 8), false⟩
  | 'u' => ⟨size, widthOf 10, Octets.ofNat, false⟩
  | _ =>
    ⟨size, (Nat.toDigits 10 (Nat.pow 256 size / 2)).length + 1, fun n => Octets.ofInt (signed size n), false⟩

/-- The parts of a number with a fraction: its sign, and a significand with a power of two. -/
def partsOf (fraction exponent n : Nat) : Bool × Nat × Int :=
  let low := n % Nat.pow 2 fraction
  let power := n / Nat.pow 2 fraction % Nat.pow 2 exponent
  let bias : Int := Int.ofNat (Nat.pow 2 (exponent - 1)) - 1 + fraction
  let negative := n / Nat.pow 2 (fraction + exponent) = 1
  if power = 0 then (negative, low, 1 - bias) else (negative, low + Nat.pow 2 fraction, power - bias)

/-- A number with a fraction, in as few digits as tell it from others. -/
def realText (fraction exponent n : Nat) : Octets :=
  let (negative, significand, power) := partsOf fraction exponent n
  let isOdd := n / Nat.pow 2 fraction % Nat.pow 2 exponent = Nat.pow 2 exponent - 1
  if isOdd then
    let sign := if negative then ['-'] else []
    sign ++ (if n % Nat.pow 2 fraction = 0 then "inf" else "nan").toList
  else
    let (num, den) := Magnitude.shifted significand 1 power
    let text (digits : Nat) : Octets :=
      ({ precision := some digits } : Format.Layout).setGeneral negative num den
    let readsBack (t : Octets) : Bool :=
      let body := if negative then t.tail else t
      let ((p, q), _) := Format.spanDecimal body
      -- the text lies less than half a unit away
      let gap := if p * den ≤ num * q then num * q - p * den else p * den - num * q
      let (unit, scale) := Magnitude.shifted 1 1 (power - 1)
      gap * scale ≤ unit * (q * den)
    let first := if fraction = 23 then 6 else 15
    ((List.range 12).map fun i => text (first + i)).find? readsBack |>.getD (text 17)

def real (size : Nat) : Kind :=
  if size = 4 then ⟨4, 15, realText 23 8, false⟩ else ⟨8, 24, realText 52 11, false⟩

/-- Reads the kinds that a type such as `x1z` asks for. -/
def readTypes (whole : Octets) : (steps : Nat) → Octets → Except String (List Kind)
  | 0, _ | _, [] => .ok []
  | steps + 1, c :: rest => do
    let (kind, rest) ←
      if c = 'a' then .ok (⟨1, 3, nameOf, false⟩, rest)
      else if c = 'c' then .ok (⟨1, 3, character, false⟩, rest)
      else if "doux".toList.contains c then
        let named : List (Char × Nat) := [('C', 1), ('S', 2), ('I', 4), ('L', 8)]
        let digits := rest.takeWhile Char.isDigit
        match rest.head?.bind fun d => named.lookup d with
        | some size => .ok (numeric c size, rest.tail)
        | none =>
          let size := if digits = [] then 4 else Octets.natOf 10 digits
          if [1, 2, 4, 8].contains size then .ok (numeric c size, rest.drop digits.length)
          else .error ("invalid type string " ++ cited whole ++ ";\nthis system doesn't provide a " ++
            toString size ++ "-byte integral type")
      else if c = 'f' then
        let named : List (Char × Nat) := [('F', 4), ('D', 8)]
        let digits := rest.takeWhile Char.isDigit
        match rest.head?.bind fun d => named.lookup d with
        | some size => .ok (real size, rest.tail)
        | none =>
          let size := if digits = [] then 8 else Octets.natOf 10 digits
          if [4, 8].contains size then .ok (real size, rest.drop digits.length)
          else .error ("invalid type string " ++ cited whole ++ ";\nthis system doesn't provide a " ++
            toString size ++ "-byte floating point type")
      else .error ("invalid character '" ++ String.singleton c ++ "' in type string " ++ cited whole)
    let trailer := rest.head? = some 'z'
    let more ← readTypes whole steps (if trailer then rest.tail else rest)
    return { kind with trailer := trailer } :: more

structure Layout where
  kinds : List Kind
  width : Nat
  address : Nat → Octets
  /-- Whether lines that repeat are written too. -/
  whole : Bool
  bigEnd : Bool

namespace Layout

/-- How many characters all numbers of a line of a kind take. -/
def breadth (l : Layout) (k : Kind) : Nat := l.width / k.size * (k.width + 1)

/-- A line of bytes in one kind. So many characters are left over, and are dealt out to the numbers. -/
def row (l : Layout) (k : Kind) (bytes : Octets) : Octets :=
  let room := l.kinds.foldl (fun n k => max n (l.breadth k)) 0
  let fields := l.width / k.size
  let spare := room - l.breadth k
  let count := (bytes.length + k.size - 1) / k.size
  let shown := (List.range count).flatMap fun i =>
    let group := (bytes.drop (i * k.size)).take k.size
    let group := group ++ List.replicate (k.size - group.length) '\x00'
    let ordered := if l.bigEnd then group else group.reverse
    let n := ordered.foldl (fun n c => n * 256 + c.toNat) 0
    let left := fields - i
    let padding := spare * left / fields - spare * (left - 1) / fields
    padLeft (padding + k.width + 1) (k.shown n)
  if k.trailer then
    let letters := bytes.map fun c => if 32 ≤ c.toNat && c.toNat < 127 then c else '.'
    shown ++ List.replicate (room - shown.length) ' ' ++ "  >".toList ++ letters ++ ['<']
  else shown

/-- The lines for some bytes. A star stands for lines that repeat the one before. -/
def lines (l : Layout) : (steps : Nat) → (offset : Nat) → (before : Option Octets) → (starred : Bool) →
    Octets → List Octets
  | 0, _, _, _, _ => []
  | steps + 1, offset, before, starred, bytes =>
    let part := bytes.take l.width
    let address := l.address offset
    if part = [] then (if address = [] then [] else [address])
    else
      let next := l.lines steps (offset + part.length) (some part)
      if !l.whole && before = some part && part.length = l.width then
        (if starred then [] else [['*']]) ++ next true (bytes.drop l.width)
      else
        let rows := l.kinds.zipIdx.map fun (k, i) =>
          (if i = 0 then address else List.replicate address.length ' ') ++ l.row k part
        rows ++ next false (bytes.drop l.width)

end Layout

/-- A count, which may be octal or hexadecimal, with a unit. -/
def count? (text : Octets) : Option Nat :=
  if !text.head?.any Char.isDigit then none
  else
    let (n, rest) := Octets.spanPrefixed text
    if rest = [] then some n
    else if rest.head?.any Char.isDigit then none
    else (size? ('1' :: rest)).map (n * ·)

/-- The types that letters ask for. -/
def typeOf : Char → Option String
  | 'a' => some "a"
  | 'b' => some "o1"
  | 'c' => some "c"
  | 'd' => some "u2"
  | 'e' => some "fD"
  | 'f' => some "fF"
  | 'h' | 'x' => some "x2"
  | 'i' => some "dI"
  | 'l' => some "dL"
  | 'o' => some "o2"
  | 's' => some "d2"
  | _ => none

/-- The runs of characters that can be shown and end in a NUL, with their places. -/
def strings (least : Nat) : (offset : Nat) → (current : Octets) → Octets → List (Nat × Octets)
  | _, _, [] => []
  | offset, current, c :: rest =>
    if 32 ≤ c.toNat && c.toNat < 127 then strings least (offset + 1) (c :: current) rest
    else if c = '\x00' && least ≤ current.length then
      (offset - current.length, current.reverse) :: strings least (offset + 1) [] rest
    else strings least (offset + 1) [] rest

def run (arguments : List Octets) : Tool Unit :=
  withOptions
    { letters := "abcdefhilosvxw", valued := "AjNtSE", optional := "w"
      long := [("address-radix", 'A'), ("skip-bytes", 'j'), ("read-bytes", 'N'), ("format", 't'),
        ("output-duplicates", 'v'), ("width", 'w'), ("strings", 'S'), ("endian", 'E')] }
    1 arguments fun o => do
      let badCount := o.given.find? fun (letter, value) =>
        ("jNS".toList.contains letter || (letter = 'w' && value ≠ [])) && (count? value).isNone
      let radix := (o.value? 'A').getD ['o']
      let types := o.given.flatMap fun (letter, value) =>
        if letter = 't' then [value] else ((typeOf letter).map String.toList).toList
      let types := if types = [] then ["o2".toList] else types
      let read := types.foldl (fun (found : Except String (List Kind)) text => do
        return (← found) ++ (← readTypes text (text.length + 1) text)) (.ok [])
      match badCount, read, radix.head?.any fun c => "doxn".toList.contains c with
      | some (letter, value), _, _ =>
        complain ("invalid -" ++ String.singleton letter ++ " argument '" ++ Octets.text value ++ "'")
      | none, _, false =>
        complain ("invalid output address radix '" ++ Octets.text (radix.take 1) ++
          "'; it must be one character from [doxn]")
      | none, .error message, _ => complain message
      | none, .ok kinds, true =>
        let value (letter : Char) : Option Nat := (o.value? letter).bind count?
        let found ← contents 1 o.operands
        let site ← site
        let isOpened := found ≠ [] || o.operands.any fun operand => (site.node (path operand)).toOption.any Node.isDirectory
        if !isOpened then return
        let all := (found.map Prod.snd).flatten
        let skipped := (value 'j').getD 0
        if all.length < skipped then
          complain "cannot skip past end of combined input"
          return
        let bytes := match value 'N' with
          | some most => (all.drop skipped).take most
          | none => all.drop skipped
        let unit := kinds.foldl (fun n k => max n k.size) 1
        let wanted := if o.has 'w' then (value 'w').getD 32 else 16
        let fits : Bool := wanted ≠ 0 && wanted % unit = 0
        if !fits then
          complainWith (← get).status ("warning: invalid width " ++ toString wanted ++ "; using " ++
            toString unit ++ " instead")
        let address (n : Nat) : Octets := match radix.head? with
          | some 'n' => []
          | some 'd' => digitsOf 10 7 n
          | some 'x' => digitsOf 16 6 n
          | _ => digitsOf 8 7 n
        match value 'S' with
        | some least =>
          for (offset, text) in strings least skipped [] bytes do
            printLine (address offset ++ (if address offset = [] then [] else [' ']) ++ text)
        | none =>
          let l : Layout :=
            { kinds := kinds, width := if fits then wanted else unit, address := address
              whole := o.has 'v', bigEnd := o.value? 'E' = some "big".toList }
          for line in l.lines (bytes.length + 1) skipped none false bytes do printLine line

end ScopedCheck.Script.Tool.Dump
