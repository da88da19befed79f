import ScopedCheck.Binary64.Basic
import ScopedCheck.Script.Octets

namespace ScopedCheck.Script.Format

def isOctal (c : Char) : Bool := '0' ≤ c && c ≤ '7'

def named : List (Char × Char) :=
  [('\\', '\\'), ('a', '\x07'), ('b', '\x08'), ('e', '\x1b'), ('f', '\x0c'), ('n', '\n'),
   ('r', '\r'), ('t', '\t'), ('v', '\x0b')]

/-- The character that the text after a backslash stands for, and what comes after it. -/
def escape? (text : Octets) : Option (Char × Octets) :=
  match text with
  | [] => none
  | c :: rest =>
    let digits := (text.take 3).takeWhile isOctal
    if digits ≠ [] then
      some (Char.ofNat (Octets.natOf 8 digits % 256), text.drop digits.length)
    else (named.lookup c).map fun d => (d, rest)

/-- Replaces the escapes in an argument. A `\c` ends it, and all that would follow. -/
def unescape : (steps : Nat) → Octets → Octets × Bool
  | 0, _ => ([], false)
  | _, [] => ([], false)
  | steps + 1, '\\' :: rest =>
    match rest with
    | 'c' :: _ => ([], true)
    | _ =>
      let digits := match rest with
        | '0' :: more => if more.head?.any isOctal then more else rest
        | _ => rest
      match escape? digits with
      | some (c, rest) => let (text, ends) := unescape steps rest; (c :: text, ends)
      | none => let (text, ends) := unescape steps rest; ('\\' :: text, ends)
  | steps + 1, c :: rest => let (text, ends) := unescape steps rest; (c :: text, ends)

/-- A number that may have a fraction, or the name of what is none. -/
inductive Real where
  | finite (x : Binary64)
  | named (negative : Bool) (name : String)

/-- How a value is set. -/
structure Layout where
  flags : Octets := []
  width : Nat := 0
  precision : Option Nat := none

namespace Layout

def has (l : Layout) (flag : Char) : Bool := l.flags.contains flag

/-- Fills a text up to the width. -/
def pad (l : Layout) (text : Octets) : Octets :=
  let fill := List.replicate (l.width - text.length) ' '
  if l.has '-' then text ++ fill else fill ++ text

def setText (l : Layout) (text : Octets) : Octets :=
  l.pad (match l.precision with
    | some n => text.take n
    | none => text)

/-- Sets a number that is given by its sign and its digits. -/
def setNumber (l : Layout) (sign digits : Octets) : Octets :=
  let digits := match l.precision with
    | some n => List.replicate (n - digits.length) '0' ++ (if n = 0 && digits = ['0'] then [] else digits)
    | none => digits
  if l.has '0' && !l.has '-' && l.precision.isNone then
    sign ++ List.replicate (l.width - sign.length - digits.length) '0' ++ digits
  else l.pad (sign ++ digits)

def setSigned (l : Layout) (n : Int) : Octets :=
  let sign := if n < 0 then ['-'] else if l.has '+' then ['+'] else if l.has ' ' then [' '] else []
  l.setNumber sign (Octets.ofNat n.natAbs)

def setUnsigned (l : Layout) (base : Nat) (upper : Bool) (n : Int) : Octets :=
  let n := (n % 18446744073709551616).toNat
  let digits := Nat.toDigits base n
  let marker := if !l.has '#' || n = 0 then []
    else if base = 16 then ['0', 'x'] else if base = 8 then ['0'] else []
  let text := if upper then (marker ++ digits).map Char.toUpper else marker ++ digits
  l.setNumber (text.take marker.length) (text.drop marker.length)

/-- The sign that is set before a number. -/
def signOf (l : Layout) (negative : Bool) : Octets :=
  if negative then ['-'] else if l.has '+' then ['+'] else if l.has ' ' then [' '] else []

/-- A fraction with so many decimal places, rounded. -/
def fixedDigits (places num den : Nat) : Octets × Octets :=
  let digits := Nat.toDigits 10 (Magnitude.roundHalfEven (num * Nat.pow 10 places) den)
  let digits := List.replicate (places + 1 - digits.length) '0' ++ digits
  digits.splitAt (digits.length - places)

/-- So many decimal digits of a fraction, rounded, and the power of ten for the first of them. -/
def leadingDigits (count num den : Nat) : Octets × Int :=
  if num = 0 then (List.replicate count '0', 0)
  else
    let length (n : Nat) : Int := (Nat.toDigits 10 n).length
    let scaled (power : Int) : Nat × Nat := (num * Nat.pow 10 power.toNat, den * Nat.pow 10 (-power).toNat)
    let guess := length num - length den
    let (n, d) := scaled (-guess)
    let power := if n < d then guess - 1 else guess
    let (n, d) := scaled (Int.ofNat count - 1 - power)
    let digits := Nat.toDigits 10 (Magnitude.roundHalfEven n d)
    if digits.length > count then (digits.take count, power + 1) else (digits, power)

def point (l : Layout) (fraction : Octets) : Octets :=
  if fraction ≠ [] || l.has '#' then '.' :: fraction else []

/-- A power of ten as it is written after a number: a sign and two digits at least. -/
def powerText (power : Int) : Octets :=
  let digits := Octets.ofNat power.natAbs
  'e' :: (if power < 0 then '-' else '+') :: List.replicate (2 - digits.length) '0' ++ digits

def setFixed (l : Layout) (negative : Bool) (num den : Nat) : Octets :=
  let (whole, fraction) := fixedDigits (l.precision.getD 6) num den
  { l with precision := none }.setNumber (l.signOf negative) (whole ++ l.point fraction)

def setScientific (l : Layout) (negative : Bool) (num den : Nat) : Octets :=
  let (digits, power) := leadingDigits (l.precision.getD 6 + 1) num den
  { l with precision := none }.setNumber (l.signOf negative)
    (digits.take 1 ++ l.point (digits.drop 1) ++ powerText power)

/-- Sets a number in the shorter of both ways, without zeros at the end. -/
def setGeneral (l : Layout) (negative : Bool) (num den : Nat) : Octets :=
  let count := max (l.precision.getD 6) 1
  let (digits, power) := leadingDigits count num den
  let trim (text : Octets) : Octets :=
    if l.has '#' then text else (text.reverse.dropWhile (· = '0')).reverse
  let body :=
    if power < -4 || Int.ofNat count ≤ power then
      digits.take 1 ++ l.point (trim (digits.drop 1)) ++ powerText power
    else
      let (whole, fraction) := fixedDigits (Int.ofNat count - 1 - power).toNat num den
      whole ++ l.point (trim fraction)
  { l with precision := none }.setNumber (l.signOf negative) body

/-- Sets a number as a directive of this letter asks for it. -/
def setReal (l : Layout) (c : Char) (negative : Bool) (num den : Nat) : Octets :=
  let text := match c.toLower with
    | 'e' => l.setScientific negative num den
    | 'g' => l.setGeneral negative num den
    | _ => l.setFixed negative num den
  if c.isUpper then text.map Char.toUpper else text

/-- Sets a number with hexadecimal digits and an exponent of two. A number of full size has a one
before the point; other ones have a zero there. -/
def setHexadecimal (l : Layout) (x : Binary64) : Octets :=
  let m := x.magnitude.significand
  let unit := Nat.pow 16 13
  let power : Int := if m = 0 then 0 else x.magnitude.exponent + 52
  let places := min (l.precision.getD 13) 13
  let step := Nat.pow 16 (13 - places)
  let (down, left) := (m / step, m % step)
  let up : Bool := step < 2 * left || (step = 2 * left && down % 2 = 1)
  let rounded := (if up then down + 1 else down) * step
  let digits := Nat.toDigits 16 (rounded % unit)
  let all := List.replicate (13 - digits.length) '0' ++ digits
  let fraction := match l.precision with
    | some n => all.take places ++ List.replicate (n - 13) '0'
    | none => (all.reverse.dropWhile (· = '0')).reverse
  let point : Octets := if fraction = [] && !l.has '#' then [] else ['.']
  let sign := if power < 0 then '-' else '+'
  let body := Octets.ofNat (rounded / unit) ++ point ++ fraction ++ 'p' :: sign :: Octets.ofNat power.natAbs
  let front := l.signOf x.negative ++ ['0', 'x']
  let zeros := if l.has '0' && !l.has '-' then l.width - front.length - body.length else 0
  l.pad (front ++ List.replicate zeros '0' ++ body)

def setDecimal (l : Layout) (c : Char) : Real → Octets
  | .finite x =>
    if c.toLower = 'a' then
      let text := l.setHexadecimal x
      if c.isUpper then text.map Char.toUpper else text
    else
    let (num, den) := Magnitude.shifted x.magnitude.significand 1 x.magnitude.exponent
    l.setReal c x.negative num den
  | .named negative name =>
    let text := l.signOf negative ++ name.toList
    { l with precision := none }.pad (if c.isUpper then text.map Char.toUpper else text)

end Layout

/-- What has been written, what was wrong with the arguments, and the arguments that are left. -/
structure State where
  output : List Octets := []
  complaints : List String := []
  arguments : List Octets
  used : Bool := false
  /-- A `\c` was met. -/
  ended : Bool := false

abbrev Formatting := ExceptT String (StateM State)

def put (text : Octets) : Formatting Unit :=
  modify fun s => { s with output := text :: s.output }

def argument? : Formatting (Option Octets) := do
  match (← get).arguments with
  | [] => return none
  | a :: rest =>
    modify fun s => { s with arguments := rest, used := true }
    return some a

def complain (message : String) : Formatting Unit :=
  modify fun s => { s with complaints := message :: s.complaints }

/-- The number that an argument begins with; anything else in it is complained about. A quote makes
it the number of a character. -/
def numberArgument : Formatting Int := do
  match ← argument? with
  | none => return 0
  | some text =>
    match text with
    | '\'' :: c => return (c.head?.map fun c => Int.ofNat c.toNat).getD 0
    | '"' :: c => return (c.head?.map fun c => Int.ofNat c.toNat).getD 0
    | _ =>
      let body := text.dropWhile Octets.isSpace
      let negative := body.head? = some '-'
      let digits := if negative || body.head? = some '+' then body.tail else body
      if !digits.head?.any Char.isDigit then
        if text ≠ [] then complain (Octets.text text ++ ": expected numeric value")
        return 0
      let (n, rest) := Octets.spanPrefixed digits
      if rest ≠ [] then complain (Octets.text text ++ ": not completely converted")
      let value : Int := if negative then -n else n
      let nearest := max (-Octets.maxWhole - 1) (min value Octets.maxWhole)
      if nearest ≠ value then complain (Octets.text text ++ ": Numerical result out of range")
      return nearest

/-- The name that a text begins with for what is no finite number, and what comes after it. -/
def spanName? (text : Octets) : Option (String × Octets) :=
  let known := [("infinity", "inf"), ("inf", "inf"), ("nan", "nan")]
  (known.find? fun (long, _) => long.toList.isPrefixOf (text.map Char.toLower)).map fun (long, name) =>
    (name, text.drop long.length)

/-- A number with a fraction and an exponent of ten, as a fraction of whole numbers, and what comes
after it. -/
def spanDecimal (text : Octets) : (Nat × Nat) × Octets :=
  let whole := text.takeWhile Char.isDigit
  let rest := text.drop whole.length
  let fraction := if rest.head? = some '.' then rest.tail.takeWhile Char.isDigit else []
  let rest := if rest.head? = some '.' then rest.drop (fraction.length + 1) else rest
  let n := Octets.natOf 10 (whole ++ fraction)
  let scale := Nat.pow 10 fraction.length
  match rest with
  | e :: more =>
    let negative := more.head? = some '-'
    let digits := (if negative || more.head? = some '+' then more.tail else more)
    let power := digits.takeWhile Char.isDigit
    if e.toLower = 'e' && power ≠ [] then
      let factor := Nat.pow 10 (min (Octets.natOf 10 power) 400)
      (if negative then (n, scale * factor) else (n * factor, scale), digits.drop power.length)
    else ((n, scale), rest)
  | [] => ((n, scale), [])

/-- The number that an argument begins with, as the nearest one with 53 significant bits. A quote
makes it the number of a character. -/
def decimalArgument : Formatting Real := do
  let text := (← argument?).getD []
  let body := text.dropWhile Octets.isSpace
  let negative := body.head? = some '-'
  let digits := if negative || body.head? = some '+' then body.tail else body
  let incomplete (rest : Octets) : Formatting Unit := do
    if rest ≠ [] then complain (Octets.text text ++ ": not completely converted")
  let outOfRange : Formatting Unit := complain (Octets.text text ++ ": Numerical result out of range")
  match text, spanName? digits with
  | '\'' :: c, _ | '"' :: c, _ =>
    return .finite ⟨false, (Magnitude.nearest? (c.head?.map Char.toNat |>.getD 0) 1).getD .zero⟩
  | _, some (name, rest) =>
    incomplete rest
    return .named negative name
  | _, none =>
    let isHex := ["0x", "0X"].any (·.toList.isPrefixOf digits)
    let ((n, d), rest) := if isHex then
        let (n, rest) := Octets.spanPrefixed digits
        ((n, 1), rest)
      else spanDecimal digits
    if !(digits.filter (· ≠ '.')).head?.any Char.isDigit then
      if text ≠ [] then complain (Octets.text text ++ ": expected numeric value")
    else incomplete rest
    match Magnitude.nearest? n d with
    | none =>
      outOfRange
      return .named negative "inf"
    | some found =>
      let (a, b) := Magnitude.shifted found.significand 1 found.exponent
      if found.significand < Magnitude.leastFull && a * d ≠ n * b then outOfRange
      return .finite ⟨negative, found⟩

/-- A count in a directive: digits, or a star for an argument. -/
def readCount (text : Octets) : Formatting (Option Int × Octets) := do
  match text with
  | '*' :: rest => return (some (← numberArgument), rest)
  | _ =>
    let digits := text.takeWhile Char.isDigit
    return (if digits = [] then none else some (Octets.natOf 10 digits), text.drop digits.length)

/-- Carries a directive out; the text begins after its percent sign. -/
def directive (text : Octets) : Formatting Octets := do
  let flags := text.takeWhile fun c => "#-+ 0".toList.contains c
  let (width, rest) ← readCount (text.drop flags.length)
  let (precision, rest) ← match rest with
    | '.' :: rest => do
      let (n, rest) ← readCount rest
      pure (some (n.getD 0), rest)
    | _ => pure (none, rest)
  let width := width.getD 0
  let l : Layout :=
    { flags := if width < 0 then '-' :: flags else flags, width := width.natAbs
      precision := precision.bind fun n => if n < 0 then none else some n.natAbs }
  match rest with
  | [] => throw "missing format character"
  | c :: rest =>
    if c = 's' then put (l.setText ((← argument?).getD []))
    else if c = 'c' then do
      let text := (← argument?).getD []
      put (l.pad (if text = [] then ['\x00'] else text.take 1))
    else if c = 'b' then
      let value := (← argument?).getD []
      let (value, ends) := unescape (value.length + 1) value
      put (l.setText value)
      if ends then modify fun s => { s with ended := true }
    else if c = 'd' || c = 'i' then put (l.setSigned (← numberArgument))
    else if c = 'u' then put (l.setUnsigned 10 false (← numberArgument))
    else if c = 'o' then put (l.setUnsigned 8 false (← numberArgument))
    else if c = 'x' || c = 'X' then put (l.setUnsigned 16 (c = 'X') (← numberArgument))
    else if "aAeEfFgG".toList.contains c then put (l.setDecimal c (← decimalArgument))
    else throw ("%" ++ Octets.text (text.take (text.length - rest.length)) ++ ": invalid directive")
    return rest

/-- Goes through the template once. -/
def pass : (steps : Nat) → Octets → Formatting Unit
  | 0, _ => return
  | _, [] => return
  | steps + 1, '%' :: '%' :: rest => do
    put ['%']
    pass steps rest
  | steps + 1, '%' :: rest => do
    let rest ← directive rest
    if !(← get).ended then pass steps rest
  | steps + 1, '\\' :: rest => do
    match escape? rest with
    | some (c, rest) =>
      put [c]
      pass steps rest
    | none =>
      put ['\\']
      pass steps rest
  | steps + 1, c :: rest => do
    put [c]
    pass steps rest

/-- Goes through the template again as long as that uses arguments. -/
def passes (template : Octets) : (rounds : Nat) → Formatting Unit
  | 0 => return
  | rounds + 1 => do
    modify fun s => { s with used := false }
    pass (template.length + 1) template
    let s ← get
    if !s.ended && s.used && s.arguments ≠ [] then passes template rounds

/-- What comes of a template: the output, the complaints in order, and the error that ended it. -/
structure Result where
  output : Octets
  complaints : List String
  error? : Option String

/-- An error gives up the rest of the template; what it wrote before is kept. -/
def run (template : Octets) (arguments : List Octets) : Result :=
  let (outcome, s) := (passes template (arguments.length + 1)).run.run { arguments := arguments }
  ⟨s.output.reverse.flatten, s.complaints.reverse, match outcome with
    | .ok _ => none
    | .error e => some e⟩

/-- The text that `echo` writes. -/
def echo (arguments : List Octets) : Octets :=
  let (newline, arguments) := match arguments with
    | ['-', 'n'] :: rest => (false, rest)
    | _ => (true, arguments)
  match arguments with
  | [] => if newline then ['\n'] else []
  | _ =>
    let pieces := arguments.map fun a => unescape (a.length + 1) a
    let whole := pieces.takeWhile fun p => !p.2
    let last := (pieces.drop whole.length).head?
    let shown := (whole.map Prod.fst) ++ (last.map Prod.fst).toList
    [' '].intercalate shown ++ (if last.isNone && newline then ['\n'] else [])

end ScopedCheck.Script.Format
