import ScopedCheck.Script.Tool.Sizes
import ScopedCheck.Text.Letters

namespace ScopedCheck.Script.Tool

/-- Sets a number against the right side of a column. -/
def padLeft (width : Nat) (text : Octets) : Octets :=
  List.replicate (width - text.length) ' ' ++ text

/-- The end of the lines of a tool. -/
def lineEnd (o : Options) : Char := if o.has 'z' then '\x00' else '\n'

/-- A record without its end. -/
def chompEnd (ends : Char) (text : Octets) : Octets :=
  if text.getLast? = some ends then text.dropLast else text

/-- The lines of a content without their ends. -/
def linesOf (o : Options) (content : Octets) : List Octets :=
  (Octets.records (lineEnd o) content).map (chompEnd (lineEnd o))

/-- Numbers lines from a number on. -/
def numberLines (all : Bool) : Nat → List Octets → List Octets
  | _, [] => []
  | n, line :: rest =>
    if all || line ≠ ['\n'] then
      (padLeft 6 (Octets.ofNat n) ++ '\t' :: line) :: numberLines all (n + 1) rest
    else line :: numberLines all n rest

/-- Leaves one of each run of empty lines. -/
def squeezeLines : List Octets → List Octets
  | [] => []
  | line :: rest =>
    if line = ['\n'] && rest.head? = some ['\n'] then squeezeLines rest
    else line :: squeezeLines rest

/-- A character as it can be shown: `^` stands before a control character, and `M-` before one of
the upper half. -/
def showChar (c : Char) : Octets :=
  let low (n : Nat) : Octets :=
    if n < 32 then ['^', Char.ofNat (n + 64)] else if n = 127 then ['^', '?'] else [Char.ofNat n]
  if c.toNat < 128 then low c.toNat else 'M' :: '-' :: low (c.toNat - 128)

/-- How a content is shown by `concatenate`. -/
structure Display where
  controls : Bool
  ends : Bool
  tabs : Bool

def Display.char (d : Display) (c : Char) : Octets :=
  if c = '\t' then (if d.tabs then ['^', 'I'] else [c])
  else if c = '\n' then (if d.ends then ['$', '\n'] else [c])
  else if d.controls then showChar c else [c]

/-- A line as it is shown; where the ends of lines are marked a return before one is shown too. -/
def Display.line (d : Display) (line : Octets) : Octets :=
  let body := Octets.chomp line
  if d.ends && line ≠ body && body.getLast? = some '\r' then
    body.dropLast.flatMap d.char ++ ['^', 'M', '$', '\n']
  else line.flatMap d.char

def displayGrammar : Options.Grammar :=
  { letters := "AbEnsTuvet"
    long := [("number", 'n'), ("number-nonblank", 'b'), ("squeeze-blank", 's'), ("show-all", 'A'),
      ("show-ends", 'E'), ("show-tabs", 'T'), ("show-nonprinting", 'v')] }

def concatenate (arguments : List Octets) : Tool Unit :=
  withOptions displayGrammar 1 arguments fun o => do
    let any (letters : String) : Bool := letters.toList.any o.has
    let display : Display := ⟨any "Avet", any "AEe", any "ATt"⟩
    let text := ((← contents 1 o.operands).map Prod.snd).flatten
    let lines := Octets.lines text
    let lines := if o.has 's' then squeezeLines lines else lines
    let numbers := if any "nb" then numberLines (!o.has 'b') 1 lines else lines.map fun _ => []
    print ((lines.zip numbers).flatMap fun (line, numbered) =>
      numbered.take (numbered.length - line.length) ++ display.line line)

/-- The pieces of a text that end in a separator; what comes after the last one is a piece too. -/
def piecesBefore (separator : Octets) : (steps : Nat) → (current : Octets) → Octets → List Octets
  | 0, _, _ => []
  | _, current, [] => if current = [] then [] else [current.reverse]
  | steps + 1, current, c :: cs =>
    if separator ≠ [] && separator.isPrefixOf (c :: cs) then
      (current.reverse ++ separator) ::
        piecesBefore separator steps [] ((c :: cs).drop separator.length)
    else piecesBefore separator steps (c :: current) cs

def reverseLines (arguments : List Octets) : Tool Unit :=
  withOptions
    { letters := "br", valued := "s", long := [("before", 'b'), ("regex", 'r'), ("separator", 's')] }
    1 arguments fun o => do
      let separator := (o.value? 's').getD ['\n']
      let separator := if separator = [] then ['\x00'] else separator
      for operand in (if o.operands = [] then [['-']] else o.operands) do
        match ← read operand with
        | .error .isDirectory => complain (named operand ++ ": read error: Is a directory")
        | .error cause =>
          complain ("failed to open " ++ quoted operand ++ " for reading: " ++ cause.reason)
        | .ok content =>
          if o.has 'b' then
            let turned := (piecesBefore separator.reverse (content.length + 1) [] content.reverse)
            print (turned.map List.reverse).flatten
          else print (piecesBefore separator (content.length + 1) [] content).reverse.flatten

def reverseCharacters (arguments : List Octets) : Tool Unit := do
  for operand in (if arguments = [] then [['-']] else arguments) do
    match ← read operand with
    | .error cause => complain ("cannot open " ++ Octets.text operand ++ ": " ++ cause.reason)
    | .ok content =>
      for line in Octets.lines content do
        let body := Octets.chomp line
        print (Octets.ofChars (Octets.toChars body).reverse ++ line.drop body.length)

/-- Shows a part of each content, with titles where there are several. -/
def showParts (o : Options) (part : Octets → Tool Unit) : Tool Unit := do
  let all := if o.operands = [] then [['-']] else o.operands
  let titled := if o.last? "qv" = some 'q' then false else all.length > 1 || o.has 'v'
  let mut first := true
  for operand in all do
    let found ← if isInput operand then pure (.ok []) else readPath operand
    let shown := if isInput operand then "standard input".toList else operand
    let title : Octets :=
      if titled then (if first then [] else ['\n']) ++ "==> ".toList ++ shown ++ " <==\n".toList else []
    match found with
    | .error .isDirectory =>
      print title
      first := false
      complain ("error reading " ++ quoted operand ++ ": Is a directory")
    | .error cause =>
      complain ("cannot open " ++ quoted operand ++ " for reading: " ++ cause.reason)
    | .ok _ =>
      print title
      first := false
      part operand

/-- What is asked for: bytes or lines, from which side, and how many. -/
structure Part where
  bytes : Bool
  side : Side
  count : Nat

/-- The part that options ask for, or what is wrong with them. -/
def Part.ofOptions (o : Options) : Except String Part :=
  let last := o.given.reverse.find? fun (letter, _) => letter = 'n' || letter = 'c'
  match last with
  | none => .ok ⟨false, .usual, 10⟩
  | some (letter, text) =>
    match signedSize? text with
    | some (side, n) => .ok ⟨letter = 'c', side, n⟩
    | none =>
      let body := text.dropWhile fun c => c = '-' || c = '+'
      .error ("invalid number of " ++ (if letter = 'c' then "bytes" else "lines") ++ ": " ++
        cited (if text.head? = some '-' then body else text))

/-- How much of the text comes before the end of so many records. -/
def lengthOfRecords? (ends : Char) : (count : Nat) → Octets → Option Nat
  | 0, _ => some 0
  | _, [] => none
  | count + 1, text =>
    let record := text.takeWhile (· ≠ ends)
    match text.drop record.length with
    | [] => none
    | _ :: rest => (lengthOfRecords? ends count rest).map (· + record.length + 1)

/-- The first part of a text, as far as it is needed. -/
def Part.beginning (p : Part) (ends : Char) (text : Octets) : Octets :=
  match p.bytes, p.side with
  | true, .minus => text.take (text.length - p.count)
  | true, _ => text.take p.count
  | false, .minus =>
    let records := Octets.records ends text
    (records.take (records.length - p.count)).flatten
  | false, _ => text.take ((lengthOfRecords? ends p.count text).getD text.length)

/-- How much of the input is enough for its first part. -/
def Part.enough? (p : Part) (ends : Char) (text : Octets) : Option Nat :=
  match p.bytes, p.side with
  | _, .minus => none
  | true, _ => if p.count ≤ text.length then some p.count else none
  | false, _ => lengthOfRecords? ends p.count text

/-- Writes a leading argument such as `-3c` as options. -/
def longCount (arguments : List Octets) : List Octets :=
  match arguments with
  | ('-' :: c :: cs) :: rest =>
    if !c.isDigit then arguments
    else
      let digits := (c :: cs).takeWhile Char.isDigit
      let letters := (c :: cs).drop digits.length
      let unit := letters.filter fun d => "bkm".toList.contains d
      let bytes := letters.any fun d => "cbkm".toList.contains d
      let others := letters.filter fun d => !"bkmcl".toList.contains d
      ['-', if bytes then 'c' else 'n'] :: (digits ++ unit.map fun d => if d = 'm' then 'M' else d) ::
        others.map (fun d => ['-', d]) ++ rest
  | _ => arguments

/-- How much of the input is read at once. -/
def blockSize : Nat := 8192

def head (arguments : List Octets) : Tool Unit :=
  withOptions
    { letters := "qvz", valued := "nc"
      long := [("lines", 'n'), ("bytes", 'c'), ("quiet", 'q'), ("silent", 'q'), ("verbose", 'v'),
        ("zero-terminated", 'z')] }
    1 (longCount arguments) fun o => do
      match Part.ofOptions o with
      | .error message => complain message
      | .ok p =>
        let ends := lineEnd o
        showParts o fun operand => do
          if isInput operand then
            print (p.beginning ends (← inputPart (if p.bytes then 1 else blockSize) (p.enough? ends)))
          else print (p.beginning ends ((← readPath operand).toOption.getD []))

/-- The last part of a text. -/
def Part.end (p : Part) (ends : Char) (text : Octets) : Octets :=
  match p.bytes, p.side with
  | true, .plus => text.drop (p.count - 1)
  | true, _ => text.drop (text.length - p.count)
  | false, .plus => ((Octets.records ends text).drop (p.count - 1)).flatten
  | false, _ =>
    let records := Octets.records ends text
    (records.drop (records.length - p.count)).flatten

/-- Writes a leading argument such as `-3` or `+3` as options. -/
def longEnd (arguments : List Octets) : List Octets :=
  match arguments with
  | (sign :: c :: cs) :: rest =>
    if (sign = '-' || sign = '+') && c.isDigit && rest.length ≤ 1 then
      let digits := (c :: cs).takeWhile Char.isDigit
      let letters := (c :: cs).drop digits.length
      let bytes := letters.any fun d => d = 'c' || d = 'b'
      let count := sign :: digits ++ (if letters.contains 'b' then ['b'] else [])
      ['-', if bytes then 'c' else 'n'] :: count ::
        (if letters.contains 'f' then [['-', 'f']] else []) ++ rest
    else arguments
  | _ => arguments

def endGrammar : Options.Grammar :=
  { letters := "qvzfF", valued := "ncsp", optional := "f"
    long := [("lines", 'n'), ("bytes", 'c'), ("quiet", 'q'), ("silent", 'q'), ("verbose", 'v'),
      ("zero-terminated", 'z'), ("follow", 'f'), ("sleep-interval", 's'), ("pid", 'p'), ("retry", 'F')] }

def tail (arguments : List Octets) : Tool Unit :=
  withOptions endGrammar 1 (longEnd arguments) fun o => do
    match Part.ofOptions o with
    | .error message => complain message
    | .ok p =>
      showParts o fun operand => do
        print (p.end (lineEnd o) ((← read operand).toOption.getD []))

end ScopedCheck.Script.Tool
