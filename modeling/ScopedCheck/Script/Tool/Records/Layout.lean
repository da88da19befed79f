import ScopedCheck.Script.Tool.Records.Pattern
import ScopedCheck.Script.Tool.Records.Value

namespace ScopedCheck.Script.Tool.Records

/-- What is wrong with a template and its arguments. -/
inductive Misfit where
  | tooFew
  /-- The number of the directive that nothing can be done with. -/
  | improper (number : Nat)

/-- Whether a value is set as a number where either could be meant. -/
def Value.isCharacterCode (v : Value) : Bool :=
  match v with
  | .number _ | .unset => true
  | .text _ => false
  | .given t => (wholeNumber? t).isSome

/-- Sets one value by a directive. -/
def setValue (toText : Value → Octets) (l : Format.Layout) (letter : Char) (v : Value) : Option Octets :=
  match letter with
  | 's' => some (l.setText (toText v))
  | 'c' =>
    if v.isCharacterCode then
      some (l.pad [Char.ofNat ((clamped v.toNumber).emod 256).toNat])
    else some (l.pad [(toText v).headD '\x00'])
  | 'd' | 'i' => some (l.setSigned (clamped v.toNumber))
  | 'o' => some (l.setUnsigned 8 false (clamped v.toNumber))
  | 'x' => some (l.setUnsigned 16 false (clamped v.toNumber))
  | 'X' => some (l.setUnsigned 16 true (clamped v.toNumber))
  | 'u' => some (l.setUnsigned 10 false (clamped v.toNumber))
  | 'e' | 'E' | 'f' | 'g' | 'G' => some (setReal l letter v.toNumber)
  | _ => none

/-- What is left to be set, and what was set, last first. -/
structure Setting where
  values : List Value
  written : List Octets := []
  /-- How many directives there were. -/
  count : Nat := 0

abbrev Setter := ExceptT Misfit (StateM Setting)

def nextValue : Setter Value := do
  match (← get).values with
  | [] => throw .tooFew
  | v :: rest =>
    modify fun s => { s with values := rest }
    return v

/-- A width or a precision: digits, or a star for a value. -/
def readCount (text : Octets) : Setter (Option Int × Octets) := do
  match text with
  | '*' :: rest => return (some (clamped (← nextValue).toNumber), rest)
  | _ =>
    let digits := text.takeWhile Char.isDigit
    return (if digits = [] then none else some (Octets.natOf 10 digits), text.drop digits.length)

/-- Carries a directive out; the text begins after its percent sign. -/
def setDirective (toText : Value → Octets) (text : Octets) : Setter Octets := do
  modify fun s => { s with count := s.count + 1 }
  if (← get).values.isEmpty then throw .tooFew
  let flags := text.takeWhile fun c => "#-+ 0".toList.contains c
  let (width, rest) ← readCount (text.drop flags.length)
  let (precision, rest) ← match rest with
    | '.' :: rest => do
      let (n, rest) ← readCount rest
      pure (some (n.getD 0), rest)
    | _ => pure (none, rest)
  let width := width.getD 0
  let l : Format.Layout :=
    { flags := if width < 0 then '-' :: flags else flags, width := width.natAbs
      precision := precision.bind fun n => if n < 0 then none else some n.natAbs }
  let rest := rest.dropWhile fun c => c = 'l' || c = 'h'
  let v ← nextValue
  match setValue toText l (rest.headD '\x00') v with
  | some text =>
    modify fun s => { s with written := text :: s.written }
    return rest.tail
  | none => throw (.improper (← get).count)

def setAll (toText : Value → Octets) : (steps : Nat) → Octets → Setter Unit
  | 0, _ | _, [] => return
  | steps + 1, '%' :: '%' :: rest => do
    modify fun s => { s with written := ['%'] :: s.written }
    setAll toText steps rest
  | steps + 1, '%' :: rest => do
    let rest ← setDirective toText rest
    setAll toText steps rest
  | steps + 1, c :: rest => do
    let plain := (c :: rest).takeWhile (· ≠ '%')
    modify fun s => { s with written := plain :: s.written }
    setAll toText steps ((c :: rest).drop plain.length)

/-- Sets values by a template: what was set, and what was wrong. -/
def setTemplate (toText : Value → Octets) (template : Octets) (values : List Value) :
    Octets × Option Misfit :=
  let (result, s) := (setAll toText (template.length + 1) template).run.run { values := values }
  (s.written.reverse.flatten, match result with
    | .ok _ => none
    | .error m => some m)

/-- The text of a number that has to be set by a template. -/
def numberText (template : Octets) (x : Float) : Octets :=
  match shownWhole? x with
  | some n => Octets.ofInt n
  | none =>
    if template = "%.6g".toList then setReal { precision := some 6 } 'g' x
    else (setTemplate (fun _ => []) template [.number x]).1

def Value.toText (template : Octets) : Value → Octets
  | .unset => []
  | .number x => numberText template x
  | .text t | .given t => t

/-- What fields or records are cut at. -/
inductive Separator where
  /-- At blanks, of which those at the ends do not count. -/
  | blanks
  /-- Everywhere. -/
  | nothing
  | char (c : Char)
  | matching (r : Regex)

/-- What a text says about where to cut. -/
def separator? (text : Octets) : Except String Separator :=
  match text with
  | [' '] => .ok .blanks
  | [] => .ok .nothing
  | ['\\'] => .ok (.char '\\')
  | [c] => .ok (.char c)
  | _ => (Pattern.read text).map .matching

def isBlank (c : Char) : Bool := c = ' ' || c = '\t' || c = '\n'

/-- The pieces between blanks. -/
def words (text : Octets) : List Octets :=
  let step (c : Char) (state : List Octets × Octets) : List Octets × Octets :=
    if isBlank c then (if state.2 = [] then state.1 else state.2 :: state.1, [])
    else (state.1, c :: state.2)
  let (found, current) := text.foldr step ([], [])
  if current = [] then found else current :: found

/-- The pieces between matches that are not empty. -/
def cutAtMatches (r : Regex) : (steps : Nat) → (passed current : Octets) → Octets → List Octets
  | 0, _, current, rest => [current.reverse ++ rest]
  | steps + 1, passed, current, rest =>
    match r.find? passed rest with
    | none => [current.reverse ++ rest]
    | some m =>
      if m.text = [] then
        match m.after with
        | [] => [current.reverse ++ rest]
        | c :: after =>
          let skipped := c :: m.before.reverse
          cutAtMatches r steps (skipped ++ passed) (skipped ++ current) after
      else
        (current.reverse ++ m.before) ::
          cutAtMatches r steps (m.text.reverse ++ m.before.reverse ++ passed) [] m.after

/-- The pieces between a character. -/
def cutAtChar (c : Char) (text : Octets) : List Octets :=
  let (current, found) := text.foldr (fun d (current, found) =>
    if d = c then ([], current :: found) else (d :: current, found)) (([], []) : Octets × List Octets)
  current :: found

/-- The fields of a text. -/
def cut (s : Separator) (text : Octets) : List Octets :=
  if text = [] then []
  else match s with
    | .blanks => words text
    | .nothing => text.map fun c => [c]
    | .char c => cutAtChar c text
    | .matching r => cutAtMatches r (text.length + 1) [] [] text

/-- The text that a match is replaced by. An ampersand stands for the match, unless an odd number of
backslashes comes before it; each two of them are one. -/
def filledIn (found : Octets) : (steps : Nat) → Octets → Octets
  | 0, _ | _, [] => []
  | steps + 1, '&' :: rest => found ++ filledIn found steps rest
  | steps + 1, '\\' :: rest =>
    let run := ('\\' :: rest).takeWhile (· = '\\')
    let after := ('\\' :: rest).drop run.length
    if after.head? = some '&' then
      let kept := List.replicate (run.length / 2) '\\'
      if run.length % 2 = 1 then kept ++ '&' :: filledIn found steps after.tail
      else kept ++ found ++ filledIn found steps after.tail
    else run ++ filledIn found steps after
  | steps + 1, c :: rest => c :: filledIn found steps rest

/-- Replaces matches, the first one or all: the text and how many there were. An empty match counts
unless it comes right after another one. -/
def replaced (r : Regex) (replacement : Octets) (all : Bool) :
    (steps : Nat) → (passed : Octets) → (atMatch : Bool) → Octets → Octets × Nat
  | 0, _, _, text => (text, 0)
  | steps + 1, passed, atMatch, text =>
    match r.find? passed text with
    | none => (text, 0)
    | some m =>
      let skipsOne : Bool := m.text = [] && (atMatch && m.before = [])
      let new := if skipsOne then [] else filledIn m.text (replacement.length + 1) replacement
      let count := if skipsOne then 0 else 1
      let passed := m.text.reverse ++ m.before.reverse ++ passed
      if !all then (m.before ++ new ++ m.after, count)
      else if m.text = [] then
        match m.after with
        | [] => (m.before ++ new, count)
        | c :: after =>
          let (rest, more) := replaced r replacement all steps (c :: passed) false after
          (m.before ++ new ++ c :: rest, count + more)
      else
        let (rest, more) := replaced r replacement all steps passed true m.after
        (m.before ++ new ++ rest, count + more)

end ScopedCheck.Script.Tool.Records
