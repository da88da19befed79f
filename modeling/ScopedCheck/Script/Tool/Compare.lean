import ScopedCheck.Script.Tool.Filters

namespace ScopedCheck.Script.Tool

/-- Complains about the way in which the tool is used, with its name before each line. -/
def misuseByName (status : Nat) (message : String) : Tool Unit := do
  complainWith status message
  complainWith status ("Try '" ++ (← get).name ++ " --help' for more information.")

namespace Compare

/-- What is told about the bytes that differ: where the first one is, each of them, or nothing. -/
inductive Report where
  | first
  | all
  | nothing
  deriving DecidableEq

/-- What a comparison leaves out at the beginning of both files, how much of them it looks at, and
what it tells. -/
structure Request where
  report? : Option Report := none
  showsBytes : Bool := false
  skip : Nat × Nat := (0, 0)
  most? : Option Nat := none

/-- A size such as `12`, `0x1F` or `3K`. -/
def size? (text : Octets) : Option Nat :=
  let body := text.dropWhile Octets.isSpace
  let body := if body.head? = some '+' then body.tail else body
  let (n, suffix) := if body.head?.any Char.isDigit then Octets.spanPrefixed body
    else (1, if body = [] then ['b'] else body)
  let size := if suffix = ['b'] then none else (unitOf? suffix).map (n * ·)
  size.bind fun n => if (n : Int) ≤ Octets.maxWhole then some n else none

namespace Request

def withReport (r : Request) (report : Report) : Except String Request :=
  if r.report?.any (· ≠ report) then .error "options -l and -s are incompatible"
  else .ok { r with report? := some report }

def readSkip (text : Octets) : Except String Nat :=
  match size? text with
  | some n => .ok n
  | none => .error ("invalid --ignore-initial value '" ++ Octets.text text ++ "'")

/-- Leaves so much out: of both files, or, after a colon, of the second one. -/
def withSkip (r : Request) (text : Octets) : Except String Request := do
  let first := text.takeWhile (· ≠ ':')
  if first.length = text.length then
    let n ← readSkip text
    return { r with skip := (n, max r.skip.2 n) }
  else match size? first with
    | none => readSkip text |>.map fun _ => r
    | some n => return { r with skip := (n, ← readSkip (text.drop (first.length + 1))) }

def withOption (r : Request) : Char × Octets → Except String Request
  | ('b', _) => .ok { r with showsBytes := true }
  | ('i', value) => r.withSkip value
  | ('l', _) => r.withReport .all
  | ('n', value) =>
    match size? value with
    | some n => .ok { r with most? := some (min n (r.most?.getD n)) }
    | none => .error ("invalid --bytes value '" ++ Octets.text value ++ "'")
  | ('s', _) => r.withReport .nothing
  | _ => .ok r

/-- The part of a content that is looked at. -/
def part (r : Request) (skip : Nat) (content : Octets) : Octets :=
  let rest := content.drop skip
  match r.most? with
  | some n => rest.take n
  | none => rest

end Request

/-- Where two contents part: how many bytes are equal, how many newlines there are among them,
whether a line begins there, and what is left of each content. -/
structure Parting where
  count : Nat := 0
  newlines : Nat := 0
  opensLine : Bool := false
  rest : Octets × Octets

def part (p : Parting) : Octets → Octets → Parting
  | a :: as, b :: bs =>
    if a = b then
      let ends := a = '\n'
      part { p with count := p.count + 1, newlines := if ends then p.newlines + 1 else p.newlines
                    opensLine := ends } as bs
    else { p with rest := (a :: as, b :: bs) }
  | as, bs => { p with rest := (as, bs) }

/-- A byte in octal digits, in three columns, and as it can be shown. -/
def showByte (c : Char) : Octets × Octets :=
  (padLeft 3 (Nat.toDigits 8 c.toNat), showChar c)

/-- Each place where bytes differ, with both bytes. -/
def differences (r : Request) (width : Nat) : (place : Nat) → Octets → Octets → List Octets
  | place, a :: as, b :: bs =>
    let rest := differences r width (place + 1) as bs
    if a = b then rest
    else
      let ((octalA, shownA), (octalB, shownB)) := (showByte a, showByte b)
      let line := padLeft width (Octets.ofNat place) ++ ' ' :: if r.showsBytes then
          octalA ++ ' ' :: shownA ++ List.replicate (5 - shownA.length) ' ' ++ octalB ++ ' ' :: shownB
        else octalA ++ ' ' :: octalB
      line :: rest
  | _, _, _ => []

/-- Tells that a content ends before the other one. -/
def tellEnd (short : Octets) (tellsLine : Bool) (p : Parting) (count : Nat) : Tool Unit :=
  let place := if count = 0 then " which is empty"
    else " after byte " ++ toString count ++
      if !tellsLine then ""
      else if p.opensLine then ", line " ++ toString p.newlines
      else ", in line " ++ toString (p.newlines + 1)
  complain ("EOF on " ++ Octets.text short ++ place)

/-- Compares two contents. Where nobody reads what is told, differences end the comparison. -/
def compare (r : Request) (unread : Bool) (nameA nameB a b : Octets) : Tool Unit := do
  let p := part { rest := ([], []) } a b
  let short := if a.length < b.length then nameA else nameB
  match r.report?, p.rest with
  | _, ([], []) => return
  | some .nothing, _ => setStatus 1
  | some .all, (restA, restB) =>
    if !(unread && restA ≠ [] && restB ≠ []) then
      setStatus 1
      if a.length ≠ b.length then tellEnd short false p (min a.length b.length)
      let width := (Octets.ofNat (min a.length b.length)).length
      for line in differences r width (p.count + 1) restA restB do printLine line
    else setStatus 1
  | _, (x :: _, y :: _) =>
    setStatus 1
    let ((octalA, shownA), (octalB, shownB)) := (showByte x, showByte y)
    printLine (nameA ++ ' ' :: nameB ++ " differ: byte ".toList ++ Octets.ofNat (p.count + 1) ++
      ", line ".toList ++ Octets.ofNat (p.newlines + 1) ++
      if r.showsBytes then
        " is ".toList ++ octalA ++ ' ' :: shownA ++ ' ' :: octalB ++ ' ' :: shownB
      else [])
  | _, _ => tellEnd short (!unread) p p.count

/-- What an operand names: its place in the tree and its identity, and how far into it the reading
begins. -/
structure Origin where
  place? : Option Place
  identity : Nat
  start : Nat
  size? : Option Nat

def look (operand : Octets) (skip : Nat) : Tool (Except Fault Origin) := do
  if operand = ['-'] then
    let s ← get
    match s.source? with
    | some (identity, place) =>
      return .ok ⟨none, identity, place + skip, some (s.input.length - skip)⟩
    | none => return .ok ⟨none, 0, 0, none⟩
  else match (← site).find true (path operand) with
    | .error cause => return .error cause
    | .ok (place, .file content attributes) =>
      return .ok ⟨some place, attributes.identity, skip,
        if attributes.kind = .regular then some (content.length - skip) else none⟩
    | .ok (place, _) => return .ok ⟨some place, 0, skip, none⟩

def isSame (a b : Origin) : Bool :=
  a.start = b.start && ((a.place?.isSome && a.place? = b.place?) || (a.identity ≠ 0 && a.identity = b.identity))

/-- Compares two files. -/
def compareFiles (r : Request) (nameA nameB : Octets) : Tool Unit := do
  let fail (name : Octets) (cause : Fault) (silent : Bool) : Tool Unit :=
    if silent && r.report? = some .nothing then setStatus 2
    else complainWith 2 (Octets.text name ++ ": " ++ cause.reason)
  let first ← look nameA r.skip.1
  let second ← look nameB r.skip.2
  match first, second with
  | .error cause, _ => fail nameA cause true
  | .ok a, second =>
    if nameA = nameB && r.skip.1 = r.skip.2 then return
    match second with
    | .error cause => fail nameB cause true
    | .ok b =>
      if isSame a b then return
      let known := match r.report?, a.size?, b.size? with
        | some .nothing, some m, some n => m ≠ n && r.most?.all fun most => min m n < most
        | _, _, _ => false
      if known then setStatus 1
      else match ← if nameA = ['-'] then (return .ok (← input)) else readPath nameA with
        | .error cause => fail nameA cause false
        | .ok x =>
          match ← if nameB = ['-'] then (return .ok (← input)) else readPath nameB with
          | .error cause => fail nameB cause false
          | .ok y =>
            compare r (← get).unread nameA nameB (r.part r.skip.1 x) (r.part r.skip.2 y)

def grammar : Options.Grammar :=
  { letters := "bclsv", valued := "in"
    long := [("print-bytes", 'b'), ("print-chars", 'b'), ("ignore-initial", 'i'), ("verbose", 'l'),
      ("bytes", 'n'), ("silent", 's'), ("quiet", 's'), ("version", 'v')] }

/-- Compares two files, or one with the input, byte by byte. -/
def run (arguments : List Octets) : Tool Unit := do
  let o := Options.read grammar arguments
  let given := o.given.map fun (letter, value) => (if letter = 'c' then 'b' else letter, value)
  match given.foldlM Request.withOption ({} : Request), o.fault? with
  | .error message, _ => misuseByName 2 message
  | .ok _, some fault => misuseByName 2 fault
  | .ok r, none =>
    if o.has 'v' then
      printLine "cmp (GNU diffutils) 3.10".toList
      return
    match o.operands with
    | [] => misuseByName 2 ("missing operand after '" ++
        Octets.text (arguments.getLast?.getD (Octets.ofString (← get).name)) ++ "'")
    | nameA :: rest =>
      let nameB := rest.headD ['-']
      let skips := (rest.drop 1).take 2
      match skips.mapM Request.readSkip with
      | .error message => misuseByName 2 message
      | .ok counts =>
        match rest.drop 3 with
        | extra :: _ => misuseByName 2 ("extra operand '" ++ Octets.text extra ++ "'")
        | [] =>
          let skip := (counts.getD 0 r.skip.1, counts.getD 1 r.skip.2)
          compareFiles { r with skip := skip } nameA nameB

end Compare

end ScopedCheck.Script.Tool
