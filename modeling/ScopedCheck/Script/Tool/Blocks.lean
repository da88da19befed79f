import ScopedCheck.Script.Tool.Pieces

namespace ScopedCheck.Script.Tool.Blocks

/-- One factor of a number: digits and a unit. -/
def factor? (text : Octets) : Option Nat :=
  let digits := text.takeWhile Char.isDigit
  let unit := text.drop digits.length
  let known := match unit with
    | ['c'] => some 1
    | ['w'] => some 2
    | ['B'] => none
    | _ => unitOf? unit
  if digits = [] then none else known.map (Octets.natOf 10 digits * ·)

/-- A number, which may be a product such as `2x512`. -/
def number? (text : Octets) : Option Nat :=
  ((Text.split 'x' text).mapM factor?).map fun factors => factors.foldl (· * ·) 1

/-- A count of blocks, or of bytes if a `B` stands at its end. -/
def count? (text : Octets) : Option (Nat × Bool) :=
  match number? text with
  | some n => some (n, false)
  | none =>
    if text.getLast? = some 'B' then (number? text.dropLast).map fun n => (n, true) else none

/-- How much is told at the end: all, not the time, or nothing. -/
inductive Report where
  | full
  | counts
  | nothing
  deriving DecidableEq

structure Request where
  source? : Option Octets := none
  target? : Option Octets := none
  inputSize : Nat := 512
  outputSize : Nat := 512
  /-- The size of blocks that are passed on as they come. -/
  blockSize? : Option Nat := none
  recordSize : Nat := 0
  skip : Nat × Bool := (0, false)
  seek : Nat × Bool := (0, false)
  count? : Option (Nat × Bool) := none
  changes : List String := []
  inputFlags : List String := []
  outputFlags : List String := []
  report : Report := .full

/-- Why a request cannot be carried out; some reasons are followed by where to find help. -/
abbrev Refusal := String × Bool

namespace Request

def changeNames : List String :=
  ["ascii", "ebcdic", "ibm", "block", "unblock", "lcase", "ucase", "sparse", "swab", "noerror",
   "nocreat", "excl", "notrunc", "sync", "fdatasync", "fsync"]

def flagNames : List String :=
  ["append", "binary", "cio", "direct", "directory", "dsync", "noatime", "nocache", "noctty",
   "nofollow", "nolinks", "nonblock", "sync", "text", "fullblock", "count_bytes", "skip_bytes",
   "seek_bytes"]

/-- The names in a list, all of which have to be known. -/
def readNames (what : String) (known : List String) (text : Octets) : Except Refusal (List String) :=
  (Text.split ',' text).mapM fun name =>
    if known.any (·.toList = name) then .ok (Octets.text name)
    else .error ("invalid " ++ what ++ ": " ++ cited name, true)

def wrongNumber (text : Octets) : Refusal := ("invalid number: " ++ quoted text, false)

def size (text : Octets) : Except Refusal Nat :=
  match number? text with
  | none | some 0 => .error (wrongNumber text)
  | some n => .ok n

def blocks (text : Octets) : Except Refusal (Nat × Bool) :=
  match Blocks.count? text with
  | none => .error (wrongNumber text)
  | some n => .ok n

def withOperand (r : Request) (operand : Octets) : Except Refusal Request := do
  let name := operand.takeWhile (· ≠ '=')
  let value := operand.drop (name.length + 1)
  let unknown : Except Refusal Request := .error ("unrecognized operand " ++ quoted operand, true)
  if name.length = operand.length then unknown
  else match Octets.text name with
    | "if" => return { r with source? := some value }
    | "of" => return { r with target? := some value }
    | "bs" => return { r with blockSize? := some (← size value) }
    | "ibs" => return { r with inputSize := ← size value }
    | "obs" => return { r with outputSize := ← size value }
    | "cbs" => return { r with recordSize := ← size value }
    | "skip" | "iseek" => return { r with skip := ← blocks value }
    | "seek" | "oseek" => return { r with seek := ← blocks value }
    | "count" => return { r with count? := some (← blocks value) }
    | "conv" => return { r with changes := r.changes ++ (← readNames "conversion" changeNames value) }
    | "iflag" => return { r with inputFlags := r.inputFlags ++ (← readNames "input flag" flagNames value) }
    | "oflag" => return { r with outputFlags := r.outputFlags ++ (← readNames "output flag" flagNames value) }
    | "status" =>
      match Octets.text value with
      | "none" => return { r with report := .nothing }
      | "noxfer" => return { r with report := .counts }
      | "progress" => return { r with report := .full }
      | _ => throw ("invalid status level: " ++ cited value, true)
    | _ => unknown

/-- The changes that cannot be asked for together. -/
def conflicts : List (String × String) :=
  [("block", "unblock"), ("lcase", "ucase"), ("excl", "nocreat")]

def check (r : Request) : Except Refusal Request :=
  match conflicts.find? fun (a, b) => r.changes.contains a && r.changes.contains b with
  | some (a, b) => .error ("cannot combine " ++ a ++ " and " ++ b, false)
  | none =>
    let r := match r.blockSize? with
      | some n => { r with inputSize := n, outputSize := n }
      | none => r
    .ok r

/-- A count in bytes. -/
def bytes (size : Nat) (flags : List String) (flag : String) (count : Nat × Bool) : Nat :=
  if count.2 || flags.contains flag then count.1 else count.1 * size

def skipped (r : Request) : Nat := bytes r.inputSize r.inputFlags "skip_bytes" r.skip

def limit? (r : Request) : Option Nat := r.count?.map (bytes r.inputSize r.inputFlags "count_bytes")

def place (r : Request) : Nat := bytes r.outputSize r.outputFlags "seek_bytes" r.seek

end Request

/-- Exchanges the two bytes of each pair. -/
def swapPairs : Octets → Octets
  | a :: b :: rest => b :: a :: swapPairs rest
  | rest => rest

/-- Makes each line as long as a record, without its end. -/
def toRecords (size : Nat) (text : Octets) : Octets :=
  (Octets.lines text).flatMap fun line =>
    let body := (Octets.chomp line).take size
    body ++ List.replicate (size - body.length) ' '

/-- Makes each record a line, without the blanks at its end. -/
def ofRecords (size : Nat) (text : Octets) : Octets :=
  (Pieces.inGroups size (text.length + 1) text).flatMap fun record =>
    (record.reverse.dropWhile (· = ' ')).reverse ++ ['\n']

/-- The content after all changes. -/
def Request.convert (r : Request) (blocks : List Octets) : Octets :=
  let has (name : String) : Bool := r.changes.contains name
  let filler := if has "block" || has "unblock" then ' ' else '\x00'
  let filled := if has "sync" then
      blocks.map fun b => b ++ List.replicate (r.inputSize - b.length) filler
    else blocks
  let text := if has "swab" then swapPairs filled.flatten else filled.flatten
  let text := if has "ucase" then text.map Char.toUpper
    else if has "lcase" then text.map Char.toLower else text
  if r.recordSize = 0 then text
  else if has "block" then toRecords r.recordSize text
  else if has "unblock" then ofRecords r.recordSize text
  else text

/-- How many blocks of a size there are, and whether there is a part of one. -/
def tally (size : Nat) (length : Nat) : String :=
  toString (length / size) ++ "+" ++ if length % size = 0 then "0" else "1"

/-- A count of bytes with a unit of thousands or of 1024, if it is great enough for that. -/
def inUnits (base : Nat) (names : List String) : (steps : Nat) → Nat → String
  | 0, n => toString n
  | steps + 1, n =>
    match names with
    | [] => toString n
    | name :: rest =>
      if n < base * base || rest = [] then
        let tenths := (n * 10 + base / 2) / base
        (if tenths < 100 then toString (tenths / 10) ++ "." ++ toString (tenths % 10)
          else toString ((n + base / 2) / base)) ++ " " ++ name
      else inUnits base rest steps (n / base)

/-- What is told about the bytes at the end. The time is a token: nobody can rely on it. -/
def volume (length : Nat) : String :=
  let units := (if length < 1000 then []
    else [inUnits 1000 ["kB", "MB", "GB"] 4 length]) ++
      if length < 1024 then [] else [inUnits 1024 ["KiB", "MiB", "GiB"] 4 length]
  toString length ++ " bytes" ++
    (if units = [] then "" else " (" ++ ", ".intercalate units ++ ")") ++ " copied, 0.0001 s, " ++
    inUnits 1000 ["kB", "MB", "GB"] 4 (length * 10000) ++ "/s\n"

def tellCounts (r : Request) (read written : Nat) : Tool Unit := do
  if r.report ≠ .nothing then
    let pads := r.changes.contains "sync" && read % r.inputSize ≠ 0
    let writtenTally := if r.blockSize?.isSome && !pads && r.recordSize = 0 then tally r.inputSize read
      else tally r.outputSize written
    write 2 (Octets.ofString (tally r.inputSize read ++ " records in\n" ++ writtenTally ++
      " records out\n" ++ if r.report = .full then volume written else ""))

/-- So much of a content as is asked for, and whether it is long enough for what is left out. -/
def contentOf (r : Request) : Tool (Except Fault (Octets × Bool)) := do
  let limit := r.limit?.map (r.skipped + ·)
  let cut (text : Octets) : Octets × Bool :=
    let rest := text.drop r.skipped
    (match r.limit? with
      | some n => rest.take n
      | none => rest, r.skipped ≤ text.length)
  match r.source? with
  | none =>
    match limit with
    | none => return .ok (cut (← input))
    | some n => return .ok (cut (← inputPart 1 fun text => if n ≤ text.length then some n else none))
  | some operand =>
    match (← site).node (path operand), r.limit? with
    | .ok (.file _ attributes), some n =>
      if attributes.kind.isEndless then return .ok (deviceBytes attributes.kind n, true)
    | _, _ => pure ()
    match ← readPath operand with
    | .ok text => return .ok (cut text)
    | .error cause => return .error cause

/-- The content of a target before the copy is written to it. -/
def keptOf (r : Request) (target : Octets) : Tool Octets := do
  match (← site).node (path target) with
  | .ok (.file content attributes) =>
    let old := if attributes.kind = .regular then Octets.ofBytes content else []
    return if r.changes.contains "notrunc" then old else old.take r.place
  | _ => return []

/-- The content of a target with the copy at its place. -/
def written (r : Request) (kept text : Octets) : Octets :=
  let place := if r.outputFlags.contains "append" then kept.length else r.place
  kept.take place ++ List.replicate (place - kept.length) '\x00' ++ text ++
    kept.drop (place + text.length)

def failToOpen (name : Octets) (cause : Fault) : Tool Unit :=
  complain ("failed to open " ++ quoted name ++ ": " ++ cause.reason)

/-- Copies what can be opened. -/
def copyBlocks (r : Request) : Tool Unit := do
  match ← contentOf r with
  | .error cause =>
    complain ("error reading " ++ quoted (r.source?.getD "standard input".toList) ++ ": " ++ cause.reason)
    tellCounts r 0 0
  | .ok (content, enough) =>
    if !enough && r.report ≠ .nothing then
      write 2 (Octets.ofString ((← get).name ++ ": " ++
        Octets.text (r.source?.getD "standard input".toList) ++ ": cannot skip to specified offset\n"))
    let blocks := Pieces.inGroups r.inputSize (content.length + 1) content
    let text := r.convert blocks
    match r.target? with
    | none => print text
    | some target =>
      let kept ← keptOf r target
      match ← writeFile (path target) (Octets.toBytes (written r kept text)) none with
      | .ok () => pure ()
      | .error cause => failToOpen target cause
    tellCounts r content.length text.length

/-- Opens the target: it is made if that is wanted, and loses its content unless it is to keep it. -/
def openTarget (r : Request) (target : Octets) : Tool Bool := do
  let fail (cause : Fault) : Tool Bool := do
    failToOpen target cause
    return false
  match (← site).node (path target) with
  | .ok (.directory ..) => fail .isDirectory
  | .ok (.file _ _) =>
    if r.changes.contains "excl" then fail .alreadyExists
    else
      let kept ← keptOf r target
      match ← writeFile (path target) (Octets.toBytes kept) none with
      | .ok () => return true
      | .error cause => fail cause
  | .ok _ => return true
  | .error cause =>
    if cause = .notFound && !r.changes.contains "nocreat" then
      match ← writeFile (path target) [] none with
      | .ok () => return true
      | .error cause => fail cause
    else fail cause

/-- Copies blocks from one place to another. -/
def run (arguments : List Octets) : Tool Unit := do
  let o := Options.read { letters := "" } arguments
  match o.fault? with
  | some fault => misuse 1 fault
  | none =>
    match o.operands.foldlM Request.withOperand ({} : Request) >>= Request.check with
    | .error (message, hint) => if hint then misuse 1 message else complain message
    | .ok r =>
      let site ← site
      let found := match r.source? with
        | some source => (site.node (path source)).map fun _ => ()
        | none => .ok ()
      match found with
      | .error cause => failToOpen (r.source?.getD []) cause
      | .ok () =>
        match r.target? with
        | some target => if ← openTarget r target then copyBlocks r
        | none => copyBlocks r

end ScopedCheck.Script.Tool.Blocks
