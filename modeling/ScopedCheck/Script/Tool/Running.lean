import ScopedCheck.Script.Redirection
import ScopedCheck.Script.Engine
import ScopedCheck.Script.Tool.Basic

namespace ScopedCheck.Script.Action

/-- The file that a descriptor leads to, with the place in it. -/
def fileOf? (descriptor : Nat) : Action (Option (Nat × Nat)) := do
  match ← stream? descriptor with
  | none => return none
  | some index =>
    let w := (← get).world
    match w.stream index with
    | .file identity offset mode =>
      let size := ((w.fileOf? identity).map fun f => f.1.length).getD 0
      return some (identity, if mode = .append then size else offset)
    | _ => return none

/-- Whether what is written to a descriptor is kept nowhere. -/
def isUnread (descriptor : Nat) : Action Bool := do
  match ← stream? descriptor with
  | some index => return (← get).world.stream index = .nothing
  | none => return false

/-- All that can be read from a pipe or a descriptor. -/
def contentOf (operand : Octets) : Action (Except Fault Octets) := do
  match ← openFile .read operand with
  | .error cause => return .error cause
  | .ok index =>
    match (← get).world.stream index with
    | .pipe number .. =>
      return .ok (← holding [index] (Engine.gather number Engine.maxRounds []))
    | _ => return .ok (← availableFrom index).1

/-- How a tool tells that it cannot write its output. -/
def writeComplaint (name : String) (obstacle : Obstacle) : String :=
  let reason := obstacle.reason
  let isClosed : Bool := obstacle = Obstacle.notOpen
  let lines := match name with
    | "sed" => [if isClosed then "couldn't close stdout: " ++ reason
        else "couldn't flush stdout: " ++ reason]
    | "sort" => ["fflush failed: 'standard output': " ++ reason, "write error"]
    | "find" => ["'standard output': " ++ reason,
        if isClosed then "write error: " ++ reason else "write error"]
    | "diff" | "yes" => ["standard output: " ++ reason]
    | "tee" => ["'standard output': " ++ reason]
    | "cat" => [(if isClosed then "standard output: " else "write error: ") ++ reason]
    | "wc" | "md5sum" | "sha1sum" | "sha256sum" | "sha512sum" | "cksum" | "du" =>
      [if isClosed then "write error: " ++ reason else "write error"]
    | _ => ["write error: " ++ reason]
  String.join (lines.map fun line => name ++ ": " ++ line ++ "\n")

/-- The status of a tool that cannot write its output. -/
def writeFailure (name : String) : Nat :=
  match name with
  | "env" => 125
  | "sed" => 4
  | "expr" | "getopt" => 3
  | "ls" | "dir" | "vdir" | "sort" | "grep" | "egrep" | "fgrep" | "diff" | "printenv" => 2
  | _ => 1

/-- Writes all that a tool has written, in that order, and tells whether that was possible. -/
def flush (name : String) (written : List (Nat × Octets)) : Action Bool := do
  for (descriptor, text) in written.reverse do
    let text := if (← get).isNarrow then text.map Octets.unlone else text
    if descriptor = 2 then write 2 text
    else if let some obstacle ← tryWrite descriptor text then
      write 2 (Octets.ofString (writeComplaint name obstacle))
      return false
  return true

/-- How often a tool is put off at most. -/
def maxDelays : Nat := 100000000

/-- What a tool was given before it is put off. -/
structure Delay where
  /-- The input that was already taken from the stream. -/
  held : Octets := []
  /-- What was read from pipes and descriptors. -/
  pipes : List (Octets × Except Fault Octets) := []
  /-- How much of the output was written. -/
  flushed : Nat := 0
  /-- How much input there is when output is written the next time. -/
  threshold : Nat := 0

/-- What two texts begin with. -/
def commonStart : Octets → Octets → Octets
  | a :: as, b :: bs => if a = b then a :: commonStart as bs else []
  | _, _ => []

def outputOf (s : Session) : Octets :=
  (s.written.reverse.filterMap fun (descriptor, text) => if descriptor = 1 then some text else none).flatten

/-- The lines of a text that are ended. -/
def endedLines (text : Octets) : Octets := (text.reverse.dropWhile (· ≠ '\n')).reverse

/-- What a tool writes whatever comes after its input: that on which the input with and without its
last line agree. Only `tr` writes less than a line at a time. -/
def settledOutput {α : Type} (run : Tool α) (start : Session) : Octets :=
  let lines := Octets.lines start.input
  let shorter := (lines.take (lines.length - 1)).flatten
  let common := commonStart (outputOf (run.run start).2) (outputOf (run.run { start with input := shorter }).2)
  if start.name = "tr" then common else endedLines common

/-- Gives back what was taken from the input and not used. -/
def putBack (text : Octets) : Action Unit := do
  let text := text.map Octets.unlone
  if text ≠ [] then
    match (← stream? 0).map (← get).world.stream with
    | some (.pipe number ..) =>
      changePipe number fun p => ⟨p.pieces ++ [text], p.size + text.length⟩
    | _ => return

/-- Leaves the part of the output out that was already written. -/
def dropOutput : (count : Nat) → List (Nat × Octets) → List (Nat × Octets)
  | _, [] => []
  | count, (descriptor, text) :: rest =>
    if descriptor = 1 then (1, text.drop count) :: dropOutput (count - text.length) rest
    else (descriptor, text) :: dropOutput count rest

/-- Lets a tool work with as much of the devices as it needs: more of them makes no difference. -/
def supplied {α : Type} (run : Tool α) : (rounds : Nat) → (start : Session) → α × Session
  | 0, start => run.run start
  | rounds + 1, start =>
    let once := run.run start
    if !once.2.drew || deviceLimit ≤ start.supply then once
    else
      let more := { start with supply := start.supply * 4 }
      let again := run.run more
      if once.2.written == again.2.written && once.2.status = again.2.status then again
      else supplied run rounds more

/-- Lets a tool do its work, and tells its result and its status. One that streams writes what is
settled as soon as there is much of it. -/
def carryOut {α : Type} (name : String) (environment : List (String × Octets)) (streams : Bool)
    (run : Tool α) : (delays : Nat) → Delay → Action (Option α × Nat)
  | 0, _ => return (none, 1)
  | delays + 1, d => do
    let seen ← view
    let (fresh, whole) ← available 0
    let isNarrow := (← get).isNarrow && Tool.byCharacter.contains name
    let input := d.held ++ if isNarrow then fresh.map Octets.lone else fresh
    let start : Session :=
      { name := name, site := seen, environment := environment, input := input, isNarrow := isNarrow
        whole := whole, source? := ← fileOf? 0, target? := (← fileOf? 1).map Prod.fst
        unread := ← isUnread 1, pipes := d.pipes, limit? := (← get).sizeLimit? }
    let (result, done) := supplied run 5 start
    match done.wanted? with
    | some operand =>
      let found := (← contentOf operand).map fun text => if isNarrow then text.map Octets.lone else text
      carryOut name environment streams run delays { d with pipes := (operand, found) :: d.pipes }
    | none =>
      if done.hungry && !whole then
        if fresh.length < Pipe.capacity then
          awaitInput 0 (if done.sips then fresh.length else Pipe.capacity - 1) false
          carryOut name environment streams run delays d
        else
          consume 0 fresh.length
          let d := { d with held := start.input }
          if streams && d.threshold ≤ start.input.length then
            let settled := settledOutput run start
            if !(← flush name [(1, settled.drop d.flushed)]) then return (none, writeFailure name)
            carryOut name environment streams run delays
              { d with flushed := settled.length, threshold := 2 * start.input.length }
          else carryOut name environment streams run delays d
      else
        setRoot (withoutView (← site) done.site)
        consume 0 (done.taken - d.held.length)
        putBack (d.held.drop done.taken)
        if done.outgrown then suffer .fileSize
        let written ← flush name (dropOutput d.flushed done.written.reverse).reverse
        return (result, if written then done.status else writeFailure name)

/-- Lets a tool do its work, and tells its status. -/
def perform (name : String) (environment : List (String × Octets)) (streams : Bool) (run : Tool Unit) :
    Action Nat := do
  return (← carryOut name environment streams run maxDelays {}).2

end ScopedCheck.Script.Action
