import ScopedCheck.Script.Tool.Running

namespace ScopedCheck.Script.Passing

open Script.Action

/-- Tells what went wrong with a tool. -/
def complain (name message : String) : Action Unit :=
  write 2 (Octets.ofString (name ++ ": " ++ message ++ "\n"))

/-- Passes on what comes from a stream. Tells whether everything could be written. -/
def pour (index : Nat) (put : Octets → Action Bool) : (rounds : Nat) → Action Bool
  | 0 => return true
  | rounds + 1 => do
    let (text, whole) ← availableFrom index
    consumeFrom index text.length
    if !(← put text) then return false
    if whole then return true
    awaitMore index 0 false
    spend stepTime
    pour index put rounds

/-- Writes to the output of a tool, or complains that it cannot be done. -/
def putOut (name : String) (text : Octets) : Action Bool := do
  match ← tryWrite 1 text with
  | none => return true
  | some obstacle =>
    write 2 (Octets.ofString (writeComplaint name obstacle))
    return false

/-- Whether a file is written to behind the place where it is read. -/
def exhausts (index : Nat) : Action Bool := do
  match (← get).world.stream index, ← fileOf? 1 with
  | .file identity offset _, some (other, place) => return identity = other && offset < place
  | _, _ => return false

/-- Writes what the operands hold, one after the other. -/
def concatenate (name : String) (operands : List Octets) : Action Nat := do
  let mut status := 0
  for operand in (if operands = [] then [['-']] else operands) do
    let opened ← if operand = ['-'] then pure (((← stream? 0).map Except.ok).getD (.error Fault.other))
      else openFile .read operand
    match opened with
    | .error cause =>
      let reason := if operand = ['-'] then "Bad file descriptor" else cause.reason
      complain name (Tool.named operand ++ ": " ++ reason)
      status := 1
    | .ok index =>
      if (← get).world.stream index = .directory then
        complain name (Tool.named operand ++ ": Is a directory")
        status := 1
      else if ← exhausts index then
        complain name (Tool.named operand ++ ": input file is output file")
        status := 1
      else if !(← holding [index] (pour index (putOut name) Engine.maxRounds)) then return 1
  return status

/-- Writes the input to the output and to files. -/
def tee (name : String) (o : Tool.Options) : Action Nat := do
  let mut status := 0
  let mut targets := #[]
  for operand in o.operands do
    match ← openFile (if o.has 'a' then .append else .write) operand with
    | .ok index => targets := targets.push index
    | .error cause =>
      complain name (Tool.named operand ++ ": " ++ cause.reason)
      status := 1
  let all := targets.toList
  let put (text : Octets) : Action Bool := do
    let done ← putOut name text
    for index in all do
      let _ ← writeStream index text
    return done
  match ← stream? 0 with
  | none => return 1
  | some index =>
    if ← holding all (pour index put Engine.maxRounds) then return status else return 1

/-- How long a text such as `1.5m` says, in microseconds. -/
def duration? (text : Octets) : Option Nat :=
  let ((n, scale), rest) := Format.spanDecimal text
  let unit := match rest with
    | [] | ['s'] => some 1
    | ['m'] => some 60
    | ['h'] => some 3600
    | ['d'] => some 86400
    | _ => none
  if text = "inf".toList || text = "infinity".toList then some (Nat.pow 10 18)
  else if !(text.take 2).any Char.isDigit then none
  else unit.map fun seconds => (n * seconds * 1000000 + scale - 1) / scale

/-- Waits as long as all the arguments say. -/
def sleep (name : String) (arguments : List Octets) : Action Nat := do
  let misuse (message : String) : Action Nat := do
    complain name (message ++ "\nTry '" ++ name ++ " --help' for more information.")
    return 1
  if arguments = [] then misuse "missing operand"
  else match arguments.find? fun a => (duration? a).isNone with
    | some a => misuse ("invalid time interval " ++ Tool.cited a)
    | none =>
      spend ((arguments.filterMap duration?).foldl (· + ·) 0)
      return 0

/-- How many bytes are written at once by a tool that never ends, and how long that takes. -/
def block : Nat := 8192

def blockTime : Nat := 100

/-- Writes a line again and again. -/
def repeatLine (name : String) (text : Octets) : (rounds : Nat) → Action Nat
  | 0 => return 0
  | rounds + 1 => do
    if !(← putOut name text) then return 1
    spend blockTime
    repeatLine name text rounds

def yes (name : String) (arguments : List Octets) : Action Nat := do
  let line := (if arguments = [] then ['y'] else [' '].intercalate arguments) ++ ['\n']
  let copies := block / line.length + 1
  repeatLine name (List.replicate copies line).flatten Engine.maxRounds

end ScopedCheck.Script.Passing
