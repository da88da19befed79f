import ScopedCheck.Script.Builtin
import ScopedCheck.Script.Tool.Filters
import ScopedCheck.Script.Tool.Passing

namespace ScopedCheck.Script.Signalling

open Script.Action
open Passing (complain)

def usage : String :=
  "\nUsage:\n kill [options] <pid> [...]\n\nOptions:\n" ++
  " <pid> [...]            send signal to every <pid> listed\n" ++
  " -<signal>, -s, --signal <signal>\n" ++
  "                        specify the <signal> to be sent\n" ++
  " -q, --queue <value>    integer value to be sent with the signal\n" ++
  " -l, --list=[<signal>]  list all signal names, or convert one to a name\n" ++
  " -L, --table            list all signal names in a nice table\n\n" ++
  " -h, --help     display this help and exit\n" ++
  " -V, --version  output version information and exit\n\n" ++
  "For more details see kill(1).\n"

/-- Tells how the tool is used, after what is wrong. -/
def misuse (shown : String) (message : String) : Action Nat := do
  if message ≠ "" then complain shown message
  write 2 (Octets.ofString usage)
  return 1

/-- The names of the signals in the order of their numbers. -/
def names : List String :=
  (List.range' 1 31).map fun n =>
    if Int.ofNat n = Signal.stackFault.2 then Signal.stackFault.1
    else if n = 29 then "POLL" else Signal.name ⟨n⟩

/-- The greatest number that may be given for a signal. -/
def greatest : Nat := 93

/-- The signal of a number or a name, which may begin with `SIG`. -/
def signal? (text : Octets) : Option Signal :=
  if text ≠ [] && text.all Char.isDigit then
    let n := Octets.natOf 10 text
    if n ≤ greatest then some ⟨n⟩ else none
  else
    let name := text.map Char.toUpper
    let name := if "SIG".toList.isPrefixOf name then name.drop 3 else name
    let others : List (String × Int) := [("EXIT", 0), ("NULL", 0), ("CLD", 17), ("IOT", 6), ("IO", 29)]
    match names.findIdx? (·.toList = name) with
    | some n => some ⟨n + 1⟩
    | none => (others.lookup (String.ofList name)).map fun n => ⟨n⟩

/-- The first argument that names a signal after a dash, and the other arguments. -/
def splitSignal : List Octets → Option Signal × List Octets
  | [] => (none, [])
  | word :: rest =>
    let named := match word with
      | '-' :: text => signal? text
      | _ => none
    match named with
    | some signal => (some signal, rest)
    | none =>
      let (found, others) := splitSignal rest
      (found, word :: others)

/-- The names of all signals in lines that are not too long. -/
def listing : Octets :=
  let (lines, last) := names.foldl (fun (found : Octets × Octets) name =>
    let (lines, last) := found
    if last = [] then (lines, name.toList)
    else if last.length + name.length + 1 < 80 then (lines, last ++ ' ' :: name.toList)
    else (lines ++ last ++ ['\n'], name.toList)) ([], [])
  lines ++ last ++ ['\n']

/-- The names of all signals with their numbers, seven in a line. -/
def table : Octets :=
  (names.zipIdx 1).flatMap fun (name, n) =>
    Tool.padLeft 2 (Octets.ofNat n) ++ ' ' :: name.toList ++
      if n % 7 = 0 then ['\n'] else List.replicate (8 - name.length) ' '

/-- Tells the name of a number or the number of a name. -/
def convert (shown : String) (text : Octets) : Action Nat := do
  match signal? text with
  | some signal =>
    let isNumber := text.all Char.isDigit
    let name := names.getD (signal.number.toNat - 1) (toString signal.number)
    write 1 (Octets.ofString ((if isNumber then name else toString signal.number) ++ "\n"))
  | none => complain shown ("unknown signal name " ++ Octets.text text)
  return 0

/-- The process or group that a number names. -/
def target? (text : Octets) : Option Int :=
  match text with
  | '-' :: digits => (Tool.natural? digits).map fun n => -(n : Int)
  | _ => (Tool.natural? text).map fun n => (n : Int)

/-- Sends a signal to processes one after the other, up to one that is no number. -/
def sendAll (react : Reaction) (shown : String) (signal : Signal) :
    (status : Nat) → List Octets → Action Nat
  | status, [] => return status
  | status, word :: rest => do
    match target? word with
    | none =>
      complain shown ("failed to parse argument: '" ++ Octets.text word ++ "'")
      return 1
    | some id =>
      let reason ← if signal.number < 0 || Signal.bound ≤ signal.number then pure (some "Invalid argument")
        else if ← Builtin.signalTo react signal id then pure none
        else pure (some "No such process")
      spend stepTime
      match reason with
      | none => sendAll react shown signal status rest
      | some reason =>
        complain shown ("(" ++ toString id ++ "): " ++ reason)
        sendAll react shown signal 1 rest

/-- Sends signals to processes, or lists them. -/
def run (react : Reaction) (shown : String) (arguments : List Octets) : Action Nat := do
  let (named, rest) := splitSignal arguments
  let o := Tool.Options.read
    { letters := "lLhV\x01", valued := "sq", optional := "\x01", anywhere := false
      long := [("signal", 's'), ("queue", 'q'), ("list", '\x01'), ("table", 'L'), ("help", 'h'),
        ("version", 'V')] } rest
  match o.fault? with
  | some fault =>
    let letter := (fault.toList.reverse.drop 1).headD ' '
    misuse shown ("invalid argument " ++ String.singleton letter)
  | none =>
    if o.has 'l' || o.has '\x01' then
      match (o.value? '\x01').getD [], o.operands with
      | c :: cs, _ => convert shown (c :: cs)
      | [], text :: _ => convert shown text
      | [], [] =>
        write 1 listing
        return 0
    else if o.has 'L' then
      write 1 (table ++ ['\n'])
      return 0
    else if o.operands = [] then misuse shown ""
    else
      let signal := match o.value? 's' with
        | some text => (signal? text).getD ⟨-1⟩
        | none => named.getD .terminate
      sendAll react shown signal 0 o.operands

end ScopedCheck.Script.Signalling
