import ScopedCheck.Script.Tool.Passing
import ScopedCheck.Script.Tool.Records.Evaluation
import ScopedCheck.Script.Tool.Records.Reader

namespace ScopedCheck.Script.Tool.Records

/-- How deep calls and expressions may lie within each other. -/
def maxCalls : Nat := 1000000000

/-- Whether a rule is for the record. -/
def isFor (number : Nat) (c : Condition) : Running Bool := do
  let holds (e : Expression) : Running Bool := return (← evaluate maxCalls e).isTrue
  match c with
  | .always => return true
  | .holds e => holds e
  | .between first last =>
    let begun := (← get).begun.contains number
    if !begun then
      if !(← holds first) then return false
    let ends ← holds last
    modify fun s =>
      let others := s.begun.erase number
      { s with begun := if ends then others else number :: others }
    return true

def applyRules : (number : Nat) → List Rule → Running Unit
  | _, [] => return
  | number, rule :: rest => do
    if ← isFor number rule.condition then executeAll maxCalls rule.body
    applyRules (number + 1) rest

/-- Carries the rules out on the next record, if there is one. -/
def handleRecord (rules : List Rule) : Running Bool := do
  match ← nextMain with
  | none => return false
  | some record =>
    setRecord (.given record)
    act (Action.spend 1)
    let apply : Running Bool := do
      applyRules 0 rules
      return true
    tryCatchThe Halt apply fun halt => do
      match halt with
      | .next => return true
      | .nextFile =>
        leaveFile
        return true
      | halt => throw halt

/-- Runs a part, and tells whether the program goes on with its next part. -/
def runPart (part : Running Unit) : Running Bool := do
  let run : Running Bool := do
    part
    return true
  tryCatchThe Halt run fun halt => do
    match halt with
    | .leave => return false
    | .failed => throw .failed
    | _ => return true

def runParts (p : Program) : Running Unit := do
  let before := p.before.forM (executeAll maxCalls)
  let goes ← runPart before
  if goes && !(p.rules.isEmpty && p.after.isEmpty) then
    let _ ← runPart (repeatStep (handleRecord p.rules) maxRounds)
  let _ ← runPart (p.after.forM (executeAll maxCalls))

/-- Ends all that is written; the commands that read it come first. -/
def closeSinks : Running Unit := do
  for (_, sink) in (← get).sinks do
    let _ ← closeSink sink
  let (output, obstacle) ← act (drained true (← get).output)
  modify fun s => { s with output := output }
  if let some obstacle := obstacle then
    modify fun s => { s with status := 2 }
    tell ("close failed on file \"/dev/stdout\" (" ++ obstacle.reason ++ ")")

/-- What the arguments ask for. -/
structure Request where
  separator : Option Octets := none
  assignments : List Octets := []
  files : List Octets := []
  operands : List Octets := []
  fault : Option String := none
  /-- A text that is written in place of a run. -/
  notice : Option String := none

def version : String := "mawk 1.3.4 20240123\n"

def usage : String :=
  "Usage: mawk [Options] [Program] [file ...]\n" ++
  "\n" ++
  "Program:\n" ++
  "    The -f option value is the name of a file containing program text.\n" ++
  "    If no -f option is given, a \"--\" ends option processing; the following\n" ++
  "    parameters are the program text.\n" ++
  "\n" ++
  "Options:\n" ++
  "    -f program-file  Program  text is read from file instead of from the\n" ++
  "                     command-line.  Multiple -f options are accepted.\n" ++
  "    -F value         sets the field separator, FS, to value.\n" ++
  "    -v var=value     assigns value to program variable var.\n" ++
  "    --               unambiguous end of options.\n" ++
  "\n" ++
  "    Implementation-specific options are prefixed with \"-W\".  They can be\n" ++
  "    abbreviated:\n" ++
  "\n" ++
  "    -W version       show version information and exit.\n" ++
  "    -W compat        pre-POSIX 2001.\n" ++
  "    -W dump          show assembler-like listing of program and exit.\n" ++
  "    -W help          show this message and exit.\n" ++
  "    -W interactive   set unbuffered output, line-buffered input.\n" ++
  "    -W exec file     use file as program as well as last option.\n" ++
  "    -W posix         stricter POSIX checking.\n" ++
  "    -W random=number set initial random seed.\n" ++
  "    -W sprintf=number adjust size of sprintf buffer.\n" ++
  "    -W usage         show this message and exit.\n"

/-- Reads the options that come first. -/
def readRequest : (steps : Nat) → List Octets → Request → Request
  | 0, _, r => r
  | _, [], r => r
  | steps + 1, argument :: rest, r =>
    match argument with
    | ['-'] => { r with operands := argument :: rest }
    | ['-', '-'] => { r with operands := rest }
    | '-' :: '-' :: name =>
      if name = "version".toList then { r with notice := some version }
      else if name = "help".toList || name = "usage".toList then { r with notice := some usage }
      else { r with fault := some ("not an option: " ++ Octets.text argument) }
    | '-' :: letter :: value =>
      if "FvfW".toList.contains letter then
        let given := if value ≠ [] then some (value, rest) else match rest with
          | value :: rest => some (value, rest)
          | [] => none
        match given with
        | none =>
          { r with fault := some ("option -" ++ String.singleton letter ++ " lacks argument") }
        | some (value, rest) =>
          let r := match letter with
            | 'F' => { r with separator := some value }
            | 'v' => { r with assignments := r.assignments ++ [value] }
            | 'f' => { r with files := r.files ++ [value] }
            | _ =>
              if value.head? = some 'v' then { r with notice := some version }
              else if value.head? = some 'h' || value.head? = some 'u' then { r with notice := some usage }
              else r
          readRequest steps rest r
      else { r with fault := some ("not an option: " ++ Octets.text argument) }
    | _ => { r with operands := argument :: rest }

/-- The text of a program that files hold, or why it cannot be had. -/
def programText : List Octets → Action (Except String Octets)
  | [] => return .ok []
  | file :: rest => do
    let opened ← if file = ['-'] then pure (((← Action.stream? 0).map Except.ok).getD (.error Fault.other))
      else Action.openFile .read file
    match opened with
    | .error cause =>
      return .error ("cannot open \"" ++ Octets.text file ++ "\" (" ++ cause.reason ++ ")")
    | .ok stream =>
      let (text, _) ← Action.holding [stream] (gathered stream 1000000 0 [])
      match ← programText rest with
      | .error message => return .error message
      | .ok more => return .ok (text ++ (if text.getLast? = some '\n' then [] else ['\n']) ++ more)

/-- The values that a program starts with. -/
def prepare (name : Octets) (r : Request) (operands : List Octets) : Running Unit := do
  for (key, text) in [("FS", " "), ("OFS", " "), ("ORS", "\n"), ("RS", "\n"), ("SUBSEP", "\x1c"),
      ("CONVFMT", "%.6g"), ("OFMT", "%.6g"), ("FILENAME", "")] do
    setPlain key (.text text.toList)
  setPlain "NR" (.number 0)
  setPlain "FNR" (.number 0)
  setPlain "ARGC" (Value.ofNat (operands.length + 1))
  let arguments ← tableOf (.shared "ARGV")
  for (text, index) in (name :: operands).zipIdx do
    withTable arguments fun t => ((), t.set (.whole index) (.given text))
  let environment ← tableOf (.shared "ENVIRON")
  for (key, value) in (← get).environment do
    withTable environment fun t => ((), t.set (.text (Octets.ofString key)) (.given value))
  if let some text := r.separator then
    assignText "FS" text
    if let .error message := separator? (← textOf (← plainValue "FS")) then
      fail ("line 0: regular expression compile failed (" ++ message ++ ")\n" ++ Octets.text text)
  for text in r.assignments do
    match assignment? text with
    | some (key, value) => assignText key value
    | none => fail ("improper assignment: -v " ++ Octets.text text)

/-- Runs a program with its operands, and tells the status. -/
def runProgram (shown : String) (name : Octets) (environment : List (String × Octets)) (r : Request)
    (p : Program) (operands : List Octets) : Action Nat := do
  let stream ← match ← Action.stream? 1 with
    | some stream => pure stream
    | none => Action.newStream .directory
  let start : State :=
    { program := p, name := shown, environment := environment, output := { stream := stream } }
  let part : Running Unit := do
    prepare name r operands
    runParts p
  let all : Running Unit := do
    tryCatchThe Halt part fun _ => return
    closeSinks
  let (_, s) ← (all.run).run start
  return s.status

/-- Runs the tool, which goes by the last name of its path. -/
def run (path : String) (environment : List (String × Octets)) (arguments : List Octets) :
    Action Nat := do
  let shown := Octets.text (lastName (Octets.ofString path))
  let r := readRequest (arguments.length + 1) arguments {}
  let complain (message : String) : Action Nat := do
    Passing.complain shown message
    return 2
  match r.fault, r.notice, r.files, r.operands with
  | some fault, _, _, _ => complain fault
  | none, some notice, _, _ =>
    Action.write 1 (Octets.ofString notice)
    return 0
  | none, none, [], [] =>
    if let some text := r.assignments.find? fun text => (assignment? text).isNone then
      return ← complain ("improper assignment: -v " ++ Octets.text text)
    if arguments.isEmpty then Action.write 2 usage.toList
    return 0
  | none, none, files, operands =>
    let text ← match files with
      | [] => pure (.ok (operands.headD []))
      | files => programText files
    let operands := if files = [] then operands.tail else operands
    match text with
    | .error message => complain message
    | .ok text =>
      match Reader.read text with
      | .ok p => runProgram shown shown.toList environment r p operands
      | .error mistakes =>
        let origin := match files with
          | file :: _ => Octets.text file ++ ": "
          | [] => ""
        for mistake in mistakes do Passing.complain shown (origin ++ mistake)
        return 2

end ScopedCheck.Script.Tool.Records
