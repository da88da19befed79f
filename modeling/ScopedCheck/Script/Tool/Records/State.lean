import ScopedCheck.Script.Redirection
import ScopedCheck.Script.Process
import ScopedCheck.Script.Tool.Basic
import ScopedCheck.Script.Tool.Records.Layout
import ScopedCheck.Script.Tool.Records.Program
import ScopedCheck.Script.Tool.Records.Table

namespace ScopedCheck.Script.Tool.Records

/-- A stream that lines are read from, with what was read ahead. -/
structure Feed where
  stream : Nat
  ahead : Octets := []
  isOver : Bool := false
  /-- The process that writes them. -/
  process : Option Nat := none

/-- A stream that is written to, with what is held back. -/
structure Sink where
  stream : Nat
  /-- Last first. -/
  held : List Octets := []
  size : Nat := 0
  process : Option Nat := none
  isImmediate : Bool := false

/-- What a name of a function leads to. -/
inductive Slot where
  | value (v : Value)
  | table (number : Nat)

/-- A separator, and the text that it was made of. -/
structure Cutting where
  text : Octets
  separator : Separator

structure State where
  program : Program
  /-- The name of the tool, for messages. -/
  name : String
  environment : List (String × Octets)
  values : Std.HashMap String Value := ∅
  arrays : Std.HashMap String Nat := ∅
  tables : Array Table := #[]
  /-- The values of the function that runs. -/
  frame : Array Slot := #[]
  record : Value := .unset
  fields : Array Value := #[]
  /-- Whether the fields are those of the record. -/
  isCut : Bool := true
  fieldCut : Cutting := ⟨[' '], .blanks⟩
  recordCut : Cutting := ⟨['\n'], .char '\n'⟩
  /-- The expressions that were made of texts. -/
  expressions : Std.HashMap Octets Regex := ∅
  /-- Where records come from, and which argument comes next. -/
  main : Option Feed := none
  nextArgument : Nat := 1
  sawFile : Bool := false
  feeds : List ((Origin × Octets) × Feed) := []
  /-- Where output goes besides the usual place, the one used last first. -/
  sinks : List ((Bool × Octets) × Sink) := []
  output : Sink
  /-- The rules that have begun and not ended. -/
  begun : List Nat := []
  status : Nat := 0
  seed : Float := 0
  chance : Nat := 1

/-- Why the next statement is not carried out. -/
inductive Halt where
  | next
  | nextFile
  | leave
  | giveBack (v : Value)
  | stopLoop
  | nextRound
  | failed

abbrev Running := ExceptT Halt (StateT State Action)

/-- Carries an action of the system out. -/
def act {α : Type} (action : Action α) : Running α := ExceptT.lift (StateT.lift action)

def tell (message : String) : Running Unit := do
  let name := (← get).name
  act (Action.write 2 (Octets.ofString (name ++ ": " ++ message ++ "\n")))

/-- Ends the program with a message. -/
def fail {α : Type} (message : String) : Running α := do
  tell message
  modify fun s => { s with status := 2 }
  throw .failed

def defaultTemplate : Octets := "%.6g".toList

/-- The value of a name, where no field is concerned. -/
def plainValue (name : String) : Running Value :=
  return ((← get).values[name]?).getD .unset

def setPlain (name : String) (v : Value) : Running Unit :=
  modify fun s => { s with values := s.values.insert name v }

def templateOf (name : String) : Running Octets := do
  match ← plainValue name with
  | .number x => return (numberText defaultTemplate x)
  | v => return v.toText defaultTemplate

def textOf (v : Value) : Running Octets := do
  match v with
  | .number x =>
    match shownWhole? x with
    | some n => return Octets.ofInt n
    | none => return numberText (← templateOf "CONVFMT") x
  | v => return v.toText defaultTemplate

/-- Ends the program because of what it does, and tells where. -/
def misdo {α : Type} (message : String) : Running α := do
  let file ← textOf (← plainValue "FILENAME")
  let number (name : String) : Running String := do
    return Octets.text (numberText defaultTemplate (← plainValue name).toNumber)
  fail ("run time error: " ++ message ++ "\n\tFILENAME=\"" ++ Octets.text file ++ "\" FNR=" ++
    (← number "FNR") ++ " NR=" ++ (← number "NR"))

/-- The expression that a text is. -/
def expressionOf (text : Octets) : Running Regex := do
  match (← get).expressions[text]? with
  | some r => return r
  | none =>
    match Pattern.read text with
    | .ok r =>
      modify fun s => { s with expressions := s.expressions.insert text r }
      return r
    | .error message =>
      misdo ("regular expression compile failed (" ++ message ++ ")\n" ++ Octets.text text)

def separatorOf (text : Octets) : Running Separator := do
  match separator? text with
  | .ok s => return s
  | .error message =>
    misdo ("regular expression compile failed (" ++ message ++ ")\n" ++ Octets.text text)

/-- The separator of fields, which a variable tells. -/
def fieldSeparator : Running Separator := do
  let text ← textOf (← plainValue "FS")
  let s ← get
  if text = s.fieldCut.text then return s.fieldCut.separator
  let separator ← separatorOf text
  modify fun s => { s with fieldCut := ⟨text, separator⟩ }
  return separator

/-- Cuts the record into its fields, if that has not been done. -/
def cutRecord : Running Unit := do
  let s ← get
  if !s.isCut then
    let separator ← fieldSeparator
    let text ← textOf s.record
    modify fun s => { s with fields := ((cut separator text).map Value.given).toArray, isCut := true }

/-- Takes a record up. Where it is cut later, it is cut at what separates fields now. -/
def setRecord (v : Value) : Running Unit := do
  let _ ← fieldSeparator
  modify fun s => { s with record := v, isCut := false, fields := #[] }

/-- Makes the record of its fields. -/
def joinFields : Running Unit := do
  let between ← textOf (← plainValue "OFS")
  let mut pieces := #[]
  for v in (← get).fields do
    pieces := pieces.push (← textOf v)
  let text := between.intercalate pieces.toList
  modify fun s => { s with record := .given text }

def fieldAt (index : Int) : Running Value := do
  if index < 0 then misdo ("negative field index $" ++ toString index)
  if index = 0 then return (← get).record
  cutRecord
  return ((← get).fields[index.toNat - 1]?).getD .unset

def resized (fields : Array Value) (count : Nat) : Array Value :=
  if count ≤ fields.size then fields.extract 0 count
  else fields ++ Array.replicate (count - fields.size) (.given [])

def setField (index : Int) (v : Value) : Running Unit := do
  if index < 0 then misdo ("negative field index $" ++ toString index)
  if index = 0 then setRecord v
  else
    cutRecord
    let n := index.toNat
    modify fun s =>
      let fields := if s.fields.size < n then resized s.fields n else s.fields
      { s with fields := fields.set! (n - 1) v }
    joinFields

def fieldCount : Running Nat := do
  cutRecord
  return (← get).fields.size

/-- The value of a name of the whole program. -/
def sharedValue (name : String) : Running Value := do
  if name = "NF" then return Value.ofNat (← fieldCount) else plainValue name

def setShared (name : String) (v : Value) : Running Unit := do
  if name = "NF" then
    cutRecord
    let count := (clamped v.toNumber).toNat
    modify fun s => { s with fields := resized s.fields count }
    joinFields
  else
    if name = "FS" then cutRecord
    setPlain name v

/-- How much output is held back at most. -/
def blockSize : Nat := 4096

/-- Writes what a sink holds back, or only whole blocks of it. -/
def drained (whole : Bool) (sink : Sink) : Action (Sink × Option Action.Obstacle) := do
  if sink.size = 0 || (!whole && sink.size < blockSize) then return (sink, none)
  let text := sink.held.reverse.flatten
  let count := if whole then text.length else text.length / blockSize * blockSize
  let done ← Action.writeStream sink.stream (text.take count)
  let rest := text.drop count
  return ({ sink with held := if rest = [] then [] else [rest], size := rest.length }, done)

def Sink.push (text : Octets) (sink : Sink) : Sink :=
  { sink with held := text :: sink.held, size := sink.size + text.length }

/-- Writes to a sink, as far as there is much to write. -/
def fed (text : Octets) (sink : Sink) : Action (Sink × Option Action.Obstacle) :=
  drained sink.isImmediate (sink.push text)

/-- Writes all that is held back. -/
def flushAll : Running Unit := do
  let s ← get
  let (output, _) ← act (drained true s.output)
  let mut sinks := #[]
  for (key, sink) in s.sinks do
    let (sink, _) ← act (drained true sink)
    sinks := sinks.push (key, sink)
  modify fun s => { s with output := output, sinks := sinks.toList }

def put (text : Octets) : Running Unit := do
  let (output, _) ← act (fed text (← get).output)
  modify fun s => { s with output := output }

/-- Holds a stream open until it is let go. -/
def hold (stream : Nat) : Action Unit := modify fun s => { s with kept := stream :: s.kept }

def letGo (stream : Nat) : Action Unit := modify fun s => { s with kept := s.kept.erase stream }

/-- Starts a shell for a command, connected in some way. -/
def startShell (shell : String) (command : Octets) (change : Process → Process) : Running Nat := do
  flushAll
  let environment := (← get).environment
  act (Action.fork (.program "sh" [shell.toList, "-c".toList, command] environment) fun p =>
    change { p with kept := [] })

/-- Starts a command, and tells the stream that leads to it or comes from it. -/
def connectShell (command : Octets) (reads : Bool) : Running (Nat × Nat) := do
  let number ← act (Action.newPipe [])
  let source ← act (Action.newStream (.pipe number true false))
  let sink ← act (Action.newStream (.pipe number false true))
  let own := if reads then source else sink
  act (hold own)
  let id ← startShell "/bin/sh" command fun p =>
    if reads then p.connected 1 sink else p.connected 0 source
  return (own, id)

/-- The number that stands for the end of a command. -/
def numberOf : Ending → Nat
  | .exited status => status % 256
  | .killed signal => 256 + signal.number.toNat

/-- The stream of the output or of the error text, if a name stands for one. -/
def standardStream? (name : Octets) : Action (Option Nat) := do
  if name = "/dev/stderr".toList then Action.stream? 2 else return none

/-- Opens what output is to go to. -/
def openSink (outlet : Outlet) (name : Octets) : Running Sink := do
  if outlet = .command then
    let (stream, id) ← connectShell name false
    return { stream := stream, process := some id }
  if let some stream ← act (standardStream? name) then
    return { stream := stream, isImmediate := true }
  match ← act (Action.openFile (if outlet = .appended then .append else .write) name) with
  | .ok stream =>
    act (hold stream)
    return { stream := stream }
  | .error cause =>
    fail ("cannot open \"" ++ Octets.text name ++ "\" for output (" ++ cause.reason ++ ")")

/-- Writes a text where it is to go. -/
def putTo (outlet : Outlet) (name text : Octets) : Running Unit := do
  if outlet ≠ .command && name = "/dev/stdout".toList then put text
  else
    let key : Bool × Octets := (outlet = .command, name)
    let sink ← match (← get).sinks.lookup key with
      | some sink => pure sink
      | none => openSink outlet name
    let (sink, _) ← act (fed text sink)
    modify fun s => { s with sinks := (key, sink) :: s.sinks.filter (·.1 ≠ key) }

/-- Ends the writing to a sink, and tells the number that comes of that. -/
def closeSink (sink : Sink) : Running Nat := do
  let _ ← act (drained true sink)
  match sink.process with
  | none =>
    act (letGo sink.stream)
    return 0
  | some id =>
    act (letGo sink.stream)
    return numberOf (← act (Action.awaitEnding id))

/-- How much is read at once. -/
def readSize : Nat := 262144

/-- Reads until there is enough, or no more comes. -/
def gathered (stream : Nat) : (rounds size : Nat) → (pieces : List Octets) → Action (Octets × Bool)
  | 0, _, pieces => return (pieces.reverse.flatten, true)
  | rounds + 1, size, pieces => do
    let (text, whole) ← Action.availableFrom stream
    let text := text.take (readSize - size)
    Action.consumeFrom stream text.length
    let size := size + text.length
    let (rest, _) ← Action.availableFrom stream
    if (whole && rest.isEmpty) || readSize ≤ size then
      return ((text :: pieces).reverse.flatten, whole && size < readSize)
    Action.awaitMore stream 0 false
    gathered stream rounds size (text :: pieces)

/-- Reads more of what a feed gives. -/
def fill (feed : Feed) : Running Feed := do
  if (← act get).world.stream feed.stream = .directory then fail "read error (Is a directory)"
  let (text, isOver) ← act (gathered feed.stream 100000000 0 [])
  return { feed with ahead := feed.ahead ++ text, isOver := isOver || text.isEmpty }

def recordSeparator : Running Separator := do
  let text ← textOf (← plainValue "RS")
  let s ← get
  if text = s.recordCut.text then return s.recordCut.separator
  let separator ← match text with
    | [c] => pure (Separator.char c)
    | _ => separatorOf text
  modify fun s => { s with recordCut := ⟨text, separator⟩ }
  return separator

/-- The first record of a text, and what comes after it, if both are certain. -/
def firstRecord? (separator : Separator) (isOver : Bool) (text : Octets) :
    Option (Octets × Octets) :=
  let ending (record rest : Octets) : Option (Octets × Octets) :=
    if rest = [] && !isOver then none else some (record, rest)
  match separator with
  | .char c =>
    let record := text.takeWhile (· ≠ c)
    match text.drop record.length with
    | [] => ending record []
    | _ :: rest => some (record, rest)
  | .nothing =>
    let record := Id.run do
      let mut found := #[]
      let mut newlines := 0
      for c in text do
        if c = '\n' then newlines := newlines + 1
        else if 2 ≤ newlines then break
        else
          for _ in [0:newlines] do found := found.push '\n'
          newlines := 0
          found := found.push c
      return found.toList
    let rest := text.drop record.length
    let after := rest.dropWhile (· = '\n')
    if after = [] then ending record [] else some (record, after)
  | .blanks => ending text []
  | .matching r =>
    match r.find? [] text with
    | some m =>
      if m.text = [] || (m.after = [] && !isOver) then ending text [] else some (m.before, m.after)
    | none => ending text []

/-- Takes the next record from a feed. -/
def takeRecord (separator : Separator) : (rounds : Nat) → Feed → Running (Option Octets × Feed)
  | 0, feed => return (none, feed)
  | rounds + 1, feed => do
    let text := match separator with
      | .nothing => feed.ahead.dropWhile (· = '\n')
      | _ => feed.ahead
    if text = [] && feed.isOver then return (none, { feed with ahead := [] })
    match if text = [] then none else firstRecord? separator feed.isOver text with
    | some (record, rest) => return (some record, { feed with ahead := rest })
    | none =>
      let feed ← fill { feed with ahead := text }
      takeRecord separator rounds feed

def nextRecord (feed : Feed) : Running (Option Octets × Feed) := do
  takeRecord (← recordSeparator) 100000000 feed

/-- Opens what lines are to be read from, if that can be done. -/
def openFeed? (origin : Origin) (name : Octets) : Running (Option Feed) := do
  match origin with
  | .command =>
    let (stream, id) ← connectShell name true
    return some { stream := stream, process := some id }
  | .file =>
    if name = ['-'] || name = "/dev/stdin".toList then
      match ← act (Action.stream? 0) with
      | some stream => return some { stream := stream }
      | none => fail "read error (Bad file descriptor)"
    match ← act (Action.openFile .read name) with
    | .ok stream =>
      act (hold stream)
      return some { stream := stream }
    | .error _ => return none

/-- The arguments of the program. -/
def argumentAt (index : Nat) : Running Octets := do
  let s ← get
  let table := ((s.arrays["ARGV"]?).bind fun number => s.tables[number]?).getD {}
  textOf (table.get (.whole index))

/-- A name and the value that an argument gives it. -/
def assignment? (text : Octets) : Option (String × Octets) :=
  let name := text.takeWhile Octets.isNameChar
  match text.drop name.length with
  | '=' :: value => if Octets.isName name then some (String.ofList name, value) else none
  | _ => none

def assignText (name : String) (text : Octets) : Running Unit :=
  setShared name (.given (unescaped (text.length + 1) text))

/-- Goes on to the next argument that is a file; without any, the input is read. -/
def openNext : (steps : Nat) → Running (Option Feed)
  | 0 => return none
  | steps + 1 => do
    let s ← get
    let count := (clamped (← plainValue "ARGC").toNumber).toNat
    if count ≤ s.nextArgument then
      if s.sawFile then return none
      set { s with sawFile := true }
      setPlain "FILENAME" (.text ['-'])
      openFeed? .file ['-']
    else
      set { s with nextArgument := s.nextArgument + 1 }
      let argument ← argumentAt s.nextArgument
      if argument.isEmpty then openNext steps
      else match assignment? argument with
        | some (name, text) =>
          assignText name text
          openNext steps
        | none =>
          modify fun s => { s with sawFile := true }
          setPlain "FILENAME" (.given argument)
          setPlain "FNR" (.number 0)
          match ← openFeed? .file argument with
          | some feed => return some feed
          | none =>
            let cause ← act do
              match (← Action.site).find true (Tool.path argument) with
              | .error cause => return cause
              | .ok _ => return Fault.permissionDenied
            fail ("cannot open \"" ++ Octets.text argument ++ "\" (" ++ cause.reason ++ ")")

/-- The next record of the input. -/
def mainRecord : (rounds : Nat) → Running (Option Octets)
  | 0 => return none
  | rounds + 1 => do
    match (← get).main with
    | none =>
      match ← openNext 1000000 with
      | none => return none
      | some feed =>
        modify fun s => { s with main := some feed }
        mainRecord rounds
    | some feed =>
      let (record, feed) ← nextRecord feed
      match record with
      | some record =>
        modify fun s => { s with main := some feed }
        setPlain "NR" (.number ((← plainValue "NR").toNumber + 1))
        setPlain "FNR" (.number ((← plainValue "FNR").toNumber + 1))
        return some record
      | none =>
        act (letGo feed.stream)
        modify fun s => { s with main := none }
        mainRecord rounds

def nextMain : Running (Option Octets) := mainRecord 100000000

/-- Leaves the rest of the file that is being read. -/
def leaveFile : Running Unit := do
  if let some feed := (← get).main then
    act (letGo feed.stream)
    modify fun s => { s with main := none }

end ScopedCheck.Script.Tool.Records
