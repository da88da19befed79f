import ScopedCheck.Script.Tool.Passing

namespace ScopedCheck.Script.Starting

open Script.Action
open Passing (complain duration?)

/-- What comes of a program: its end, or another program in its place. -/
inductive Fate where
  | ended (ending : Ending)
  | becomes (name : String) (arguments : List Octets) (environment : Environment)

def leave (status : Nat) : Action Fate := return .ended (.exited status)

def misuse (name : String) (status : Nat) (message : String) : Action Fate := do
  complain name (message ++ "\nTry '" ++ name ++ " --help' for more information.")
  leave status

/-- The status of a tool whose program cannot be started. -/
def statusOfFault (cause : Fault) : Nat :=
  if cause = .notFound then 127 else 126

/-- Puts a program in the place of a tool. -/
def become (name : String) (describe : Octets → String) (environment : Environment)
    (words : List Octets) : Action Fate := do
  match programOf (← site) environment words with
  | .ok (program, arguments) => return .becomes program arguments environment
  | .error cause =>
    complain name (describe (words.headD []) ++ ": " ++ cause.reason)
    leave (statusOfFault cause)

def failedToRun (command : Octets) : String :=
  "failed to run command " ++ Tool.cited command

def assignmentOf? (a : Octets) : Option (String × Octets) :=
  let name := a.takeWhile (· ≠ '=')
  if name ≠ [] && a.contains '=' then some (Octets.text name, a.drop (name.length + 1)) else none

/-- Makes the assignments that arguments begin with. -/
def assignLeading : Environment → List Octets → Environment × List Octets
  | environment, [] => (environment, [])
  | environment, a :: rest =>
    match assignmentOf? a with
    | some (name, value) =>
      let others := environment.filter (·.1 ≠ name)
      assignLeading (if (environment.lookup name).isSome then
          environment.map fun (n, v) => if n = name then (n, value) else (n, v)
        else others ++ [(name, value)]) rest
    | none => (environment, a :: rest)

/-- The name of a variable in braces that a text begins with after a dollar sign, and what comes after
the braces. -/
def spanBraced? (text : Octets) : Option (String × Octets) :=
  match text with
  | '\x7b' :: rest =>
    let name := rest.takeWhile fun c => c.isAlphanum || c = '_'
    match rest.drop name.length with
    | '\x7d' :: after => if Octets.isName name then some (Octets.text name, after) else none
    | _ => none
  | _ => none

/-- Splits a text into words as a shell would, with quotes, escapes and the values of variables in
braces. -/
def splitWords (environment : Environment) :
    (steps : Nat) → (quote : Option Char) → (word : Option Octets) → Octets → Except String (List Octets)
  | 0, _, word, _ => .ok word.toList
  | _, none, word, [] => .ok word.toList
  | _, some _, _, [] => .error "no terminating quote in -S string"
  | steps + 1, quote, word, c :: rest =>
    let extended (text : Octets) : Option Octets := some (word.getD [] ++ text)
    let separate (rest : Octets) : Except String (List Octets) :=
      (splitWords environment steps none none rest).map (word.toList ++ ·)
    let literal : Except String (List Octets) := splitWords environment steps quote (extended [c]) rest
    let isBare : Bool := quote = some '\''
    if quote = some c then splitWords environment steps none (extended []) rest
    else match c, rest with
      | '\\', [] => if isBare then literal else .error "invalid backslash at end of string in -S"
      | '\\', d :: rest =>
        let named : List (Char × Char) := [('n', '\n'), ('t', '\t'), ('r', '\r'), ('f', '\x0c'), ('v', '\x0b')]
        if isBare then
          if d = '\'' || d = '\\' then splitWords environment steps quote (extended [d]) rest
          else splitWords environment steps quote (extended [c]) (d :: rest)
        else if d = '_' && quote.isNone then separate rest
        else if d = 'c' then
          if quote.isNone then .ok word.toList
          else .error "'\\c' must not appear in double-quoted -S string"
        else if d = '_' then splitWords environment steps quote (extended [' ']) rest
        else if "\"#$'\\".toList.contains d then splitWords environment steps quote (extended [d]) rest
        else match named.lookup d with
          | some e => splitWords environment steps quote (extended [e]) rest
          | none => .error ("invalid sequence '\\" ++ Octets.text [d] ++ "' in -S")
      | '$', rest =>
        if isBare then literal
        else match spanBraced? rest with
          | some (name, rest) =>
            splitWords environment steps quote
              (match environment.lookup name with
                | some value => extended value
                | none => word) rest
          | none => .error ("only $\x7bVARNAME\x7d expansion is supported, error at: " ++ Octets.text (c :: rest))
      | _, _ =>
        if quote.isSome then literal
        else if Octets.isSpace c then separate rest
        else if c = '\'' || c = '"' then splitWords environment steps (some c) (extended []) rest
        else if c = '#' && word.isNone then .ok []
        else literal

/-- Puts the words of a text that is to be split in its place. -/
def splitFirst (environment : Environment) : List Octets → Except String (List Octets)
  | a :: rest =>
    let long := "--split-string=".toList
    let split (text : Octets) (rest : List Octets) : Except String (List Octets) :=
      (splitWords environment (text.length + 1) none none text).map (· ++ rest)
    if a = "-S".toList || a = "--split-string".toList then
      match rest with
      | text :: rest => split text rest
      | [] => .ok [a]
    else if "-S".toList.isPrefixOf a then split (a.drop 2) rest
    else if long.isPrefixOf a then split (a.drop long.length) rest
    else .ok (a :: rest)
  | [] => .ok []

def changeEnvironment (name : String) (environment : Environment) (arguments : List Octets) :
    Action Fate := do
  match splitFirst environment arguments with
  | .error message =>
    complain name message
    leave 125
  | .ok arguments =>
  let o := Tool.Options.read
    { letters := "i0v", valued := "uCS", anywhere := false
      long := [("ignore-environment", 'i'), ("null", '0'), ("unset", 'u'), ("chdir", 'C'),
        ("split-string", 'S'), ("debug", 'v')] }
    arguments
  if let some fault := o.fault? then misuse name 125 fault
  else
    let operands := if o.operands.head? = some ['-'] then o.operands.tail else o.operands
    let clean := o.has 'i' || o.operands.head? = some ['-']
    let unset := (o.values 'u').map Octets.text
    let kept := if clean then [] else environment.filter (!unset.contains ·.1)
    let (environment, words) := assignLeading kept operands
    if words = [] then
      let ends := if o.has '0' then '\x00' else '\n'
      for (key, value) in environment do
        write 1 (Octets.ofString key ++ '=' :: value ++ [ends])
      leave 0
    else match o.value? 'C' with
      | none => become name Tool.cited environment words
      | some directory =>
        match (← site).enter (Tool.path directory) with
        | .ok entered =>
          modify fun s => { s with directory := entered.directory }
          become name Tool.cited environment words
        | .error cause =>
          complain name ("cannot change directory to " ++ Tool.cited directory ++ ": " ++ cause.reason)
          leave 125

/-- Runs a program that does not end with the terminal. -/
def withoutHangup (name : String) (environment : Environment) (arguments : List Octets) :
    Action Fate := do
  let words := if arguments.head? = some "--".toList then arguments.tail else arguments
  if words = [] then misuse name 125 "missing operand"
  else
    modify fun s => { s with deaf := 1 :: s.deaf }
    become name failedToRun environment words

/-- Whether an argument is a number after the dash of an option. -/
def isStep (a : Octets) : Bool :=
  match a with
  | '-' :: '-' :: d :: _ | '-' :: '+' :: d :: _ | '-' :: d :: _ => d.isDigit
  | _ => false

/-- Writes numbers after dashes, which stand before a command, as values of an option. -/
def spellSteps : List Octets → List Octets
  | ['-', 'n'] :: value :: rest => ['-', 'n'] :: value :: spellSteps rest
  | a :: rest =>
    if isStep a then ('-' :: 'n' :: a.tail) :: spellSteps rest
    else if a.head? = some '-' then a :: spellSteps rest
    else a :: rest
  | [] => []

/-- The least kind that a program can be to others is zero for those who must not ask for more. -/
def withNiceness (name : String) (environment : Environment) (arguments : List Octets) :
    Action Fate := do
  let o := Tool.Options.read
    { letters := "", valued := "n", long := [("adjustment", 'n')], anywhere := false }
    (spellSteps arguments)
  let step (text : Octets) : Option Int :=
    Octets.int? false (if text.head? = some '+' then text.tail else text)
  if let some fault := o.fault? then misuse name 125 fault
  else match o.value? 'n', o.operands with
    | some text, words =>
      if (step text).isNone then
        complain name ("invalid adjustment " ++ Tool.cited text)
        leave 125
      else if words = [] then misuse name 125 "a command must be given with an adjustment"
      else adjust ((step text).getD 0) words
    | none, [] =>
      write 1 (Octets.ofInt (← get).niceness ++ ['\n'])
      leave 0
    | none, words => adjust 10 words
where
  /-- Runs a program that leaves more to others than this one. -/
  adjust (step : Int) (words : List Octets) : Action Fate := do
    if step < 0 then complain name "cannot set niceness: Permission denied"
    else modify fun s => { s with niceness := min 19 (s.niceness + step) }
    become name Tool.cited environment words

def inSession (name : String) (environment : Environment) (arguments : List Octets) :
    Action Fate := do
  let o := Tool.Options.read
    { letters := "cfw", long := [("ctty", 'c'), ("fork", 'f'), ("wait", 'w')], anywhere := false }
    arguments
  if o.operands = [] then misuse name 1 "no command specified"
  else
    modify fun s => { s with group := s.id }
    become name (fun command => "failed to execute " ++ Octets.text command) environment o.operands

def withBuffers (name : String) (environment : Environment) (arguments : List Octets) :
    Action Fate := do
  let o := Tool.Options.read
    { letters := "", valued := "ioe", anywhere := false
      long := [("input", 'i'), ("output", 'o'), ("error", 'e')] } arguments
  if let some fault := o.fault? then misuse name 125 fault
  else if o.operands = [] then misuse name 125 "missing operand"
  else if o.given.isEmpty then misuse name 125 "you must specify a buffering mode option"
  else become name failedToRun environment o.operands

/-- Starts a program, if there is one of that name. -/
def launch (environment : Environment) (change : Process → Process) (words : List Octets) :
    Action (Except Fault Nat) := do
  match programOf (← site) environment words with
  | .ok (program, arguments) => return .ok (← fork (.program program arguments environment) change)
  | .error cause => return .error cause

/-- Sends a signal to a process and to all of its own group. -/
def strike (signal : Signal) (id : Nat) : Action Unit := do
  let s ← get
  post signal id
  for r in s.world.processes do
    if r.group = s.group && r.id ≠ id then post signal r.id

/-- Waits for a program until a moment; then it gets a signal, and later another one. -/
def guardUntil (id deadline : Nat) (signal : Signal) (patience : Option Nat) (whole : Bool) :
    Action (Ending × Bool) := do
  await { endings := [id], deadline := some deadline }
  if (← get).world.hasEnded id then return (← awaitEnding id, false)
  if signal.number ≠ 9 then modify fun s => { s with deaf := signal.number :: s.deaf }
  let send (signal : Signal) : Action Unit := if whole then strike signal id else post signal id
  send signal
  match patience with
  | none => return (← awaitEnding id, true)
  | some time =>
    await { endings := [id], deadline := some ((← get).world.clock + time) }
    if !(← get).world.hasEnded id then send .kill
    return (← awaitEnding id, true)

/-- Runs a program that may take only so long. -/
def withLimit (name : String) (environment : Environment) (arguments : List Octets) :
    Action Fate := do
  let o := Tool.Options.read
    { letters := "vfp", valued := "sk", anywhere := false
      long := [("signal", 's'), ("kill-after", 'k'), ("preserve-status", 'p'), ("foreground", 'f'),
        ("verbose", 'v')] }
    arguments
  let named (text : Octets) : Option Signal :=
    Signal.ofSystemText? (if (text.take 3).map Char.toUpper = "SIG".toList then text.drop 3 else text)
  let hint : Action Fate := do
    write 2 (Octets.ofString ("Try '" ++ name ++ " --help' for more information.\n"))
    leave 125
  if let some fault := o.fault? then misuse name 125 fault
  else match (o.value? 's').filter fun t => (named t).isNone,
      ((o.value? 'k').toList ++ if o.operands.length < 2 then [] else o.operands.take 1).find? fun t => (duration? t).isNone, o.operands with
    | some text, _, _ => misuse name 125 (Tool.cited text ++ ": invalid signal")
    | none, some text, _ => misuse name 125 ("invalid time interval " ++ Tool.cited text)
    | none, none, limit :: words =>
      if words = [] then hint
      else
        let signal := ((o.value? 's').bind named).getD .terminate
        let time := (duration? limit).getD 0
        let patience := (o.value? 'k').bind duration?
        let own := (← get).id
        let whole := !o.has 'f'
        if whole then
          modify fun s => { s with group := own, world := s.world.alter own fun r => { r with group := own } }
        match ← launch environment (fun p => { p with deaf := p.deaf }) words with
        | .error cause =>
          complain name (failedToRun (words.headD []) ++ ": " ++ cause.reason)
          leave (statusOfFault cause)
        | .ok id =>
          let (ending, late) ← if time = 0 then pure (← awaitEnding id, false)
            else guardUntil id ((← get).world.clock + time) signal patience whole
          if o.has 'v' && late then
            complain name ("sending signal " ++ signal.name ++ " to command " ++ Tool.cited (words.headD []))
          match ending with
          | .killed signal =>
            if !late then return .ended (.killed signal)
            leave (if o.has 'p' || signal = .kill then 128 + signal.number.toNat else 124)
          | .exited status => leave (if late && !o.has 'p' then 124 else status)
    | none, none, [] => hint

end ScopedCheck.Script.Starting
