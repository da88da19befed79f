import ScopedCheck.Script.Control

namespace ScopedCheck.Script

open Script.Action

namespace Engine

/-- The command that `command` is asked to run. -/
def underlying : List Octets → Option (List Octets)
  | [] => none
  | w :: rest =>
    if ["command", "-p", "--"].contains (Octets.text w) then underlying rest
    else if w.head? = some '-' then none
    else some (w :: rest)

def isCommand (words : List Octets) : Bool := words.head? = some "command".toList

/-- Whether a command takes assignments as its arguments. -/
def takesAssignments (words : List Octets) : Bool :=
  let words := if isCommand words then (underlying words).getD [] else words
  words.head?.any fun name =>
    ["alias", "export", "local", "readonly"].contains (Octets.text name)

/-- Expands the words of a command. -/
def commandWords (substitution : Substitution) : List Octets → List Word → Action (List Octets)
  | done, [] => return done
  | done, w :: rest => do
    let more ← match if takesAssignments done then Reader.assignment? w else none with
      | some (name, value) =>
        pure [name.toList ++ '=' :: (← assignedText substitution value)]
      | none => fields substitution w
    commandWords substitution (done ++ more) rest

/-- What carries a command out. -/
inductive Means where
  | nothing
  | builtin (special : Bool) (run : List Octets → Action Nat)
  | function (f : Function)
  | program

def Means.isSpecial : Means → Bool
  | builtin special _ => special
  | _ => false

/-- What carries words out, with the words that it gets. -/
def means (e : Engine) (tested : Bool) (words : List Octets) : Action (Means × List Octets) := do
  let passed := if isCommand words then underlying words else none
  let words := passed.getD words
  match words with
  | [] => return (.nothing, [])
  | name :: _ =>
    let shown := Octets.text name
    let known := (← get).functions.lookup shown
    match if passed.isSome then none else known with
    | some f => return (.function f, words)
    | none =>
      match e.builtin? tested name with
      | some run => return (.builtin (passed.isNone && Command.specials.contains shown) run, words)
      | none => return (.program, words)

/-- Makes the assignments before a command. Gives what they were expanded to, and the variables as
they were, the last one first. -/
def assignAll (substitution : Substitution) (exports : Bool) :
    List (String × Word) → Action (List Octets × List (String × Option Variable))
  | [] => return ([], [])
  | (name, w) :: rest => do
    let value ← assignedText substitution w
    let old := (← get).bindings.lookup name
    assign name value
    if exports then setVariable name { value := some value, exported := true }
    let (texts, saved) ← assignAll substitution exports rest
    return ((name.toList ++ '=' :: value) :: texts, saved ++ [(name, old)])

/-- Gives variables the values that they had. The options may be among them, under a dash. -/
def restoreVariables (saved : List (String × Option Variable)) : Action Unit :=
  modify fun s =>
    let options := ((saved.lookup "-").bind fun old => old.bind Variable.value).getD s.options
    let restored := (saved.filter (·.1 ≠ "-")).foldl (fun known (name, old) =>
      let others := known.filter (·.1 ≠ name)
      match old with
      | some v => (name, v) :: others
      | none => others) s.bindings
    { s with bindings := restored, options := options, found := if saved.any (·.1 = "PATH") then [] else s.found }

/-- Runs an action and restores variables, however it ends. -/
def restoring (saved : List (String × Option Variable)) (action : Action Unit) : Action Unit := do
  tryCatch action fun stop => do
    restoreVariables saved
    throw stop
  restoreVariables saved

/-- A prompt with its expansions carried out. The commands in it are not shown. -/
def promptText (prompt : Octets) : Action Octets := do
  if !(prompt.contains '$' || prompt.contains '\x60') then return prompt
  match readPrompt? prompt with
  | none => return prompt
  | some word =>
    let status := (← get).status
    let options := (← get).options
    modify fun s => { s with options := options.filter (· ≠ 'x') }
    let text ← joinedText (← expandWord outputOf word)
    modify fun s => { s with options := options, status := status }
    return text

/-- Shows a command before it runs, if that is asked for. -/
def trace (stream : Option Nat) (words : List Octets) : Action Unit := do
  if ← hasOption 'x' then
    let lead ← promptText ((← value? "PS4").getD [])
    if let some index := stream then
      let _ ← writeStream index (lead ++ [' '].intercalate words ++ ['\n'])

/-- Carries out a command of the shell. An error ends the script if the command is a special one.
Output that could not be written is told of at the end. -/
def runBuiltin (special : Bool) (name : Octets) (action : Action Nat) : Action Unit := do
  let outer := (← get).within
  modify fun s => { s with outputFailed := false, within := some name }
  let leave : Action Unit := modify fun s => { s with within := outer }
  let body : Action Unit := do
    setStatus (← action)
    if (← get).outputFailed then
      warn none (Octets.text name ++ ": I/O error")
      setStatus (Nat.lor (← get).status 1)
  tryCatch body fun stop => do
    leave
    match stop with
    | .failed => if special then throw .failed
    | stop => throw stop
  leave

/-- How many functions may run within each other. -/
def maxCalls : Nat := 1000

/-- Calls a function. What is assigned before the call is local to it. -/
def call (e : Engine) (tested : Bool) (f : Function) (frame : List (String × Option Variable))
    (arguments : List Octets) : Action Unit := do
  let s ← get
  if maxCalls ≤ s.frames.length then
    fail none ("Maximum function recursion depth (" ++ toString maxCalls ++ ") reached")
  set { s with
    arguments := arguments, functionLine := some f.line, loops := 0, frames := frame :: s.frames
    optionIndex := 1, optionOffset := 0 }
  let stop ← stopOf (e.run { tested := tested } f.body)
  restoreVariables ((← get).frames.headD [])
  modify fun t => { t with
    arguments := s.arguments, functionLine := s.functionLine, loops := s.loops
    frames := t.frames.tail, optionIndex := s.optionIndex, optionOffset := s.optionOffset }
  match stop with
  | none | some .leaveFunction => return
  | some stop => throw stop

/-- Carries out a command whose words are expanded and whose descriptors are ready. -/
def carryOut (e : Engine) (mode : Mode) (assignments : List (String × Word)) (means : Means)
    (words : List Octets) (shown : List Octets) (stream : Option Nat) : Action Unit := do
  let replaces := words.head? = some "exec".toList && words.length > 1
  let lasts := match means with
    | .nothing | .builtin true _ => !replaces
    | _ => false
  let (texts, saved) ← assignAll outputOf (!lasts) assignments
  trace stream (texts ++ shown)
  match means with
  | .nothing => setStatus (← get).outputStatus
  | .builtin special run =>
    restoring (if special then [] else saved)
      (runBuiltin special (words.headD []) (run words.tail))
  | .function f => call e mode.tested f saved words.tail
  | .program => restoring saved (start e mode.final words)

def runSimple (e : Engine) (mode : Mode) (line : Nat) (assignments : List (String × Word))
    (words : List Word) (redirects : List Redirect) : Action Unit := do
  modify fun s => { s with line := line, outputStatus := 0 }
  spend stepTime
  let shown ← commandWords outputOf [] words
  let (means, words) ← means e mode.tested shown
  let stream ← stream? 2
  let body : Action Unit := do
    if ← redirectAll outputOf redirects then
      carryOut e mode assignments means words shown stream
    else
      setStatus 2
      if means.isSpecial then throw .failed
  if words.head? = some "exec".toList then body else keepingDescriptors redirects body

/-- How a round of a loop ended: the next one may follow, the condition failed, or the loop was
left. -/
inductive Round where
  | again
  | refused
  | left

/-- Catches the order to leave a loop or to go on with it, as far as it means this one. -/
def caught (round : Action Round) : Action Round :=
  tryCatch round fun stop => do
    match stop with
    | .breakLoop (n + 2) => throw (.breakLoop (n + 1))
    | .breakLoop _ => return .left
    | .continueLoop (n + 2) => throw (.continueLoop (n + 1))
    | .continueLoop _ => return .again
    | stop => throw stop

/-- Runs an action as the inside of a loop. -/
def inLoop (action : Action Unit) : Action Unit := do
  let outer := (← get).loops
  let restore : Action Unit := modify fun s => { s with loops := outer }
  modify fun s => { s with loops := outer + 1 }
  tryCatch action fun stop => do
    restore
    throw stop
  restore

/-- Runs rounds as long as each lets the next one follow. The status is that of the last body. -/
def repeatRound (round : Action Round) : (rounds : Nat) → (last : Nat) → Action Unit
  | 0, _ => throw (.killed .kill)
  | rounds + 1, last => do
    match ← caught round with
    | .again => repeatRound round rounds (← get).status
    | .refused => setStatus last
    | .left => return

/-- A script with a loop of more rounds is taken for one that hangs. -/
def maxTurns : Nat := 100000000

def runLoop (e : Engine) (tested : Bool) (condition : Command) (whileTrue : Bool) (body : Command) :
    Action Unit := do
  let round : Action Round := do
    e.run { tested := true } condition
    if ((← get).status = 0) = whileTrue then
      e.run { tested := tested } body
      return .again
    else return .refused
  inLoop (repeatRound round maxTurns 0)

def runEach (e : Engine) (tested : Bool) (name : String) (body : Command) :
    List Octets → Action Unit
  | [] => return
  | text :: rest => do
    assign name text
    match ← caught (do e.run { tested := tested } body; return .again) with
    | .again => runEach e tested name body rest
    | _ => return

def matchesAny (text : Octets) : List Word → Action Bool
  | [] => return false
  | w :: rest => do
    if (← wordPattern outputOf w).matchesText text then return true else matchesAny text rest

def choose (e : Engine) (mode : Mode) (text : Octets) :
    List (List Word × Option Command) → Action Unit
  | [] => setStatus 0
  | (patterns, body) :: rest => do
    if ← matchesAny text patterns then
      match body with
      | some body => e.run mode body
      | none => setStatus 0
    else choose e mode text rest

/-- Runs commands, each of which reads what the one before it writes. -/
def runPipeline (tested : Bool) (commands : List Command) : Action Unit := do
  let _ ← takeJobNumber
  awaitAll (← forkPipeline tested false none commands)

/-- Puts a command into the background. It reads nothing and does not notice the keyboard. -/
def runInBackground (command : Command) : Action Unit := do
  let number ← takeJobNumber
  let input ← newStream .nothing
  let ids ← match command with
    | .pipeline commands => forkPipeline false true (some input) commands
    | command => do pure [← forkCommands [command] false true fun p => p.connected 0 input]
  let job : Job := { number := number, members := ids, running := ids }
  modify fun s => { s with jobs := s.jobs ++ [job], lastJob := some job.id, status := 0 }

/-- Runs a command in a subshell, or in this one if nothing comes after it. The redirections are for
the subshell alone. -/
def runApart (e : Engine) (mode : Mode) (redirects : List Redirect) (body : Command) : Action Unit := do
  if mode.final && !(← hasActions) then
    if ← redirectAll outputOf redirects then e.run mode body else setStatus 2
  else
    let _ ← takeJobNumber
    awaitAll [← fork (.commands [body] mode.tested false redirects) id]

/-- Runs a command whose failure ends the script if that is asked for, and attends to signals. -/
def checked (e : Engine) (tested : Bool) (action : Action Unit) : Action Unit := do
  let strict := !tested && (← hasOption 'e')
  action
  if strict && (← get).status ≠ 0 then throw .leave
  noticeAll e

def onLine (line : Nat) : Action Unit :=
  modify fun s => { s with line := line }

/-- Runs a command by the rule for its kind. -/
def step (e : Engine) (mode : Mode) (command : Command) : Action Unit := do
  let tested := mode.tested
  let test (c : Command) : Action Unit := e.run { tested := true } c
  match command with
  | .simple line assignments words redirects =>
    checked e tested (runSimple e mode line assignments words redirects)
  | .redirected line (.subshell _ body) redirects =>
    onLine line
    checked e tested (runApart e mode redirects body)
  | .redirected line command redirects =>
    onLine line
    keepingDescriptors redirects do
      if ← redirectAll outputOf redirects then e.run { tested := tested } command else setStatus 2
  | .subshell line body =>
    onLine line
    checked e tested (runApart e mode [] body)
  | .background command => runInBackground command
  | .pipeline commands => checked e tested (runPipeline tested commands)
  | .sequence .. => runAll e mode command.steps
  | .both first second =>
    test first
    if (← get).status = 0 then e.run mode second
  | .either first second =>
    test first
    if (← get).status ≠ 0 then e.run mode second
  | .negate command =>
    test command
    setStatus (if (← get).status = 0 then 1 else 0)
  | .branch condition yes no =>
    test condition
    match if (← get).status = 0 then some yes else no with
    | some chosen => e.run mode chosen
    | none => setStatus 0
  | .loop condition whileTrue body => runLoop e tested condition whileTrue body
  | .each line name words body =>
    onLine line
    let values ← allFields outputOf words
    if values = [] then setStatus 0
    inLoop (runEach e tested name body values)
  | .choose line subject cases =>
    onLine line
    choose e mode (← wordText outputOf subject) cases
  | .define line name body =>
    modify fun s => { s with
      functions := (name, ⟨line, body⟩) :: s.functions.filter (·.1 ≠ name), status := 0 }

end Engine

/-- Runs a command, in which commands may be nested up to a depth. -/
def runWithin (react : Reaction) : (depth : Nat) → Mode → Command → Action Unit
  | 0, _, _ => throw (.killed .segment)
  | depth + 1, mode, command => do
    if !(← Action.hasOption 'n') then Engine.step ⟨runWithin react depth, react⟩ mode command

/-- How deep commands may be nested before the memory for that runs out. -/
def maxDepth : Nat := 30000

def engine (react : Reaction) : Engine := ⟨runWithin react maxDepth, react⟩

end ScopedCheck.Script
