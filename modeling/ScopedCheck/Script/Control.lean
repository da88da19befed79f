import ScopedCheck.Script.Start

namespace ScopedCheck.Script.Engine

open Script.Action

/-- Runs a file in this shell. -/
def source (e : Engine) (command : Octets) (arguments : List Octets) : Action Nat := do
  match arguments with
  | [] => return 0
  | file :: _ =>
    let site ← site
    let search := ((← value? "PATH")).getD []
    let found := if file.contains '/' then some file
      else (candidates search file).find? fun p => site.isFile ⟨Octets.text p⟩
    match found with
    | none => fail command (Octets.text file ++ ": not found")
    | some path =>
      match site.read ⟨Octets.text path⟩ with
      | .error .isDirectory => return 0
      | .error cause =>
        fail command ("cannot open " ++ Octets.text path ++ ": " ++ openReason false cause)
      | .ok content =>
        setStatus 0
        modify fun s => { s with within := some path }
        match ← stopOf (runText e none {} true ((Octets.ofBytes content).filter (· ≠ '\x00'))) with
        | none | some .leaveFunction => return (← get).status
        | some stop => throw stop

def evaluate (e : Engine) (tested : Bool) (command : Octets) (arguments : List Octets) :
    Action Nat := do
  let text := [' '].intercalate arguments
  if text.all Octets.isSpace then return 0
  runText e command { tested := tested } false text
  return (← get).status

def exit (command : Octets) (arguments : List Octets) : Action Nat := do
  if let a :: _ := arguments then setStatus (← Builtin.number command a)
  throw .leave

def leaveFunction (command : Octets) (arguments : List Octets) : Action Nat := do
  if let a :: _ := arguments then setStatus (← Builtin.number command a)
  throw .leaveFunction

/-- Leaves loops, or goes on with their next round. Outside of loops it does nothing. -/
def leaveLoop (continues : Bool) (command : Octets) (arguments : List Octets) : Action Nat := do
  let count ← match arguments with
    | [] => pure 1
    | a :: _ => Builtin.number command a
  if count = 0 then
    fail command ("Illegal number: " ++ Octets.text (arguments.headD []))
  let levels := min count (← get).loops
  if levels = 0 then return 0
  setStatus 0
  throw (if continues then .continueLoop levels else .breakLoop levels)

/-- Replaces the shell by a program. -/
def replace (e : Engine) (arguments : List Octets) : Action Nat := do
  let arguments := if arguments.head? = some ['-', '-'] then arguments.tail else arguments
  if arguments = [] then return 0
  become e (some "exec".toList) arguments
  return 0

/-- The signal that puts an end to waiting because an action has been arranged for it. -/
def interruption? : Action (Option Signal) := do
  let s ← get
  return (s.world.posted.find? fun (id, signal) => id = s.id && s.catches signal).map Prod.snd

/-- Waits until processes have ended. A signal for which there is an action puts an end to it, and
then its status is the result. -/
def awaitRunning (running : Action (List Nat)) : (waits : Nat) → Action (Option Nat)
  | 0 => return none
  | waits + 1 => do
    reap
    let ids ← running
    if ids = [] then return none
    else match ← interruption? with
      | some signal => return some (statusOf (.killed signal))
      | none =>
        await { endings := ids, signals := true }
        awaitRunning running waits

/-- Waits for a job, and tells of its death if that comes about now. -/
def awaitJob (job : Job) : Action (Option Nat) := do
  let now : Action (Option Job) := return (← get).jobs.find? (·.number = job.number)
  let interrupted ← awaitRunning (return ((← now).map Job.running).getD []) Builtin.maxWaits
  if interrupted.isSome then return interrupted
  modify fun s => { s with jobs := s.jobs.map fun j =>
    if j.number = job.number then { j with waited := true } else j }
  let ending := ((← now).bind Job.ending).getD (.exited 0)
  if job.running ≠ [] then announce ending
  return none

/-- Waits for commands in the background: for all of them, or for those of some ids or names. -/
def wait (command : Octets) (arguments : List Octets) : Action Nat := do
  if arguments = [] then
    match ← awaitRunning (return (← get).jobs.flatMap Job.running) Builtin.maxWaits with
    | some status => return status
    | none =>
      modify fun s => { s with jobs := s.jobs.map fun job => { job with waited := true } }
      return 0
  let mut status := 127
  for a in arguments do
    let job? ← match a with
      | '%' :: _ => do pure (some (← Builtin.namedJob command a))
      | _ => do
        let id ← Builtin.number command a
        pure ((← get).jobs.find? (·.id = id))
    if let some job := job? then
      if let some interrupted ← awaitJob job then return interrupted
      let ended := (← get).jobs.find? (·.number = job.number)
      status := ((ended.bind Job.status?).getD 0)
  return status

/-- The line that shows a job. -/
def showJob (mark : Char) (withId : Bool) (job : Job) : Octets :=
  let number := Octets.ofNat job.number
  let lead := '[' :: number ++ "] ".toList ++ mark :: [' ']
  let id := if withId then Octets.ofNat (job.members.headD 0) ++ [' '] else []
  let state : String := match job.running, job.ending with
    | _ :: _, _ => "Running"
    | [], some (.exited 0) | [], none => "Done"
    | [], some (.exited n) => "Done(" ++ toString n ++ ")"
    | [], some (.killed signal) => deathName signal
  let text := lead ++ id ++ state.toList
  text ++ List.replicate (max (33 - text.length) 1) ' '

/-- The lines for all processes of a job. -/
def showMembers (mark : Char) (withIds : Bool) (job : Job) : Octets :=
  let first := showJob mark withIds job
  let others := job.members.tail
  if withIds then
    first ++ others.flatMap (fun id =>
      let lead := List.replicate 6 ' ' ++ Octets.ofNat id ++ [' ']
      " |\n".toList ++ lead ++ List.replicate (33 - lead.length) ' ') ++ ['\n']
  else first ++ others.flatMap (fun _ => " | ".toList) ++ ['\n']

/-- Lists the jobs, the latest first; those that are done are forgotten. -/
def listJobs (command : Octets) (arguments : List Octets) : Action Nat := do
  let (letters, names) ← Builtin.options command "lp" arguments
  reap
  let jobs := (← get).jobs.reverse
  let chosen ← if names = [] then pure jobs else names.mapM (Builtin.namedJob command)
  for job in chosen do
    let jobs := (← get).jobs.reverse
    let mark := if jobs[0]?.any (·.number = job.number) then '+'
      else if jobs[1]?.any (·.number = job.number) then '-' else ' '
    write 1 (if letters.getLast? = some 'p' then Octets.ofNat (job.members.headD 0) ++ ['\n']
      else showMembers mark (letters.contains 'l') job)
    if job.running = [] then
      modify fun s => { s with jobs := s.jobs.filter (·.number ≠ job.number) }
  return 0

/-- Jobs can be moved between the background and the front by a terminal only. -/
def moveJob (command : Octets) (arguments : List Octets) : Action Nat := do
  let (_, names) ← Builtin.options command "" arguments
  let _ ← Builtin.namedJob command (names.headD [])
  let shown := if names = [] then "(null)" else Octets.text (names.headD [])
  fail command ("job " ++ shown ++ " not created under job control")

/-- Tells what a name means as a command: briefly, or in a sentence. -/
def tell (brief : Bool) (name : Octets) : Action Nat := do
  let shown := Octets.text name
  let s ← get
  let found : Option (Octets × String) ←
    if Reader.keywords.contains shown then pure (some (name, "is a shell keyword"))
    else if let some value := s.aliases.lookup name then
      pure (some ("alias ".toList ++ (Builtin.aliasLine name value).dropLast,
        "is an alias for " ++ Octets.text value))
    else if Command.specials.contains shown then pure (some (name, "is a special shell builtin"))
    else if (s.functions.lookup shown).isSome then pure (some (name, "is a shell function"))
    else if Command.regulars.contains shown then pure (some (name, "is a shell builtin"))
    else if let some path := s.found.lookup name then
      pure (some (path, "is a tracked alias for " ++ Octets.text path))
    else
      let path? ← Builtin.findCommand name
      pure (path?.map fun path => (path, "is " ++ Octets.text path))
  match found with
  | some (text, sentence) =>
    write 1 (if brief then text ++ ['\n'] else name ++ ' ' :: Octets.ofString sentence ++ ['\n'])
    return 0
  | none =>
    if !brief then write 1 (name ++ ": not found\n".toList)
    return 127

def tellAll (brief : Bool) (names : List Octets) : Action Nat := do
  let mut status := 0
  for name in names do
    let result ← tell brief name
    if result ≠ 0 then status := result
  return status

/-- Tells about commands, as `command` is asked to do by its options. -/
def describe (command : Octets) (arguments : List Octets) : Action Nat := do
  let (letters, names) ← Builtin.options command "pvV" arguments
  match letters.find? (· ≠ 'p') with
  | some letter => tellAll (letter = 'v') (names.take 1)
  | none => return 0

/-- Carries out a command that the shell knows by itself. -/
def builtin? (e : Engine) (tested : Bool) (command : Octets) :
    Option (List Octets → Action Nat) :=
  let exported (v : Variable) : Variable := { v with exported := true }
  let fixed (v : Variable) : Variable := { v with fixed := true }
  match Octets.text command with
  | ":" | "true" => some fun _ => return 0
  | "false" => some fun _ => return 1
  | "." => some (source e command)
  | "[" | "test" => some (Builtin.test command)
  | "alias" => some (Builtin.changeAliases command)
  | "bg" | "fg" => some (moveJob command)
  | "break" => some (leaveLoop false command)
  | "cd" | "chdir" => some (Builtin.changeDirectory command)
  | "command" => some (describe command)
  | "continue" => some (leaveLoop true command)
  | "echo" => some Builtin.echo
  | "eval" => some (evaluate e tested command)
  | "exec" => some (replace e)
  | "exit" => some (exit command)
  | "export" => some (Builtin.declare command exported Variable.exported)
  | "getopts" => some (Builtin.getOptions command)
  | "hash" => some (Builtin.changeFound command)
  | "jobs" => some (listJobs command)
  | "kill" => some (Builtin.kill e.react command)
  | "local" => some (Builtin.makeLocal command)
  | "printf" => some (Builtin.printf command)
  | "pwd" => some (Builtin.printDirectory command)
  | "read" => some (Builtin.read command)
  | "readonly" => some (Builtin.declare command fixed Variable.fixed)
  | "return" => some (leaveFunction command)
  | "set" => some (Builtin.setAll command)
  | "shift" => some (Builtin.shift command)
  | "times" => some fun _ => do
    write 1 "0m0.000000s 0m0.000000s\n0m0.000000s 0m0.000000s\n".toList
    return 0
  | "trap" => some (Builtin.trap command)
  | "type" => some (tellAll false)
  | "ulimit" => some (Builtin.changeLimits command)
  | "umask" => some (Builtin.changeMask command)
  | "unalias" => some (Builtin.forgetAliases command)
  | "unset" => some (Builtin.unset command)
  | "wait" => some (wait command)
  | _ => none

end ScopedCheck.Script.Engine
