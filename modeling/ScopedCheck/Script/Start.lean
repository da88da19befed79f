import ScopedCheck.Script.Nested
import ScopedCheck.Script.Tool.Find
import ScopedCheck.Script.Tool.Records
import ScopedCheck.Script.Tool.Sequence
import ScopedCheck.Script.Tool.Signalling
import ScopedCheck.Script.Tool.Table

namespace ScopedCheck.Script.Engine

open Script.Action
open Starting (Fate)

/-- The variables that a shell sets by itself, of which some may be given from outside. -/
def ownVariables (parentId : Nat) (environment : Environment) : List (String × Variable) :=
  let given (name : String) : Option Variable :=
    (environment.lookup name).map fun value => { value := some value, exported := true }
  let fixed (name : String) (value : Octets) : String × Variable :=
    (name, { value := some value, exported := (environment.lookup name).isSome })
  let usual (name : String) (value : Octets) : String × Variable :=
    (name, (given name).getD { value := some value })
  [fixed "IFS" " \t\n".toList, usual "PATH" defaultPath, usual "PS1" "$ ".toList,
   usual "PS2" "> ".toList, usual "PS4" "+ ".toList, fixed "OPTIND" ['1'],
   fixed "PPID" (Octets.ofNat parentId)]

/-- The state of a new shell with an environment. -/
def newShell (p : Process) (environment : Environment) : Process :=
  let own := ownVariables p.parentId environment
  let others := environment.filter fun (name, _) =>
    Octets.isName name.toList && name ≠ "PWD" && !own.any (·.1 = name)
  let given := others.map fun (name, value) => (name, { value := some value, exported := true : Variable })
  { directory := p.directory, path := [], bindings := given.reverse ++ own.reverse
    name := [], arguments := [], descriptors := p.descriptors, deaf := p.deaf
    ownId := p.id, id := p.id, parentId := p.parentId, group := p.group, mask := p.mask
    niceness := p.niceness, limits := p.limits }

/-- The path of the directory as the environment tells it, if that is true. -/
def inheritedPath (site : Site) (environment : Environment) : Octets :=
  let actual := Builtin.physicalPath site
  match environment.lookup "PWD" with
  | some text =>
    let same := (site.find true ⟨Octets.text text⟩).toOption.map Prod.fst = site.directory
    if text.head? = some '/' && same then text else actual
  | none => actual

/-- What a shell is asked to run. -/
inductive Program where
  | text (text : Octets)
  | file (path : Octets)
  | input

/-- Reads the arguments of a shell: its options, then what to run, its name and its arguments. -/
def readArguments (command : Octets) (arguments : List Octets) : Action Program := do
  let (operands?, takesText) ← Builtin.readOptions none true (arguments.length + 1) arguments false
  let operands := operands?.getD []
  if takesText then
    match operands with
    | [] => fail none "-c requires an argument"
    | text :: rest =>
      modify fun s => { s with name := rest.headD command, arguments := rest.tail }
      return .text text
  else if ← hasOption 's' then
    modify fun s => { s with name := command, arguments := operands }
    return .input
  else match operands with
    | [] =>
      modify fun s => { s with name := command }
      Builtin.setOption 's' true
      return .input
    | path :: rest =>
      modify fun s => { s with name := path, arguments := rest }
      return .file path

/-- How much of a script is read at once. -/
def blockSize : Nat := 8192

/-- Reads more of a script, in which zero bytes mean nothing, and tells whether nothing comes any more. -/
def readMore (input : Action (Option Nat)) : Action (Octets × Bool) := do
  match ← input with
  | none => return ([], true)
  | some index =>
    let (text, whole) ← availableFrom index
    let text := text.take blockSize
    consumeFrom index text.length
    return (text.filter (· ≠ '\x00'), whole)

/-- Reads and runs commands from a stream. A command may go on in what comes later. -/
def runStream (e : Engine) (input : Action (Option Nat)) : (rounds : Nat) → Source → Action Unit
  | 0, _ => return
  | rounds + 1, source => do
    let result := readNext { source with aliases := (← get).aliases }
    let settled : Bool := match result with
      | .ok (_, next) => next.rest ≠ []
      | .error _ => false
    let (more, ended) ← if settled then pure ([], false) else readMore input
    let wait : Action Unit := do if let some index ← input then awaitMore index 0 false
    if more ≠ [] then runStream e input rounds (source.append more)
    else match result with
      | .error refusal =>
        if ended then
          showText (refusedText source refusal)
          refuse none refusal
        wait
        runStream e input rounds source
      | .ok (found, next) =>
        let isLine := source.rest.getLast? = some '\n' && !next.unfinished
        match found, settled || ended || isLine with
        | some c, true =>
          showText (source.passed next)
          e.run {} c
          runStream e input rounds next
        | none, true =>
          showText (source.passed next)
          if settled || !ended then runStream e input rounds next
        | _, false =>
          wait
          runStream e input rounds source

/-- Runs a program of a shell. -/
def runProgram (e : Engine) (command : Octets) (program : Program) : Action Unit := do
  match program with
  | .text text => runText e none { final := true } false text
  | .input => runStream e (stream? 0) maxRounds { rest := [] }
  | .file path =>
    match ← openFile .read path with
    | .ok index =>
      if (← get).world.stream index ≠ .directory then
        holding [index] (runStream e (return some index) maxRounds { rest := [] })
    | .error cause =>
      modify fun s => { s with line := 0, name := command }
      warn none ("cannot open " ++ Octets.text path ++ ": " ++ openReason false cause)
      setStatus 2
      throw .leave

/-- Runs a shell as a program of its own. -/
def runShell (e : Engine) (arguments : List Octets) (environment : Environment) : Action Ending := do
  modify fun s => { newShell s.toProcess environment with world := s.world }
  let path := inheritedPath (← site) environment
  modify fun s => { s with path := path, name := arguments.headD [], line := 0 }
  setVariable "PWD" ⟨some path, true, false⟩
  conclude e do
    let command := arguments.headD []
    let program ← readArguments command arguments.tail
    Builtin.refuseControl none
    modify fun s => { s with line := 1 }
    runProgram e command program

/-- The end of a tool that works to its end by itself. -/
def endingOf (work : Action Nat) : Action Ending :=
  tryCatch (do return .exited ((← work) % 256)) fun stop => do
    match stop with
    | .killed signal => return .killed signal
    | _ => return .exited 1

/-- Whether the arguments ask for the bare contents of files, with the files. -/
def plainOperands? (arguments : List Octets) : Option (List Octets) :=
  let o := Tool.Options.read Tool.displayGrammar arguments
  if o.fault?.isNone && o.given.all (·.1 = 'u') then some o.operands else none

def runTee (shown : String) (words : List Octets) : Action Nat := do
  let o := Tool.Options.read
    { letters := "aip", long := [("append", 'a'), ("ignore-interrupts", 'i')] } words
  match o.fault? with
  | some fault =>
    Passing.complain shown (fault ++ "\nTry '" ++ shown ++ " --help' for more information.")
    return 1
  | none =>
    if o.has 'i' then modify fun s => { s with deaf := 2 :: s.deaf }
    Passing.tee shown o

/-- What a tool does. -/
def runTool (react : Reaction) (name : String) (arguments : List Octets) (environment : Environment) : Action Fate := do
  let words := arguments.tail
  let shown := Octets.text (arguments.headD [])
  let work (run : Action Nat) : Action Fate := return .ended (← endingOf run)
  match name with
  | "env" => Starting.changeEnvironment shown environment words
  | "nohup" => Starting.withoutHangup shown environment words
  | "nice" => Starting.withNiceness shown environment words
  | "setsid" => Starting.inSession shown environment words
  | "stdbuf" => Starting.withBuffers shown environment words
  | "timeout" => Starting.withLimit shown environment words
  | "xargs" => Starting.forItems shown environment words
  | "find" => Find.search shown environment words
  | "sleep" => work (Passing.sleep shown words)
  | "yes" => work (Passing.yes shown words)
  | "seq" => work (Sequence.run shown words)
  | "tee" => work (runTee shown words)
  | "kill" => work (Signalling.run react shown words)
  | "awk" | "mawk" | "nawk" => work (Tool.Records.run shown environment words)
  | _ =>
    let words := if (← get).isNarrow && Tool.byCharacter.contains name then words.map (·.map Octets.lone)
      else words
    match if name = "cat" then plainOperands? words else none, Tool.work? name words with
    | some operands, _ => work (Passing.concatenate shown operands)
    | none, some run => work (perform shown environment (Tool.streams name words) run)
    | none, none => Starting.leave 127

/-- How often a program may put another one in its place. -/
def maxPrograms : Nat := 10000

/-- Runs a program, and those that take its place, to the end. -/
def runNamed (e : Engine) : (programs : Nat) → (name : String) → List Octets → Environment →
    Action Ending
  | 0, _, _, _ => return .killed .kill
  | programs + 1, name, arguments, environment => do
    modify fun s =>
      { s.toProcess.program with world := s.world, isNarrow := !Octets.isWide environment }
    spend loadTime
    if name = "sh" || name = "dash" then runShell e arguments environment
    else if name = Nested.commandName then Nested.run arguments environment
    else match ← runTool e.react name arguments environment with
      | .ended ending => return ending
      | .becomes name arguments environment => runNamed e programs name arguments environment

/-- The reason why a program cannot be started, as a shell tells it, and its status. -/
def startReason : Fault → String × Nat
  | .notFound => ("not found", 127)
  | .notDirectory => ("not found", 127)
  | .tooManyLinks => ("Too many levels of symbolic links", 127)
  | .nameTooLong => ("File name too long", 127)
  | .permissionDenied => ("Permission denied", 126)
  | .other => ("Exec format error", 126)
  | cause => (cause.reason, 126)

/-- The program that words stand for, or why there is none, and whether there is a file at least. A
file that is no program is run as a script if it looks like one. -/
def resolve (environment : Environment) (words : List Octets) :
    Action (Except (Fault × Bool) (String × List Octets)) := do
  let own ← value? "PATH"
  let search := (environment.lookup "PATH" <|> own).getD []
  let site ← site
  match findProgram site search (words.headD []) words with
  | .ok (path, .error .other) =>
    let content := (site.read (Tool.path path)).toOption.getD []
    if Image.isText (Octets.ofBytes content) then return .ok ("sh", "/bin/sh".toList :: path :: words.tail)
    else return .error (.other, true)
  | .ok (_, .ok found) => return .ok found
  | .ok (_, .error cause) => return .error (cause, true)
  | .error cause => return .error (cause, false)

/-- Puts a program in the place of the shell. What was arranged for the end of the shell is
forgotten. -/
def become (e : Engine) (command : Option Octets) (words : List Octets) : Action Unit := do
  let environment := (← get).toProcess.environment
  let ending ← match ← resolve environment words with
    | .ok (name, arguments) => runNamed e maxPrograms name arguments environment
    | .error (cause, _) => do
      let (reason, status) := startReason cause
      warn command (Octets.text (words.headD []) ++ ": " ++ reason)
      pure (Ending.exited status)
  modify fun s => { s with traps := s.traps.filter (·.signal ≠ 0) }
  match ending with
  | .killed signal => throw (.killed signal)
  | .exited status =>
    setStatus status
    throw .leave

/-- Whether an action has been arranged for a signal or the end. -/
def hasActions : Action Bool :=
  return (← get).traps.any fun t => t.action ≠ []

/-- Starts a program and waits for its end; in the place of the shell, if nothing comes after it. -/
def start (e : Engine) (final : Bool) (words : List Octets) : Action Unit := do
  let environment := (← get).toProcess.environment
  match ← resolve environment words with
  | .error (cause, isThere) =>
    let (reason, status) := startReason cause
    warn none (Octets.text (words.headD []) ++ ": " ++ reason)
    setStatus (if isThere then status else 127)
  | .ok (name, arguments) =>
    if final && !(← hasActions) then become e none words
    else
      let _ ← Builtin.findCommand (words.headD [])
      let _ ← takeJobNumber
      awaitAll [← fork (.program name arguments environment) id]

end ScopedCheck.Script.Engine
