import ScopedCheck.Script.Condition
import ScopedCheck.Script.Expansion
import ScopedCheck.Script.Format
import ScopedCheck.Script.Process

namespace ScopedCheck.Script.Builtin

open Script.Action

/-- A whole number that is not negative, as an argument of a command. -/
def number (command : Octets) (text : Octets) : Action Nat := do
  match Octets.int? false text with
  | some n =>
    if 0 ≤ n && n ≤ 2147483647 then return n.toNat
    else fail command ("Illegal number: " ++ Octets.text text)
  | none => fail command ("Illegal number: " ++ Octets.text text)

/-- Splits the options off that consist of known letters. -/
def options (command : Octets) (letters : String) : List Octets → Action (List Char × List Octets)
  | ['-', '-'] :: rest => return ([], rest)
  | ('-' :: c :: cs) :: rest => do
    match (c :: cs).find? fun d => !letters.toList.contains d with
    | some d => fail command ("Illegal option -" ++ String.singleton d)
    | none =>
      let (more, rest) ← options command letters rest
      return (c :: cs ++ more, rest)
  | rest => return ([], rest)

def echo (arguments : List Octets) : Action Nat := do
  write 1 (Format.echo arguments)
  return 0

def printf (command : Octets) (arguments : List Octets) : Action Nat := do
  let (_, arguments) ← options command "" arguments
  match arguments with
  | [] => fail command "usage: printf format [arg ...]"
  | template :: rest =>
    let result := Format.run template rest
    for complaint in result.complaints do warn command complaint
    match result.error? with
    | some message =>
      warn command message
      write 1 result.output
      setStatus 2
      throw .failed
    | none =>
      write 1 result.output
      return if result.complaints.isEmpty then 0 else 1

def test (command : Octets) (arguments : List Octets) : Action Nat := do
  let arguments ←
    if command ≠ ['['] then pure arguments
    else if arguments.getLast? = some [']'] then pure arguments.dropLast
    else fail command "missing ]"
  let special (a : Octets) : Bool := "/dev/".toList.isPrefixOf a || "/proc/".toList.isPrefixOf a
  let site ← if arguments.any special then view else site
  match Condition.holds site arguments with
  | .ok result => return if result then 0 else 1
  | .error message => fail command message

/-- A path by names, in which two dots take the name before them away. Two slashes at its beginning
are kept. -/
def normalise (path : Octets) : Octets :=
  let names := (Text.split '/' path).foldl (fun names name =>
    if name = [] || name = ['.'] then names
    else if name = ['.', '.'] then names.tail
    else name :: names) []
  let isDouble := path.take 2 = ['/', '/'] && (path.drop 2).head? ≠ some '/'
  (if isDouble then ['/'] else []) ++
    if names = [] then ['/'] else names.reverse.flatMap ('/' :: ·)

def physicalPath (site : Site) : Octets :=
  ((site.directoryPath.toOption).map fun p => Octets.ofString p.text).getD []

/-- Makes the path of the directory known to scripts. -/
def setPath (path : Octets) (remembersOld : Bool) : Action Unit := do
  let old := (← get).path
  modify fun s => { s with path := path }
  if remembersOld then setVariable "OLDPWD" ⟨some old, true, false⟩
  setVariable "PWD" ⟨some path, true, false⟩

def changeDirectory (command : Octets) (arguments : List Octets) : Action Nat := do
  let (letters, arguments) ← options command "LP" arguments
  let back := arguments.head? = some ['-']
  let target ← match arguments with
    | [] => pure ((← value? "HOME").getD [])
    | ['-'] :: _ => pure ((← value? "OLDPWD").getD [])
    | a :: _ => pure a
  let site ← site
  let first := target.takeWhile (· ≠ '/')
  let search := ((← value? "CDPATH").getD [])
  let located :=
    if target = [] || [[], ['.'], ['.', '.']].contains first then [] else Text.split ':' search
  let inside := (located.map fun d => if d = [] then target else d ++ '/' :: target).find? fun p =>
    (site.node ⟨Octets.text p⟩).toOption.any Node.isDirectory
  let back := back || inside.any (· ≠ target)
  let target := if target = [] then ['.'] else inside.getD target
  let here := (← get).path
  let absolute := target.head? = some '/'
  let logical := normalise (if absolute then target else Script.inside here target)
  let physical := letters.getLast? = some 'P'
  modify fun s => { s with unsure := s.found.map Prod.fst }
  match site.enter ⟨Octets.text (if physical then target else logical)⟩ with
  | .error _ => fail command ("can't cd to " ++ Octets.text target)
  | .ok entered =>
    modify fun s => { s with directory := entered.directory }
    setPath (if physical then physicalPath entered else logical) true
    if back then write 1 ((← get).path ++ ['\n'])
    return 0

def printDirectory (command : Octets) (arguments : List Octets) : Action Nat := do
  let (letters, _) ← options command "LP" arguments
  let physical := physicalPath (← site)
  let logical := (← get).path
  write 1 ((if letters.getLast? = some 'P' then physical else logical) ++ ['\n'])
  return 0

/-- A value in quotes that a shell reads back: apostrophes stand between double quotes. -/
def requote (value : Octets) : Octets :=
  '\'' :: inQuotes false value
where
  inQuotes : (doubled : Bool) → Octets → Octets
    | doubled, [] => [if doubled then '"' else '\'']
    | true, c :: rest =>
      if c = '\'' then c :: inQuotes true rest else '"' :: '\'' :: c :: inQuotes false rest
    | false, c :: rest =>
      if c = '\'' then '\'' :: '"' :: c :: inQuotes true rest else c :: inQuotes false rest

/-- The variables in the order of their names. -/
def sortedVariables : Action (List (String × Variable)) :=
  return (← get).bindings.mergeSort fun a b => decide (a.1 ≤ b.1)

def printVariables (lead : String) (chosen : Variable → Bool) : Action Unit := do
  for (name, v) in ← sortedVariables do
    if chosen v then
      let value := match v.value with
        | some text => '=' :: requote text
        | none => []
      if lead ≠ "" || v.value.isSome then
        write 1 (lead.toList ++ name.toList ++ value ++ ['\n'])

/-- Marks variables, which may be given values at the same time. -/
def declare (command : Octets) (mark : Variable → Variable) (chosen : Variable → Bool)
    (arguments : List Octets) : Action Nat := do
  let (letters, arguments) ← options command "p" arguments
  if arguments = [] || letters.contains 'p' then
    printVariables (Octets.text command ++ " ") chosen
  else
    for a in arguments do
      let name := a.takeWhile (· ≠ '=')
      if !Octets.isName name then fail command (Octets.text name ++ ": bad variable name")
      match a.drop name.length with
      | _ :: value =>
        let old := ((← get).bindings.lookup (Octets.text name)).getD { value := none }
        if old.fixed then fail command (Octets.text name ++ ": is read only")
        assign (Octets.text name) value
      | [] => pure ()
      let now := ((← get).bindings.lookup (Octets.text name)).getD { value := none }
      setVariable (Octets.text name) (mark now)
  return 0

def unset (command : Octets) (arguments : List Octets) : Action Nat := do
  let (letters, arguments) ← options command "fv" arguments
  for a in arguments do
    let name := Octets.text a
    if letters.getLast? = some 'f' then
      modify fun s => { s with functions := s.functions.filter (·.1 ≠ name) }
    else
      if !Octets.isName a then fail command (name ++ ": bad variable name")
      if (((← get).bindings.lookup name).any Variable.fixed) then
        fail command (name ++ ": is read only")
      modify fun s => { s with bindings := s.bindings.filter (·.1 ≠ name) }
      if name = "OPTIND" then fail command "Illegal number: "
  return 0

/-- Makes variables local to the function that runs. A dash makes the options local. -/
def makeLocal (command : Octets) (arguments : List Octets) : Action Nat := do
  match (← get).frames with
  | [] => fail command "not in a function"
  | frame :: outer =>
    let mut frame := frame
    for a in arguments do
      let name := Octets.text (a.takeWhile (· ≠ '='))
      let s ← get
      let old := if name = "-" then some ⟨some s.options, false, false⟩ else s.bindings.lookup name
      if !frame.any (·.1 = name) then frame := (name, old) :: frame
      modify fun s => { s with frames := frame :: outer }
      if a.contains '=' && name ≠ "-" then assign name (a.drop (name.length + 1))
    return 0

def shift (command : Octets) (arguments : List Octets) : Action Nat := do
  let count ← match arguments with
    | [] => pure 1
    | a :: _ => number command a
  if count > (← get).arguments.length then fail command "can't shift that many"
  modify fun s =>
    { s with arguments := s.arguments.drop count, optionIndex := 1, optionOffset := 0 }
  return 0

/-- The options of a shell with their long names. -/
def optionNames : List (String × Char) :=
  [("errexit", 'e'), ("noglob", 'f'), ("ignoreeof", 'I'), ("interactive", 'i'), ("monitor", 'm'),
   ("noexec", 'n'), ("stdin", 's'), ("xtrace", 'x'), ("verbose", 'v'), ("vi", 'V'), ("emacs", 'E'),
   ("noclobber", 'C'), ("allexport", 'a'), ("notify", 'b'), ("nounset", 'u'), ("privileged", 'p'),
   ("nolog", '\x00'), ("debug", '\x01')]

/-- The order in which options are told. -/
def optionOrder : Octets := "pubaECVvxsnmiIfe\x00\x01".toList

def setOption (letter : Char) (on : Bool) : Action Unit :=
  modify fun s =>
    { s with options := optionOrder.filter fun c => if c = letter then on else s.options.contains c }

/-- There is no terminal from which jobs could be controlled, which only the outermost shell minds. -/
def refuseControl (command : Option Octets) : Action Unit := do
  let s ← get
  if s.options.contains 'm' && s.id = s.ownId then
    warn command "can't access tty; job control turned off"
    setOption 'm' false

/-- Shows all options: as a table, or as commands that set them. -/
def printOptions (asCommands : Bool) : Action Unit := do
  let given := (← get).options
  if !asCommands then write 1 "Current option settings\n".toList
  for (name, letter) in optionNames do
    let on := given.contains letter
    let text :=
      if asCommands then (if on then "set -o " else "set +o ") ++ name
      else String.ofList ((name.toList ++ List.replicate 16 ' ').take 16) ++ (if on then "on" else "off")
    write 1 (text.toList ++ ['\n'])

/-- Sets an option by its name. Without a name it shows all of them. -/
def nameOption (command : Option Octets) (on : Bool) : Option Octets → Action Unit
  | none => printOptions (!on)
  | some name =>
    match optionNames.lookup (Octets.text name) with
    | some letter => setOption letter on
    | none => fail command ("Illegal option -o " ++ Octets.text name)

/-- Sets the options of one argument, and gives what is left of the others, for some letters take a
name from there. A shell that starts may be asked for the text to run, which is told. -/
def readLetters (command : Option Octets) (atStart on : Bool) :
    Octets → (rest : List Octets) → (takesText : Bool) → Action (List Octets × Bool)
  | [], rest, takesText => return (rest, takesText)
  | c :: cs, rest, takesText => do
    if atStart && c = 'c' then readLetters command atStart on cs rest true
    else if atStart && c = 'l' then readLetters command atStart on cs rest takesText
    else if c = 'o' then
      nameOption command on rest.head?
      readLetters command atStart on cs rest.tail takesText
    else
      if !optionOrder.contains c then fail command ("Illegal option -" ++ String.singleton c)
      setOption c on
      readLetters command atStart on cs rest takesText

/-- Reads the options at the front; a dash or two end them, and one dash puts an end to showing what
runs. What is left are operands, if there were two dashes or any are left. -/
def readOptions (command : Option Octets) (atStart : Bool) :
    (steps : Nat) → List Octets → (takesText : Bool) → Action (Option (List Octets) × Bool)
  | 0, rest, takesText => return (some rest, takesText)
  | _, [], takesText => return (none, takesText)
  | steps + 1, (sign :: letters) :: rest, takesText => do
    if sign = '-' && letters = ['-'] then return (some rest, takesText)
    else if sign = '-' && letters = [] then
      if !atStart then
        setOption 'x' false
        setOption 'v' false
      return (if rest = [] then none else some rest, takesText)
    else if sign = '-' || sign = '+' then
      let (rest, takesText) ← readLetters command atStart (sign = '-') letters rest takesText
      readOptions command atStart steps rest takesText
    else return (some ((sign :: letters) :: rest), takesText)
  | _, rest, takesText => return (some rest, takesText)

def setAll (command : Octets) (arguments : List Octets) : Action Nat := do
  if arguments = [] then
    printVariables "" fun _ => true
  else
    let (operands?, _) ← readOptions command false (arguments.length + 1) arguments false
    refuseControl command
    if let some operands := operands? then
      modify fun s => { s with arguments := operands, optionIndex := 1, optionOffset := 0 }
  return 0

/-- One line of the input with what is quoted in it, and whether a newline ended it. -/
def readLine (raw : Bool) : (steps : Nat) → Octets → List Marked × Nat × Bool
  | 0, _ => ([], 0, false)
  | _, [] => ([], 0, false)
  | _ + 1, '\n' :: _ => ([], 1, true)
  | steps + 1, '\x00' :: rest =>
    let (line, count, ended) := readLine raw steps rest
    (line, count + 1, ended)
  | steps + 1, '\\' :: rest =>
    if raw then
      let (line, count, ended) := readLine raw steps rest
      (('\\', false) :: line, count + 1, ended)
    else
      let zeros := (rest.takeWhile (· = '\x00')).length
      match rest.drop zeros with
      | [] => ([], rest.length + 1, false)
      | c :: rest =>
        let (line, count, ended) := readLine raw steps rest
        (if c = '\n' then line else (c, true) :: line, count + zeros + 2, ended)
  | steps + 1, c :: rest =>
    let (line, count, ended) := readLine raw steps rest
    ((c, false) :: line, count + 1, ended)

/-- How often a command waits for more input at most. -/
def maxWaits : Nat := 100000000

/-- Reads a line from the input, and tells whether a newline ended it. A signal for which there is
an action puts an end to waiting. -/
def awaitLine (raw : Bool) : (waits : Nat) → Action (List Marked × Bool)
  | 0 => return ([], false)
  | waits + 1 => do
    let (text, whole) ← available 0
    let (line, count, ended) := readLine raw (text.length + 1) text
    let s ← get
    let interrupted := s.world.posted.any fun (id, signal) => id = s.id && s.catches signal
    if ended || whole || interrupted then
      consume 0 count
      return (line, ended)
    awaitInput 0 text.length true
    awaitLine raw waits

/-- Cuts the first field off. -/
def cutField (separators : Octets) (text : List Marked) : List Marked × List Marked :=
  let divides (m : Marked) : Bool := !m.2 && separators.contains m.1
  let blank (m : Marked) : Bool := divides m && Octets.isSpace m.1
  let field := text.takeWhile (!divides ·)
  let rest := (text.drop field.length).dropWhile blank
  match rest with
  | m :: after => (field, if divides m then after.dropWhile blank else rest)
  | [] => (field, [])

def readVariables (separators : Octets) : List Octets → List Marked → List (Octets × Octets)
  | [], _ => []
  | [name], text =>
    let blank (m : Marked) : Bool := !m.2 && separators.contains m.1 && Octets.isSpace m.1
    let kept := (text.reverse.dropWhile blank).reverse
    let (field, rest) := cutField separators kept
    [(name, (if rest = [] then field else kept).map Prod.fst)]
  | name :: names, text =>
    let (field, rest) := cutField separators text
    (name, field.map Prod.fst) :: readVariables separators names rest

def read (command : Octets) (arguments : List Octets) : Action Nat := do
  let (letters, names) ← match arguments with
    | ['-', 'p'] :: _ :: rest => options command "r" rest
    | _ => options command "r" arguments
  if names = [] then fail command "arg count"
  match names.find? fun n => !Octets.isName n with
  | some n => fail command (Octets.text n ++ ": bad variable name")
  | none =>
    let (line, ended) ← awaitLine (letters.contains 'r') maxWaits
    let separators ← separators
    let blank (m : Marked) : Bool := !m.2 && separators.contains m.1 && Octets.isSpace m.1
    for (name, value) in readVariables separators names (line.dropWhile blank) do
      assign (Octets.text name) value
    return if ended then 0 else 1

/-- The next option of a script: its letter, its argument, where to go on, and a complaint. -/
structure Found where
  letter : Char
  argument : Option Octets
  /-- The number of the next argument, and the letters of the current one that were used. -/
  index : Nat
  offset : Nat
  complaint : Option String := none

/-- Where a letter stands among those that are known; a colon after a letter is none of them. -/
def spot (c : Char) : Octets → Octets
  | [] => []
  | k :: ':' :: rest => if k = c then k :: ':' :: rest else spot c rest
  | k :: rest => if k = c then k :: rest else spot c rest

/-- Finds the next option, or nothing after the last. -/
def nextOption (known : Octets) (arguments : List Octets) (index offset : Nat) :
    Except Nat Found :=
  let current := if index ≤ 1 || offset = 0 then [] else (arguments[index - 2]?.getD []).drop offset
  let (letters, index) := match current, arguments[index - 1]? with
    | [], some ('-' :: c :: cs) => (c :: cs, index + 1)
    | [], _ => ([], index)
    | letters, _ => (letters, index)
  match letters with
  | [] => .error index
  | ['-'] => .error index
  | c :: rest =>
    let word := arguments[index - 2]?.getD []
    let next := if rest = [] then 0 else word.length - rest.length
    let silent := known.head? = some ':'
    match spot c known with
    | [] =>
      .ok (if silent then ⟨'?', some [c], index, next, none⟩
        else ⟨'?', none, index, next, some ("Illegal option -" ++ String.singleton c)⟩)
    | _ :: ':' :: _ =>
      if rest ≠ [] then .ok ⟨c, some rest, index, 0, none⟩
      else match arguments[index - 1]? with
        | some value => .ok ⟨c, some value, index + 1, 0, none⟩
        | none =>
          .ok (if silent then ⟨':', some [c], index, 0, none⟩
            else ⟨'?', none, index, 0,
              some ("No arg for -" ++ String.singleton c ++ " option")⟩)
    | _ => .ok ⟨c, some [], index, next, none⟩

def getOptions (command : Octets) (arguments : List Octets) : Action Nat := do
  match arguments with
  | known :: name :: rest =>
    let s ← get
    let operands := if rest = [] then s.arguments else rest
    let report (index : Nat) (offset : Nat) : Action Unit := do
      assign "OPTIND" (Octets.ofNat index)
      modify fun s => { s with optionOffset := offset }
    let store (letter : Char) : Action Unit := do
      if !Octets.isName name then fail command (Octets.text name ++ ": bad variable name")
      assign (Octets.text name) [letter]
    let isPast := s.optionIndex > operands.length + 1
    match nextOption known operands (if isPast then 1 else s.optionIndex)
      (if isPast then 0 else s.optionOffset) with
    | .error index =>
      report index 0
      store '?'
      return 1
    | .ok found =>
      report found.index found.offset
      if let some complaint := found.complaint then write 2 (Octets.ofString complaint ++ ['\n'])
      match found.argument with
      | some text => assign "OPTARG" text
      | none => modify fun s => { s with bindings := s.bindings.filter (·.1 ≠ "OPTARG") }
      store found.letter
      return 0
  | _ => fail command "Usage: getopts optstring var [arg...]"

def showTrap (t : Trap) : Octets :=
  "trap -- ".toList ++ requote t.action ++ ' ' :: (Signal.name ⟨t.signal⟩).toList ++ ['\n']

/-- Arranges what is done on signals, or on the end of the shell. -/
def trap (command : Octets) (arguments : List Octets) : Action Nat := do
  let (_, arguments) ← match arguments with
    | ['-'] :: _ => pure ([], arguments)
    | _ => options command "" arguments
  match arguments with
  | [] =>
    for t in (← get).traps.mergeSort (fun a b => decide (a.signal ≤ b.signal)) do
      write 1 (showTrap t)
    return 0
  | first :: rest =>
    let numeric := first ≠ [] && first.all Char.isDigit && (Signal.ofText? first).isSome
    let (action, signals) :=
      if rest = [] || numeric then (none, arguments)
      else (if first = ['-'] then none else some first, rest)
    for text in signals do
      match Signal.ofText? text with
      | none =>
        write 2 ("trap: ".toList ++ text ++ ": bad trap\n".toList)
        return 1
      | some signal =>
        modify fun s =>
          let others := s.traps.filter (·.signal ≠ signal.number)
          if s.deaf.contains signal.number then s
          else { s with traps := match action with
            | some action => ⟨signal.number, action⟩ :: others
            | none => others }
    return 0

/-- How many microseconds the program that started the first shell is known after its end. -/
def reapTime : Nat := 1000

/-- Sends a signal to a process or to a group of them; the number zero only asks whether it is there.
The program that started the first shell may end on a signal. -/
def signalTo (react : Reaction) (signal : Signal) (id : Int) : Action Bool := do
  let s ← get
  let w := s.world
  if id = w.starter.id then
    if signal.number ≠ 0 then
      set { s with world := w.notify react s.streams (.signal signal) }
    return w.starter.alive || w.starter.doneAt.any fun moment => w.clock < moment + reapTime
  else if id > 0 then
    if (w.resident? id.toNat).isSome then
      post signal id.toNat
      return true
    else return id = 1
  else
    let group := if id = 0 then s.group else id.natAbs
    let members := w.processes.filter fun r => r.group = group && r.ending.isNone
    for r in members do post signal r.id
    return !members.isEmpty

/-- The job that a text such as `%1` names. -/
def namedJob (command name : Octets) : Action Job := do
  let jobs := (← get).jobs
  let current := jobs.getLast?
  let unknown : Action Job := fail command ("No such job: " ++ Octets.text name)
  if name.head?.any (· ≠ '%') then unknown
  else match name.drop 1 with
  | [] | ['%'] | ['+'] =>
    match current with
    | some job => return job
    | none => fail command "No current job"
  | ['-'] =>
    match jobs.reverse.tail.head? with
    | some job => return job
    | none => fail command "No previous job"
  | digits =>
    if digits.all Char.isDigit then
      match jobs.find? (·.number = Octets.natOf 10 digits) with
      | some job => return job
      | none => unknown
    else unknown

def killUsage : String :=
  "Usage: kill [-s sigspec | -signum | -sigspec] [pid | job]... or\nkill -l [exitstatus]"

/-- The signal that is asked for, and what comes after it. -/
def killSignal (command : Octets) (arguments : List Octets) :
    Action (Option Signal × List Octets) := do
  match arguments with
  | ('-' :: text) :: rest =>
    match Signal.ofText? text with
    | some signal => return (some signal, rest)
    | none =>
      match text, rest with
      | ['l'], rest => return (none, rest)
      | ['s'], name :: rest =>
        match Signal.ofText? name with
        | some signal => return (some signal, rest)
        | none => fail command ("invalid signal number or name: " ++ Octets.text name)
      | 's' :: c :: cs, rest =>
        match Signal.ofText? (c :: cs) with
        | some signal => return (some signal, rest)
        | none => fail command ("invalid signal number or name: " ++ String.ofList (c :: cs))
      | ['-'], rest => return (some .terminate, rest)
      | ['s'], [] => fail command "No arg for -s option"
      | _, _ => fail command ("Illegal option -" ++ String.ofList (text.take 1))
  | rest => return (some .terminate, rest)

def kill (react : Reaction) (command : Octets) (arguments : List Octets) : Action Nat := do
  if arguments = [] then fail command killUsage
  match ← killSignal command arguments with
  | (none, []) =>
    write 1 ("0\n".toList ++ (List.range' 1 64).flatMap fun (n : Nat) =>
      (Signal.name ⟨n⟩).toList ++ ['\n'])
    return 0
  | (none, text :: _) =>
    let n ← number command text
    let n := if n > 128 then n - 128 else n
    if n = 0 || n > 64 then
      fail command ("invalid signal number or exit status: " ++ Octets.text text)
    write 1 ((Signal.name ⟨n⟩).toList ++ ['\n'])
    return 0
  | (some _, []) => fail command killUsage
  | (some signal, targets) =>
    let mut failed := false
    for target in targets do
      let id ← match target with
        | '-' :: digits => do pure (-(Int.ofNat (← number command digits)))
        | '%' :: _ => do pure (-Int.ofNat (((← namedJob command target).members.head?).getD 0))
        | _ => do pure (Int.ofNat (← number command target))
      if !(← signalTo react signal id) then
        warn command "No such process\n"
        failed := true
    await { deadline := some (← get).world.clock }
    return if failed then 1 else 0

end ScopedCheck.Script.Builtin
