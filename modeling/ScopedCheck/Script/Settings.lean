import ScopedCheck.Script.Builtin

namespace ScopedCheck.Script.Builtin

open Script.Action

/-- The entries of a table in the order of its chains: a name is in the chain of a number. -/
def inChains {α : Type} (chains : Nat) (entries : List (Octets × α)) : List (Octets × α) :=
  let chainOf (name : Octets) : Nat :=
    ((name.headD '\x00').toNat * 16 + (name.map Char.toNat).foldl (· + ·) 0) % chains
  entries.mergeSort fun a b => decide (chainOf a.1 ≤ chainOf b.1)

def aliasLine (name value : Octets) : Octets := name ++ '=' :: requote value ++ ['\n']

def setAlias (name value : Octets) : Action Unit :=
  modify fun s =>
    let isKnown := (s.aliases.lookup name).isSome
    { s with aliases :=
        if isKnown then s.aliases.map fun pair => if pair.1 = name then (name, value) else pair
        else s.aliases ++ [(name, value)] }

/-- Tells that a name is no alias; that is told without the name of the script. -/
def noAlias (command name : Octets) : Action Unit :=
  write 2 (command ++ ": ".toList ++ name ++ " not found\n".toList)

/-- Shows or sets aliases. -/
def changeAliases (command : Octets) (arguments : List Octets) : Action Nat := do
  if arguments = [] then
    for (name, value) in inChains 39 (← get).aliases do write 1 (aliasLine name value)
  let mut status := 0
  for argument in arguments do
    let name := argument.take 1 ++ (argument.drop 1).takeWhile (· ≠ '=')
    if name.length < argument.length then setAlias name (argument.drop (name.length + 1))
    else match (← get).aliases.lookup name with
      | some value => write 1 (aliasLine name value)
      | none =>
        noAlias command name
        status := 1
  return status

/-- Forgets aliases. -/
def forgetAliases (command : Octets) (arguments : List Octets) : Action Nat := do
  let (letters, names) ← options command "a" arguments
  if letters ≠ [] then
    modify fun s => { s with aliases := [] }
    return 0
  let mut status := 0
  for name in names do
    if ((← get).aliases.lookup name).isSome then
      modify fun s => { s with aliases := s.aliases.filter (·.1 ≠ name) }
    else
      noAlias command name
      status := 1
  return status

/-- The file that a name stands for as a command. A name without a slash is kept with what was found
for it. -/
def findCommand (name : Octets) : Action (Option Octets) := do
  let s ← get
  let site ← site
  if name.contains '/' then return if site.exists? ⟨Octets.text name⟩ then some name else none
  let search := ((s.bindings.lookup "PATH").bind Variable.value).getD []
  let found := (candidates search name).find? fun p => site.isProgram ⟨Octets.text p⟩
  if let some path := found then keepFound name path
  return found

/-- Whether a name as a command stands for a program, and not for what the shell does by itself. -/
def isProgramName (name : Octets) : Action Bool := do
  let shown := Octets.text name
  return ((← get).functions.lookup shown).isNone && !Command.isBuiltin shown

/-- Looks for the program of a command that another process will carry out. -/
def lookAhead : Command → Action Unit
  | .simple _ _ ([.text name false] :: _) _ => do
    if Octets.isName name && (← isProgramName name) then
      let _ ← findCommand name
  | _ => return

/-- Shows where commands were found, or looks for them. -/
def changeFound (command : Octets) (arguments : List Octets) : Action Nat := do
  let (letters, names) ← options command "rv" arguments
  if letters.contains 'r' then
    modify fun s => { s with found := [], unsure := [] }
    return 0
  if names = [] then
    let s ← get
    for (name, path) in inChains 31 s.found do
      write 1 (path ++ (if s.unsure.contains name then ['*'] else []) ++ ['\n'])
  let mut status := 0
  for name in names do
    modify fun s => { s with found := s.found.filter (·.1 ≠ name), unsure := s.unsure.filter (· ≠ name) }
    if (← isProgramName name) && (← findCommand name).isNone then
      warn command (Octets.text name ++ ": not found")
      status := 1
  return status

/-- The permissions for owner, group and others as letters. -/
def maskText (mask : Nat) : Octets :=
  let part (who : Char) (shift : Nat) : Octets :=
    let allowed := 7 - mask / shift % 8
    who :: '=' :: ((if 4 ≤ allowed then ['r'] else []) ++
      (if 2 ≤ allowed % 4 then ['w'] else []) ++ if allowed % 2 = 1 then ['x'] else [])
  [','].intercalate [part 'u' 64, part 'g' 8, part 'o' 1]

/-- The permissions that letters stand for, once for each group that they are for. -/
def allowedBy (before : Nat) (letters : Octets) : Nat :=
  letters.foldl (fun value c =>
    let more := match c with
      | 'r' => 4
      | 'w' => 2
      | 'x' => 1
      | 'u' => before / 64 % 8
      | 'g' => before / 8 % 8
      | 'o' => before % 8
      | 'X' => if Nat.land before 0o111 ≠ 0 then 1 else 0
      | _ => 0
    Nat.lor value more) 0

/-- What is allowed after changes such as `u+w,g=`; there has to be at least one. -/
def changeAllowed (before : Nat) : (steps : Nat) → (groups value : Nat) → Octets → Option Nat
  | 0, _, _, _ => none
  | steps + 1, groups, value, text =>
    let who := text.takeWhile fun c => "augo".toList.contains c
    let groups := who.foldl (fun n c =>
      Nat.lor n (match c with | 'a' => 0o111 | 'u' => 0o100 | 'g' => 0o010 | _ => 1)) groups
    let groups := if groups = 0 then 0o111 else groups
    match text.drop who.length with
    | [] => some value
    | operator :: rest =>
      if operator ≠ '=' && operator ≠ '+' && operator ≠ '-' then none
      else
        let letters := rest.takeWhile fun c => "rwxugoXs".toList.contains c
        let bits := allowedBy before letters * groups
        let without (bits : Nat) : Nat := value - Nat.land value bits
        let value := match operator with
          | '-' => without bits
          | '+' => Nat.lor value bits
          | _ => Nat.lor (without (groups * 7)) bits
        match rest.drop letters.length with
        | [] => some value
        | ',' :: rest => changeAllowed before steps 0 value rest
        | rest => changeAllowed before steps groups value rest

/-- Shows or sets the permissions that new files do not get. -/
def changeMask (command : Octets) (arguments : List Octets) : Action Nat := do
  let (letters, operands) ← options command "S" arguments
  let mask := (← get).mask
  match operands with
  | [] =>
    let digits := Nat.toDigits 8 mask
    write 1 ((if letters = [] then List.replicate (4 - digits.length) '0' ++ digits else maskText mask) ++ ['\n'])
  | text :: _ =>
    if text.head?.any Char.isDigit then
      if text.all (Octets.isDigitOf 8) then
        modify fun s => { s with mask := Octets.natOf 8 text % 512 }
      else fail command ("Illegal number: " ++ Octets.text text)
    else match changeAllowed (511 - mask) (text.length + 1) 0 (511 - mask) text with
      | some allowed => modify fun s => { s with mask := 511 - allowed }
      | none => fail command ("Illegal mode: " ++ Octets.text text)
  return 0

/-- What a limit is called, its letter, and what it is at the beginning. -/
def limits : List (String × Char × Option Nat) :=
  [("time(seconds)", 't', none), ("file(blocks)", 'f', none), ("data(kbytes)", 'd', none),
   ("stack(kbytes)", 's', some 8192), ("coredump(blocks)", 'c', none), ("memory(kbytes)", 'm', none),
   ("locked memory(kbytes)", 'l', some 8192), ("process", 'p', none),
   ("nofiles", 'n', some 1048576), ("vmemory(kbytes)", 'v', none), ("locks", 'w', none),
   ("rtprio", 'r', some 0)]

/-- The limit that counts, and the one that it can be raised to. -/
def limitOf (letter : Char) : Action (Option Nat × Option Nat) := do
  let usual := (limits.find? (·.2.1 = letter)).bind fun limit => limit.2.2
  return ((← get).limits.lookup letter).getD (usual, usual)

def limitText : Option Nat → Octets
  | some n => Octets.ofNat n
  | none => "unlimited".toList

def exceeds (a b : Option Nat) : Bool :=
  match a, b with
  | _, none => false
  | none, some _ => true
  | some a, some b => b < a

/-- Shows or sets limits. -/
def changeLimits (command : Octets) (arguments : List Octets) : Action Nat := do
  let (letters, operands) ← options command "HSatfdscmlpnvwr" arguments
  let last := letters.reverse.find? fun c => c = 'H' || c = 'S'
  let all := letters.contains 'a'
  let letter := ((letters.reverse.find? fun c => c ≠ 'H' && c ≠ 'S' && c ≠ 'a').getD 'f')
  let shown (limit : Option Nat × Option Nat) : Octets :=
    limitText (if last = some 'H' then limit.2 else limit.1) ++ ['\n']
  match operands with
  | [] =>
    if all then
      for (name, letter, _) in limits do
        write 1 (name.toList ++ List.replicate (21 - name.length) ' ' ++ shown (← limitOf letter))
    else write 1 (shown (← limitOf letter))
  | text :: more =>
    if all || more ≠ [] then fail command "too many arguments"
    let value ← if text = "unlimited".toList then pure none
      else if text.all Char.isDigit then pure (some (Octets.natOf 10 text))
      else fail command "bad number"
    let (soft, hard) ← limitOf letter
    let soft' := if last = some 'H' then soft else value
    let hard' := if last = some 'S' then hard else value
    if exceeds soft' hard' then fail command "error setting limit (Invalid argument)"
    if exceeds hard' hard then fail command "error setting limit (Operation not permitted)"
    modify fun s => { s with limits := (letter, soft', hard') :: s.limits.filter (·.1 ≠ letter) }
  return 0

end ScopedCheck.Script.Builtin
