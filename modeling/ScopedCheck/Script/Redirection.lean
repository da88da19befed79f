import ScopedCheck.Script.Condition
import ScopedCheck.Script.Expansion

namespace ScopedCheck.Script

/-- Whether a file that is opened like this can be read. -/
def OpenMode.reads : OpenMode → Bool
  | read | both => true
  | _ => false

/-- Whether a file that is opened like this can be written. -/
def OpenMode.writes : OpenMode → Bool
  | read => false
  | _ => true

/-- Whether opening a file like this empties it. -/
def OpenMode.empties : OpenMode → Bool
  | write | clobber => true
  | _ => false

namespace Action

/-- The reason why a file cannot be opened, as a shell tells it. -/
def openReason (creates : Bool) : Fault → String
  | .notFound | .notDirectory => if creates then "Directory nonexistent" else "No such file"
  | .isDirectory => "Is a directory"
  | .alreadyExists => "File exists"
  | .tooManyLinks => "Too many levels of symbolic links"
  | .nameTooLong => "File name too long"
  | .permissionDenied => "Permission denied"
  | .nulCharacter | .notText | .other => "Invalid argument"

/-- The descriptor that a path of the system stands for. -/
def descriptorOf? (text : Octets) : Option Nat :=
  if text = "/dev/stdin".toList then some 0
  else if text = "/dev/stdout".toList then some 1
  else if text = "/dev/stderr".toList then some 2
  else
    let leads := ["/dev/fd/".toList, "/proc/self/fd/".toList]
    (leads.find? (·.isPrefixOf text)).bind fun lead =>
      (Octets.int? false (text.drop lead.length)).map Int.toNat

/-- The pipe of a file that is a pipe. -/
def namedPipe (identity : Nat) : Action Nat := do
  match (← get).world.namedPipes.lookup identity with
  | some number => return number
  | none =>
    let number ← newPipe []
    modify fun s => { s with world := { s.world with
      namedPipes := (identity, number) :: s.world.namedPipes } }
    return number

/-- How long it takes to let others know that a pipe was opened. -/
def openCost : Nat := 20

/-- Opens a pipe, and waits until it is open at the other end. -/
def openPipe (number : Nat) (mode : OpenMode) : Action Nat := do
  let index ← newStream (.pipe number mode.reads mode.writes)
  holding [index] do
    let w ← world
    if mode = .read && !w.hasWriter number then await { writer := some number }
    if !mode.reads && !w.hasReader number then await { reader := some number }
    spend openCost
  return index

/-- Opens the file at a place. -/
def openNode (node : Node) (mode : OpenMode) : Action (Except Fault Nat) := do
  match node with
  | .link _ => return .error .notFound
  | .directory .. =>
    if mode.writes then return .error .isDirectory else return .ok (← newStream .directory)
  | .file _ attributes =>
    match attributes.kind with
    | .sink => return .ok (← newStream .nothing)
    | .zeros | .full | .noise => return .ok (← newStream (.device attributes.kind))
    | .pipe => return .ok (← openPipe (← namedPipe attributes.identity) mode)
    | .regular =>
      if mode.empties then
        let now := (← site).now
        changeFile attributes.identity fun _ attributes =>
          .file [] { attributes with modified := now }
      return .ok (← newStream (.file attributes.identity 0 mode))

/-- Opens what a descriptor leads to once more. -/
def reopen (index : Nat) (mode : OpenMode) : Action (Except Fault Nat) := do
  let w := (← get).world
  match w.stream index with
  | .file identity _ _ =>
    match w.fileOf? identity with
    | some (content, attributes) => openNode (.file content attributes) mode
    | none => return .error .notFound
  | .pipe number _ _ => return .ok (← newStream (.pipe number mode.reads mode.writes))
  | _ => return .ok index

/-- Opens a file. -/
def openFile (mode : OpenMode) (text : Octets) : Action (Except Fault Nat) := do
  let target : Path := ⟨Octets.text text⟩
  let site ← site
  match descriptorOf? text with
  | some descriptor =>
    match ← stream? descriptor with
    | some index => reopen index mode
    | none => return .error .notFound
  | none =>
    match site.find true target with
    | .ok (place, node) =>
      let denied := (mode.reads && !site.allows .read place) || (mode.writes && !site.allows .write place)
      if denied && !(mode.writes && node.isDirectory) then return .error .permissionDenied
      if mode = .write && (← hasOption 'C') && node.isFile then return .error .alreadyExists
      else openNode node mode
    | .error .notFound =>
      if mode = .read then return .error .notFound
      match site.write target [] none with
      | .error cause => return .error cause
      | .ok site =>
        setRoot site.root
        match site.node target with
        | .ok node => openNode node mode
        | .error cause => return .error cause
    | .error cause => return .error cause

/-- Carries out one redirection, or complains that it cannot be done. -/
def redirect (substitution : Substitution) (r : Redirect) : Action Bool := do
  match r with
  | .file descriptor mode target =>
    let text ← wordText substitution target
    match ← openFile mode text with
    | .ok index =>
      connect descriptor (some index)
      return true
    | .error cause =>
      let verb := if mode = .read then "open " else "create "
      warn none ("cannot " ++ verb ++ Octets.text text ++ ": " ++ openReason (mode ≠ .read) cause)
      return false
  | .document descriptor body =>
    let send : Action Bool := do
      let text ← joinedText (← expandWord substitution body)
      connect descriptor (some (← newStream (.pipe (← newPipe text) true false)))
      return true
    tryCatch send fun stop => do
      match stop with
      | .failed => return false
      | stop => throw stop
  | .duplicate descriptor source =>
    let text ← wordText substitution source
    if text = ['-'] then
      connect descriptor none
      return true
    else if text.length = 1 && text.all Char.isDigit then
      match ← stream? (Octets.natOf 10 text) with
      | some index =>
        connect descriptor (some index)
        return true
      | none =>
        warn none (Octets.text text ++ ": Bad file descriptor")
        return false
    else fail none "Syntax error: Bad fd number"

/-- Carries out redirections up to the first that cannot be done. -/
def redirectAll (substitution : Substitution) : List Redirect → Action Bool
  | [] => return true
  | r :: rest => do
    if ← redirect substitution r then redirectAll substitution rest else return false

/-- Makes descriptors lead where they led before. -/
def restoreDescriptors (before : List (Nat × Nat)) (changed : List Nat) : Action Unit := do
  for descriptor in changed do connect descriptor (before.lookup descriptor)

/-- Runs an action, and restores the descriptors that redirections have changed however it ends. -/
def keepingDescriptors (redirects : List Redirect) (action : Action Unit) : Action Unit := do
  let before := (← get).descriptors
  let changed := redirects.map Redirect.descriptor
  let restore := restoreDescriptors before changed
  holding (changed.filterMap fun descriptor => before.lookup descriptor) do
    tryCatch action fun stop => do
      restore
      throw stop
    restore

end Action

end ScopedCheck.Script
