import ScopedCheck.Script.Arithmetic
import ScopedCheck.Script.Pattern
import ScopedCheck.Script.Shell

namespace ScopedCheck.Script

/-- A piece of an expanded word. -/
inductive Atom where
  | char (c : Char) (quoted splits : Bool)
  /-- Something quoted, perhaps empty. -/
  | mark
  /-- Where a value begins that is split. -/
  | edge
  /-- What lies between arguments. Quoted ones are fields of their own; between others it counts as a
  blank. -/
  | gap (quoted : Bool)
  deriving DecidableEq, Repr

namespace Atom

def quote (text : Octets) : List Atom :=
  .mark :: text.map fun c => .char c true false

/-- The characters of a value that is split. -/
def plain (text : Octets) : List Atom := text.map fun c => .char c false true

/-- The characters of an expansion, quoted or not. -/
def ofValue (quoted : Bool) (text : Octets) : List Atom :=
  if quoted then quote text else if text = [] then [] else .edge :: plain text

def marked (atoms : List Atom) : List Marked :=
  atoms.filterMap fun atom => match atom with
    | .char c quoted _ => some (c, quoted)
    | _ => none

def text (atoms : List Atom) : Octets :=
  (marked atoms).map Prod.fst

/-- What a word is split into: the fields that are complete, last first, the one that is being
filled, and whether a blank has just ended a field. -/
structure Splitting where
  complete : List (List Marked) := []
  current : Option (List Marked) := none
  afterBlank : Bool := false

namespace Splitting

def finish (s : Splitting) : Splitting :=
  match s.current with
  | some field => { complete := field.reverse :: s.complete }
  | none => { s with current := none }

def extend (s : Splitting) (c : Char) (quoted : Bool) : Splitting :=
  { s with current := some ((c, quoted) :: s.current.getD []), afterBlank := false }

/-- A blank ends a field, but there is none before the first one. -/
def blank (s : Splitting) : Splitting :=
  if s.current.isSome then { s.finish with afterBlank := true } else s

def step (separators : Octets) (s : Splitting) : Atom → Splitting
  | .mark => { s with current := some (s.current.getD []), afterBlank := false }
  | .edge => { s with afterBlank := false }
  | .gap true => { s.finish with afterBlank := false }
  | .gap false => s.blank
  | .char c quoted splits =>
    if !splits || !separators.contains c then s.extend c quoted
    else if Octets.isSpace c then s.blank
    else if s.current.isSome then s.finish
    else if s.afterBlank then { s with afterBlank := false }
    else { s with complete := [] :: s.complete }

end Splitting

/-- The fields of an expanded word. A field that is empty is kept only where something was quoted
or between separators that are no blanks. -/
def split (separators : Octets) (atoms : List Atom) : List (List Marked) :=
  (atoms.foldl (Splitting.step separators) {}).finish.complete.reverse

end Atom

/-- Runs the commands of a substitution and gives what they write. -/
abbrev Substitution := List Command → Action Octets

namespace Action

def separators : Action Octets := do
  match (← get).bindings.lookup "IFS" with
  | some { value := some value, .. } => return value
  | _ => return " \t\n".toList

/-- The text between arguments that are joined. -/
def joiner : Action Octets :=
  return (← separators).take 1

/-- The value of a parameter other than the list of all arguments. -/
def parameter? (name : String) : Action (Option Octets) := do
  let s ← get
  match name with
  | "?" => return some (Octets.ofNat s.status)
  | "#" => return some (Octets.ofNat s.arguments.length)
  | "$" => return some (Octets.ofNat s.ownId)
  | "!" => return s.lastJob.map Octets.ofNat
  | "-" => return some s.options
  | "LINENO" => return some (Octets.ofNat (s.line - (s.functionLine.getD 1 - 1)))
  | _ =>
    if name.toList.all Char.isDigit && name ≠ "" then
      match Octets.natOf 10 name.toList with
      | 0 => return some s.name
      | n + 1 => return s.arguments[n]?
    else value? name

def unsetText (empty : Bool) : String :=
  if empty then "parameter not set or null" else "parameter not set"

/-- The value of a parameter that is used without a fallback. -/
def expectParameter (name : String) : Action Octets := do
  match ← parameter? name with
  | some value => return value
  | none =>
    if ← hasOption 'u' then fail none (name ++ ": " ++ unsetText false) else return []

def isList (name : String) : Bool := name = "@" || name = "*"

/-- All arguments. Each is a field of its own, unless they are joined. -/
def argumentAtoms (name : String) (quoted : Bool) : Action (List Atom) := do
  let arguments := (← get).arguments
  if !quoted then return .edge :: [Atom.gap false].intercalate (arguments.map Atom.plain)
  else if name = "*" then return Atom.quote ((← joiner).intercalate arguments)
  else return [Atom.gap true].intercalate (arguments.map Atom.quote)

/-- The value of a parameter as atoms, or nothing if it is missing. -/
def parameterAtoms? (name : String) (quoted : Bool) : Action (Option (List Atom)) := do
  if isList name then
    if (← get).arguments = [] then return none else return some (← argumentAtoms name quoted)
  else return (← parameter? name).map (Atom.ofValue quoted)

/-- The home directory of the one who is named, or of the user. -/
def home? (name : Octets) : Action (Option Octets) := do
  if name = [] then value? "HOME"
  else return if name = "root".toList then some "/root".toList else none

/-- Replaces a tilde with a name at the front of a text by the home directory. -/
def expandTilde (ends : Char → Bool) (alone : Bool) (text : Octets) :
    Action (Option (Octets × Octets)) := do
  match text with
  | '~' :: rest =>
    let name := rest.takeWhile (!ends ·)
    let after := rest.drop name.length
    if after = [] && !alone then return none
    else return (← home? name).map fun directory => (directory, after)
  | _ => return none

def tilde (w : Word) : Action Word := do
  match w with
  | .text cs false :: rest =>
    match ← expandTilde (· = '/') rest.isEmpty cs with
    | some (directory, after) => return .text directory true :: .text after false :: rest
    | none => return w
  | _ => return w

/-- Replaces the tildes at the front of an assigned text and after its colons. -/
def tildes : (steps : Nat) → (opens : Bool) → Word → Action Word
  | 0, _, w => return w
  | steps + 1, opens, w => do
    match w with
    | .text cs false :: rest =>
      let found ←
        if opens then expandTilde (fun c => c = '/' || c = ':') rest.isEmpty cs else pure none
      match found with
      | some (directory, after) =>
        return .text directory true :: (← tildes steps false (.text after false :: rest))
      | none =>
        let head := cs.takeWhile (· ≠ ':')
        match cs.drop head.length with
        | [] => return .text cs false :: (← tildes steps false rest)
        | colon :: after =>
          return .text (head ++ [colon]) false
            :: (← tildes steps true (.text after false :: rest))
    | part :: rest => return part :: (← tildes steps false rest)
    | [] => return []

/-- The whole number that an expression stands for; variables are assigned on the way. -/
def calculate (text : Octets) : Action Octets := do
  let s ← get
  let initial (name : String) : Octets :=
    ((s.bindings.lookup name).bind Variable.value).getD []
  match evaluate initial text with
  | .ok (n, assigned) =>
    for (name, value) in assigned do assign name (Octets.ofInt value)
    return Octets.ofInt n
  | .error (.told message) => fail none message
  | .error _ => throw (.killed .arithmetic)

mutual

def expandPart (substitution : Substitution) : Part → Action (List Atom)
  | .text cs quoted =>
    return if quoted then Atom.quote cs else cs.map fun c => .char c false false
  | .output script quoted => do
    return Atom.ofValue quoted (Octets.trimEnd ((← substitution script).filter (· ≠ '\x00')))
  | .arithmetic expression quoted => do
    let text := Atom.text (← expandWord substitution expression)
    return Atom.ofValue quoted (← calculate text)
  | .parameter name use quoted => expandUse substitution name quoted use

def expandUse (substitution : Substitution) (name : String) (quoted : Bool) :
    Use → Action (List Atom)
  | .bad => fail none "Bad substitution"
  | .value => do
    if isList name then argumentAtoms name quoted
    else return Atom.ofValue quoted (← expectParameter name)
  | .length => do
    let value ←
      if isList name then pure ((← joiner).intercalate (← get).arguments)
      else expectParameter name
    return Atom.ofValue quoted (Octets.ofNat value.length)
  | .fallback kind empty w => do
    let found := (← parameterAtoms? name quoted).filter fun atoms =>
      !empty || Atom.text atoms ≠ []
    match kind, found with
    | .instead, none => return Atom.ofValue quoted []
    | .instead, some _ => expandFallback substitution quoted w
    | _, some atoms => return atoms
    | .substitute, none => expandFallback substitution quoted w
    | .assign, none =>
      let value := Atom.text (← expandFallback substitution quoted w)
      if !Octets.isName name.toList then fail none "Bad substitution"
      assign name value
      return Atom.ofValue quoted value
    | .complain, none =>
      let message := Octets.text (Atom.text (← expandFallback substitution quoted w))
      fail none (name ++ ": " ++ if message = "" then unsetText empty else message)
  | .trim fromEnd longest w => do
    let value ←
      if isList name then pure ((← joiner).intercalate (← get).arguments)
      else expectParameter name
    if (← parameterAtoms? name quoted).isNone then return Atom.ofValue quoted []
    let pattern := Pattern.ofText (Atom.marked (← expandWord substitution w))
    return Atom.ofValue quoted
      (if fromEnd then pattern.trimEnd longest value else pattern.trimStart longest value)

/-- A text that stands in for a value; what is not quoted in it is split. -/
def expandFallback (substitution : Substitution) (quoted : Bool) : List Part → Action (List Atom)
  | [] => return Atom.ofValue quoted []
  | .text cs false :: rest => do
    let first ← match ← expandTilde (· = '/') rest.isEmpty cs with
      | some (directory, after) => pure (Atom.quote directory ++ Atom.ofValue false after)
      | none => pure (Atom.ofValue false cs)
    return first ++ (← expandSplit substitution rest)
  | part :: rest => return (← expandPart substitution part) ++ (← expandSplit substitution rest)

def expandSplit (substitution : Substitution) : List Part → Action (List Atom)
  | [] => return []
  | .text cs false :: rest => return Atom.ofValue false cs ++ (← expandSplit substitution rest)
  | part :: rest => return (← expandPart substitution part) ++ (← expandSplit substitution rest)

def expandWord (substitution : Substitution) : List Part → Action (List Atom)
  | [] => return []
  | part :: rest => return (← expandPart substitution part) ++ (← expandWord substitution rest)

end

/-- The names in a directory that match a pattern. What begins with a dot is matched by nothing but
a dot. -/
def matchingNames (site : Site) (directory : Octets) (pattern : List Marked) : List Octets :=
  match site.find true ⟨if directory = [] then "." else Octets.text directory⟩ with
  | .ok (place, .directory entries _) =>
    let names := if !site.allows .read place then []
      else entries.map (Octets.ofString ·.1) ++ [".".toList, "..".toList]
    let dotted := (pattern.map Prod.fst).head? = some '.'
    names.filter fun name => (dotted || name.head? ≠ some '.') &&
      (Pattern.ofText pattern).matchesText name
  | _ => []

/-- Cuts a pattern at its slashes. -/
def components : List Marked → List (List Marked)
  | [] => [[]]
  | (c, quoted) :: rest =>
    if c = '/' then [] :: components rest
    else match components rest with
      | [] => [[(c, quoted)]]
      | first :: more => ((c, quoted) :: first) :: more

/-- The paths that the components of a pattern lead to from one path. -/
def matchingPaths (site : Site) : Octets → List (List Marked) → List Octets
  | _, [] => []
  | prior, [last] =>
    let name := Pattern.bareText last
    if Pattern.isMagic last then
      (matchingNames site prior last).map (prior ++ ·)
    else if site.occupied ⟨Octets.text (prior ++ name)⟩ then [prior ++ name]
    else []
  | prior, component :: rest =>
    if Pattern.isMagic component then
      (matchingNames site prior component).flatMap fun name =>
        if (site.node ⟨Octets.text (prior ++ name)⟩).toOption.any Node.isDirectory then
          matchingPaths site (prior ++ name ++ ['/']) rest
        else []
    else matchingPaths site (prior ++ Pattern.bareText component ++ ['/']) rest

/-- The paths that a field stands for; one that matches nothing stands for itself. -/
def paths (field : List Marked) : Action (List Octets) := do
  let itself := [field.map Prod.fst]
  if !Pattern.isMagic field || (← hasOption 'f') then return itself
  else
    let found := matchingPaths (← site) [] (components field)
    return if found = [] then itself else found.mergeSort Octets.isAtMost

/-- The fields of a word. -/
def fields (substitution : Substitution) (w : Word) : Action (List Octets) := do
  let atoms ← expandWord substitution (← tilde w)
  return (← (Atom.split (← separators) atoms).mapM paths).flatten

def allFields (substitution : Substitution) (words : List Word) : Action (List Octets) := do
  return (← words.mapM (fields substitution)).flatten

/-- A word as one text. Arguments that are separate fields are joined. -/
def joinedText (atoms : List Atom) : Action Octets := do
  let joiner ← joiner
  return atoms.flatMap fun atom => match atom with
    | .char c _ _ => [c]
    | .mark | .edge => []
    | .gap _ => joiner

/-- A word as one text, neither split nor matched. -/
def wordText (substitution : Substitution) (w : Word) : Action Octets := do
  joinedText (← expandWord substitution (← tilde w))

def assignedText (substitution : Substitution) (w : Word) : Action Octets := do
  let length := (w.flatMap fun part => part.plain?.getD []).length + w.length + 1
  joinedText (← expandWord substitution (← tildes (2 * length) true w))

def wordPattern (substitution : Substitution) (w : Word) : Action Pattern := do
  let joiner ← joiner
  let marked := (← expandWord substitution (← tilde w)).flatMap fun atom => match atom with
    | .gap _ => joiner.map fun c => (c, true)
    | atom => Atom.marked [atom]
  return Pattern.ofText marked

end Action

end ScopedCheck.Script
