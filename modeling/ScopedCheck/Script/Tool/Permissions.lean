import ScopedCheck.Script.Tool.Basic
import ScopedCheck.Text.Split

namespace ScopedCheck.Script.Tool

namespace Permissions

/-- All that can be asked for. -/
def all : Nat := 0o7777

def without (mode bits : Nat) : Nat := Nat.land mode (Nat.xor all (Nat.land bits all))

/-- What a letter such as `u` stands for. -/
def whoBits : Char → Nat
  | 'u' => 0o4700
  | 'g' => 0o2070
  | 'o' => 0o1007
  | _ => all

def letterBits : Char → Nat
  | 'r' => 0o444
  | 'w' => 0o222
  | 'x' => 0o111
  | 's' => 0o6000
  | 't' => 0o1000
  | _ => 0

def join (bits : List Nat) : Nat := bits.foldl Nat.lor 0

/-- What a change gives or takes. -/
inductive Amount where
  | bits (bits : Nat)
  /-- These bits, and those for running only if somebody may run the file already. -/
  | runnable (bits : Nat)
  /-- What one kind of user has, for all kinds. -/
  | likeThat (bits : Nat)

/-- A change such as `u+w`. -/
structure Change where
  operator : Char
  /-- For whom it is; nobody stands for all whom the mask spares. -/
  affected : Nat
  amount : Amount
  /-- The bits that are spoken of; a directory keeps the others of those that are passed on in it. -/
  mentioned : Nat

/-- The operators with what follows them, up to a comma; for whom, and what is left. -/
def operators? (affected : Nat) : (steps : Nat) → Octets → Option (List Change × Octets)
  | 0, _ => none
  | steps + 1, text =>
    match text with
    | operator :: rest =>
      if !"+-=".toList.contains operator then some ([], text)
      else
        let octal := rest.takeWhile fun c => '0' ≤ c && c ≤ '7'
        let letters := rest.takeWhile fun c => "rwxXst".toList.contains c
        let bits := join (letters.map letterBits)
        let following (change : Change) (after : Octets) : Option (List Change × Octets) :=
          (operators? affected steps after).map fun (changes, after) => (change :: changes, after)
        let told (value : Nat) : Nat := if affected = 0 then value else Nat.land affected value
        if octal ≠ [] then
          let after := rest.drop octal.length
          let value := Octets.natOf 8 octal
          if all < value || affected ≠ 0 || !(after = [] || after.head? = some ',') then none
          else some ([⟨operator, all, .bits value, all⟩], after)
        else match rest with
          | 'u' :: after => following ⟨operator, affected, .likeThat 0o700, told 0o700⟩ after
          | 'g' :: after => following ⟨operator, affected, .likeThat 0o070, told 0o070⟩ after
          | 'o' :: after => following ⟨operator, affected, .likeThat 0o007, told 0o007⟩ after
          | _ =>
            let amount := if letters.contains 'X' then Amount.runnable bits else .bits bits
            following ⟨operator, affected, amount, told bits⟩ (rest.drop letters.length)
    | [] => some ([], [])

/-- The changes of a text such as `u+w,go=r`. -/
def clauses? : (steps : Nat) → Octets → Option (List Change)
  | 0, _ => none
  | steps + 1, text =>
    let who := text.takeWhile fun c => "ugoa".toList.contains c
    match operators? (join (who.map whoBits)) (text.length + 1) (text.drop who.length) with
    | none | some ([], _) => none
    | some (changes, []) => some changes
    | some (changes, ',' :: rest) => (clauses? steps rest).map (changes ++ ·)
    | some _ => none

/-- The changes that a text asks for. A number with few digits does not speak of the bits that are
passed on in a directory, unless it sets them. -/
def changes? (text : Octets) : Option (List Change) :=
  if text.head?.any fun c => '0' ≤ c && c ≤ '7' then
    let value := Octets.natOf 8 text
    if text.all (fun c => '0' ≤ c && c ≤ '7') && value ≤ all then
      let mentioned := if text.length < 5 then Nat.lor (Nat.land value 0o7000) 0o777 else all
      some [⟨'=', all, .bits value, mentioned⟩]
    else none
  else clauses? (text.length + 1) text

/-- What a change makes of a mode, when new files do not get what is in the mask. -/
def Change.apply (isDirectory : Bool) (mask mode : Nat) (change : Change) : Nat :=
  let kept := if isDirectory then without 0o6000 change.mentioned else 0
  let value := match change.amount with
    | .bits bits => bits
    | .runnable bits => if isDirectory || Nat.land mode 0o111 ≠ 0 then Nat.lor bits 0o111 else bits
    | .likeThat bits =>
      let has := Nat.land mode bits
      join (has :: [0o444, 0o222, 0o111].map fun bits => if Nat.land has bits ≠ 0 then bits else 0)
  let reach := without (if change.affected = 0 then without all mask else change.affected) kept
  let value := Nat.land value reach
  match change.operator with
  | '+' => Nat.lor mode value
  | '-' => without mode value
  | _ =>
    let preserved := Nat.lor (if change.affected = 0 then 0 else without all change.affected) kept
    Nat.lor (Nat.land mode preserved) value

def changed (isDirectory : Bool) (mask : Nat) (changes : List Change) (mode : Nat) : Nat :=
  changes.foldl (Change.apply isDirectory mask) mode

/-- Three letters for three bits; the last letter may be another one. -/
def showThree (bits : Nat) (special : Bool) (low high : Char) : Octets :=
  let last := if special then (if bits % 2 = 1 then low else high) else if bits % 2 = 1 then 'x' else '-'
  [if bits / 4 % 2 = 1 then 'r' else '-', if bits / 2 % 2 = 1 then 'w' else '-', last]

def letters (mode : Nat) : Octets :=
  showThree (mode / 64 % 8) (mode / 2048 % 2 = 1) 's' 'S' ++
    showThree (mode / 8 % 8) (mode / 1024 % 2 = 1) 's' 'S' ++
    showThree (mode % 8) (mode / 512 % 2 = 1) 't' 'T'

def digits (width mode : Nat) : Octets :=
  let text := Nat.toDigits 8 mode
  List.replicate (width - text.length) '0' ++ text

def describe (mode : Nat) : String :=
  Octets.text (digits 4 mode ++ " (".toList ++ letters mode ++ [')'])

end Permissions

/-- How permissions are to be changed. -/
structure Plan where
  change : (isDirectory : Bool) → Nat → Nat
  /-- What somebody who forgets about the mask would expect, where that matters. -/
  naive : (isDirectory : Bool) → Nat → Nat

/-- Changes the permissions of a node at a path. -/
def changeModeOf (o : Options) (plan : Plan) (shown : Octets) (place : Place) (node : Node) :
    Tool Unit := do
  let old := node.mode
  let new := plan.change node.isDirectory old
  let site ← site
  if !site.domain.isPrefixOf place || site.domain = place then
    complain ("changing permissions of " ++ quoted shown ++ ": Operation not permitted")
    return
  setSite (site.changeMode place new)
  if old ≠ new && (o.has 'v' || o.has 'c') then
    printLine (Octets.ofString ("mode of " ++ quoted shown ++ " changed from " ++
      Permissions.describe old ++ " to " ++ Permissions.describe new))
  else if o.has 'v' then
    printLine (Octets.ofString ("mode of " ++ quoted shown ++ " retained as " ++ Permissions.describe old))
  let naive := plan.naive node.isDirectory old
  if Permissions.without new naive ≠ 0 then
    complain (named shown ++ ": new permissions are " ++ Octets.text (Permissions.letters new) ++
      ", not " ++ Octets.text (Permissions.letters naive))

mutual

/-- Changes the permissions of a node and of all below it. -/
def changeModes (o : Options) (plan : Plan) (shown : Octets) (place : Place) : Node → Tool Unit
  | .link _ => return
  | .file content attributes => changeModeOf o plan shown place (.file content attributes)
  | .directory entries mode => do
    changeModeOf o plan shown place (.directory [] mode)
    changeModesIn o plan shown place entries

def changeModesIn (o : Options) (plan : Plan) (shown : Octets) (place : Place) :
    List (String × Node) → Tool Unit
  | [] => return
  | (name, node) :: rest => do
    changeModes o plan (inside shown (Octets.ofString name)) (place ++ [name]) node
    changeModesIn o plan shown place rest

end

/-- Changes the permissions of what the operands lead to. -/
def changeModesOf (o : Options) (plan : Plan) (operands : List Octets) : Tool Unit := do
  for operand in operands do
    let site ← site
    match site.find true (path operand) with
    | .error cause =>
      if o.has 'f' then setStatus 1
      else if (site.find false (path operand)).isOk then
        complain ("cannot operate on dangling symlink " ++ quoted operand)
      else complain ("cannot access " ++ quoted operand ++ ": " ++ cause.reason)
    | .ok (place, node) =>
      if o.has 'R' then changeModes o plan operand place node
      else changeModeOf o plan operand place node

/-- Changes permissions. A mode that begins with a minus sign may stand among the options; then its
author may not think of the mask. -/
def changeMode (arguments : List Octets) : Tool Unit := do
  let mask := (← site).mask
  let isMode (a : Octets) : Bool :=
    a.head? = some '-' && (a.drop 1).head?.any fun c => "rwxXstugoa,+=01234567".toList.contains c
  let dashed := arguments.filter isMode
  withOptions
    { letters := "Rvfc", valued := "#"
      long := [("recursive", 'R'), ("verbose", 'v'), ("silent", 'f'), ("quiet", 'f'),
        ("changes", 'c'), ("reference", '#')] }
    1 (arguments.filter (!isMode ·)) fun o => do
      let mode := if dashed = [] then o.operands.head? else some ([','].intercalate dashed)
      let operands := if dashed = [] && !o.has '#' then o.operands.drop 1 else o.operands
      match o.value? '#', mode with
      | some model, _ =>
        if operands = [] then misuse 1 "missing operand"
        else match (← site).node (path model) with
        | .ok node =>
          let change := fun _ _ => node.mode
          changeModesOf o ⟨change, change⟩ operands
        | .error cause => complain ("failed to get attributes of " ++ quoted model ++ ": " ++ cause.reason)
      | none, none => misuse 1 "missing operand"
      | none, some mode =>
        if operands = [] then misuse 1 ("missing operand after " ++ cited mode)
        else match Permissions.changes? mode with
        | none => misuse 1 ("invalid mode: " ++ cited mode)
        | some changes =>
          let change := fun isDirectory => Permissions.changed isDirectory mask changes
          let naive := fun isDirectory => Permissions.changed isDirectory 0 changes
          changeModesOf o ⟨change, if dashed = [] || o.has 'f' then change else naive⟩ operands

end ScopedCheck.Script.Tool
