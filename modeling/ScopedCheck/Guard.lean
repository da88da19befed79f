import ScopedCheck.FileSystem.Site

namespace ScopedCheck

/-- What guards remove their files from. -/
class Remover (σ : Type) where
  /-- Attempts to remove the file at a path, and tells whether it was there and could be removed. -/
  attempt : Path → σ → Bool × σ

instance : Remover Site where
  attempt path site :=
    match site.remove path with
    | .ok site => (true, site)
    | .error _ => (false, site)

/-- Files that a guard shares with somebody else. -/
class Shared (σ : Type) extends Remover σ where
  /-- Somebody else leaves the files like this. -/
  replace : Node → σ → σ

instance : Shared Site where
  replace root site := { site with root := root }

/-- A guard removes its file once: when it is released through one of its handles, or when the last
handle is dropped. What happens to the path afterwards is no concern of the guard any more. -/
structure Guard where
  path : Path
  released : Bool
  deriving DecidableEq, Repr

variable {σ : Type} [Remover σ]

namespace Guard

def new (path : Path) : Guard := ⟨path, false⟩

/-- Attempts the removal unless that was done before, and tells whether this call removed a file. -/
def release (guard : Guard) (files : σ) : Bool × Guard × σ :=
  if guard.released then (false, guard, files)
  else
    let (removed, files) := Remover.attempt guard.path files
    (removed, { guard with released := true }, files)

end Guard

/-- All guards that were made, and their handles by name. A handle refers to a guard by its number
in the list. -/
structure Guards where
  made : List Guard := []
  handles : List (String × Nat) := []
  deriving Repr, Inhabited

namespace Guards

def number? (guards : Guards) (handle : String) : Option Nat :=
  guards.handles.lookup handle

def get? (guards : Guards) (handle : String) : Option Guard :=
  (guards.number? handle).bind fun n => guards.made[n]?

def isHeld (guards : Guards) (n : Nat) : Bool :=
  guards.handles.any (·.2 = n)

/-- Releases the guard with this number. -/
def fire (guards : Guards) (files : σ) (n : Nat) : Bool × Guards × σ :=
  match guards.made[n]? with
  | none => (false, guards, files)
  | some guard =>
    let (removed, guard, files) := guard.release files
    (removed, { guards with made := guards.made.set n guard }, files)

/-- Releases the guard with this number if it has no handle left. -/
def reap (guards : Guards) (files : σ) (n : Nat) : Guards × σ :=
  if guards.isHeld n then (guards, files) else (guards.fire files n).2

/-- Makes a name a handle of the guard with this number; what it was a handle of before loses it. -/
def bind (guards : Guards) (files : σ) (handle : String) (n : Nat) : Guards × σ :=
  let old := guards.number? handle
  let guards := { guards with handles := (handle, n) :: guards.handles.filter (·.1 ≠ handle) }
  match old with
  | some m => guards.reap files m
  | none => (guards, files)

/-- Takes over a guard under a name. -/
def add (guards : Guards) (files : σ) (handle : String) (guard : Guard) : Guards × σ :=
  { guards with made := guards.made ++ [guard] }.bind files handle guards.made.length

/-- Makes another handle of the guard that one handle has. -/
def clone? (guards : Guards) (files : σ) (handle new : String) : Option (Guards × σ) :=
  (guards.number? handle).map fun n => guards.bind files new n

/-- Releases through a handle, which stays. -/
def release? (guards : Guards) (files : σ) (handle : String) : Option (Bool × Guards × σ) :=
  (guards.number? handle).map fun n => guards.fire files n

def drop? (guards : Guards) (files : σ) (handle : String) : Option (Guards × σ) :=
  (guards.number? handle).map fun n =>
    { guards with handles := guards.handles.filter (·.1 ≠ handle) }.reap files n

end Guards

end ScopedCheck
