import Mathlib.Tactic
import ScopedCheck.Guard

namespace ScopedCheck

/-- Files, and the paths that guards have attempted to remove. -/
structure Watched where
  site : Site
  attempts : List Path

instance : Shared Watched where
  attempt path files :=
    ((Remover.attempt path files.site).1,
      ⟨(Remover.attempt path files.site).2, files.attempts ++ [path]⟩)
  replace root files := { files with site := Shared.replace root files.site }

inductive History.Action where
  | clone (handle new : String)
  | release (handle : String)
  | drop (handle : String)
  /-- Somebody else adds, changes or removes whatever there is. -/
  | elsewhere (root : Node)

structure History (σ : Type) where
  guards : Guards
  files : σ
  /-- What the releases through a handle returned. -/
  answers : List Bool := []

namespace History

variable {σ : Type}

def isLive (h : History σ) (handle : String) : Bool :=
  (h.guards.number? handle).isSome

def isReleased (h : History σ) : Bool :=
  h.guards.made.any Guard.released

variable [Shared σ]

/-- One guard with one handle. -/
def start (path : Path) (handle : String) (files : σ) : History σ :=
  let (guards, files) := ({} : Guards).add files handle (.new path)
  { guards := guards, files := files }

/-- A name that is no live handle does nothing. -/
def step (h : History σ) : Action → History σ
  | .clone handle new =>
    match h.guards.clone? h.files handle new with
    | some (guards, files) => { h with guards := guards, files := files }
    | none => h
  | .release handle =>
    match h.guards.release? h.files handle with
    | some (removed, guards, files) =>
      { guards := guards, files := files, answers := h.answers ++ [removed] }
    | none => h
  | .drop handle =>
    match h.guards.drop? h.files handle with
    | some (guards, files) => { h with guards := guards, files := files }
    | none => h
  | .elsewhere root => { h with files := Shared.replace root h.files }

def steps (h : History σ) (actions : List Action) : History σ :=
  actions.foldl step h

end History

/-- A history of watched files without what was seen. -/
def History.unwatched (h : History Watched) : History Site :=
  { h with files := h.files.site }

section Unwatched

variable (guards : Guards) (files : Watched)

theorem unwatched_release (guard : Guard) :
    guard.release files.site =
      ((guard.release files).1, (guard.release files).2.1, (guard.release files).2.2.site) := by
  cases h : guard.released <;> simp [Guard.release, h, Remover.attempt]

theorem unwatched_fire (n : Nat) :
    guards.fire files.site n =
      ((guards.fire files n).1, (guards.fire files n).2.1, (guards.fire files n).2.2.site) := by
  cases h : guards.made[n]? with
  | none => simp [Guards.fire, h]
  | some guard => simp [Guards.fire, h, unwatched_release files guard]

theorem unwatched_reap (n : Nat) :
    guards.reap files.site n = ((guards.reap files n).1, (guards.reap files n).2.site) := by
  cases h : guards.isHeld n <;> simp [Guards.reap, h, unwatched_fire guards files n]

theorem unwatched_bind (handle : String) (n : Nat) :
    guards.bind files.site handle n =
      ((guards.bind files handle n).1, (guards.bind files handle n).2.site) := by
  cases h : guards.number? handle <;> simp [Guards.bind, h, unwatched_reap _ files]

end Unwatched

theorem unwatched_start (path : Path) (handle : String) (files : Watched) :
    (History.start path handle files).unwatched = History.start path handle files.site := by
  simp [History.start, History.unwatched, Guards.add, unwatched_bind _ files]

theorem unwatched_step (h : History Watched) (action : History.Action) :
    (h.step action).unwatched = h.unwatched.step action := by
  cases action with
  | clone handle new =>
    cases hn : h.guards.number? handle <;>
      simp [History.step, History.unwatched, Guards.clone?, hn, unwatched_bind _ h.files]
  | release handle =>
    cases hn : h.guards.number? handle <;>
      simp [History.step, History.unwatched, Guards.release?, hn, unwatched_fire _ h.files]
  | drop handle =>
    cases hn : h.guards.number? handle <;>
      simp [History.step, History.unwatched, Guards.drop?, hn, unwatched_reap _ h.files]
  | elsewhere root => rfl

/-- Watching does not change a history. -/
theorem unwatched_steps (h : History Watched) (actions : List History.Action) :
    (h.steps actions).unwatched = h.unwatched.steps actions := by
  induction actions generalizing h with
  | nil => rfl
  | cons action actions ih =>
    simp only [History.steps, List.foldl_cons] at ih ⊢
    rw [ih, unwatched_step]

end ScopedCheck
