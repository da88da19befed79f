import ScopedCheck.Proofs.Guard.History

namespace ScopedCheck.History

variable {σ : Type} {path : Path}

theorem isLive_iff {h : History σ} {handle : String} :
    h.isLive handle ↔ ∃ entry ∈ h.guards.handles, entry.1 = handle := by
  simp only [isLive, Guards.number?, List.lookup_isSome_iff, beq_iff_eq]
  exact exists_congr fun entry => and_congr_right fun _ => eq_comm

/-- The same history with other handles. -/
def withHandles (h : History σ) (handles : List (String × Nat)) : History σ :=
  { h with guards := { h.guards with handles := handles } }

/-- The history after the guard has fired, be it now or before. -/
def fired [Remover σ] (path : Path) (h : History σ) : History σ :=
  if h.isReleased then h
  else
    { h with
      guards := { h.guards with made := [⟨path, true⟩] }
      files := (Remover.attempt path h.files).2 }

section Fired

variable [Remover σ] (path : Path) (h : History σ)

@[simp] theorem fired_answers : (h.fired path).answers = h.answers := by
  unfold fired
  split_ifs <;> rfl

@[simp] theorem fired_handles : (h.fired path).guards.handles = h.guards.handles := by
  unfold fired
  split_ifs <;> rfl

@[simp] theorem isReleased_fired : (h.fired path).isReleased := by
  unfold fired
  split_ifs with released
  · exact released
  · rfl

theorem fired_of_isReleased (released : h.isReleased) : h.fired path = h :=
  if_pos released

theorem fired_files (unreleased : h.isReleased = false) :
    (h.fired path).files = (Remover.attempt path h.files).2 := by
  simp [fired, unreleased]

end Fired

/-- Whether there is one guard, it is on a path, and all handles are its own. -/
structure Sole (path : Path) (h : History σ) : Prop where
  made : h.guards.made = [⟨path, h.isReleased⟩]
  own : ∀ entry ∈ h.guards.handles, entry.2 = 0

namespace Sole

variable {h : History σ}

theorem number (sole : Sole path h) {handle : String} (live : h.isLive handle) :
    h.guards.number? handle = some 0 := by
  obtain ⟨n, hn⟩ := Option.isSome_iff_exists.1 live
  obtain ⟨before, after, heq, -⟩ := List.lookup_eq_some_iff.1 hn
  have : n = 0 := sole.own (handle, n) (by simp [heq])
  rw [hn, this]

theorem isHeld (sole : Sole path h) : h.guards.isHeld 0 = !h.guards.handles.isEmpty := by
  cases hh : h.guards.handles with
  | nil => simp [Guards.isHeld, hh]
  | cons entry entries =>
    have : entry.2 = 0 := sole.own entry (by simp [hh])
    simp [Guards.isHeld, hh, this]

theorem withHandles (sole : Sole path h) {handles : List (String × Nat)}
    (own : ∀ entry ∈ handles, entry.2 = 0) : Sole path (h.withHandles handles) :=
  ⟨sole.made, own⟩

theorem own_filter (sole : Sole path h) (keep : String × Nat → Bool) :
    ∀ entry ∈ h.guards.handles.filter keep, entry.2 = 0 :=
  fun entry he => sole.own entry (List.mem_filter.1 he).1

variable [Shared σ]

/-- What the first firing does, and that later ones do nothing. -/
theorem fire (sole : Sole path h) :
    h.guards.fire h.files 0 =
      (!h.isReleased && (Remover.attempt path h.files).1, (h.fired path).guards,
        (h.fired path).files) := by
  have first : h.guards.made[0]? = some ⟨path, h.isReleased⟩ := by rw [sole.made]; rfl
  cases released : h.isReleased with
  | true =>
    have same : h.guards.made.set 0 ⟨path, true⟩ = h.guards.made := by
      rw [sole.made, released]
      rfl
    simp [Guards.fire, first, Guard.release, released, fired, same]
  | false => simp [Guards.fire, Guard.release, released, fired, sole.made]

/-- A guard without a handle fires. -/
theorem reap (sole : Sole path h) :
    ({ h with
        guards := (h.guards.reap h.files 0).1
        files := (h.guards.reap h.files 0).2 } : History σ) =
      if h.guards.handles.isEmpty then h.fired path else h := by
  cases empty : h.guards.handles.isEmpty with
  | true =>
    simp only [Guards.reap, sole.isHeld, empty, sole.fire]
    rw [← fired_answers path h]
    rfl
  | false => simp [Guards.reap, sole.isHeld, empty]

theorem step_clone (sole : Sole path h) {handle : String} (live : h.isLive handle) (new : String) :
    h.step (.clone handle new) =
      h.withHandles ((new, 0) :: h.guards.handles.filter (·.1 ≠ new)) := by
  have own : ∀ entry ∈ (new, 0) :: h.guards.handles.filter (·.1 ≠ new), entry.2 = 0 :=
    List.forall_mem_cons.2 ⟨rfl, sole.own_filter _⟩
  have kept := (sole.withHandles own).reap
  simp only [step, Guards.clone?, sole.number live, Option.map_some, Guards.bind]
  cases old : h.guards.number? new with
  | none => rfl
  | some m =>
    have first : h.guards.number? new = some 0 := sole.number (by simp [isLive, old])
    obtain rfl : m = 0 := Option.some.inj (old.symm.trans first)
    exact kept

theorem step_release (sole : Sole path h) {handle : String} (live : h.isLive handle) :
    h.step (.release handle) =
      { h.fired path with
        answers := h.answers ++ [!h.isReleased && (Remover.attempt path h.files).1] } := by
  simp [step, Guards.release?, sole.number live, sole.fire]

theorem step_drop (sole : Sole path h) {handle : String} (live : h.isLive handle) :
    h.step (.drop handle) =
      let h' := h.withHandles (h.guards.handles.filter (·.1 ≠ handle))
      if h'.guards.handles.isEmpty then h'.fired path else h' := by
  have reaped := (sole.withHandles (sole.own_filter (·.1 ≠ handle))).reap
  simp only [step, Guards.drop?, sole.number live, Option.map_some]
  exact reaped

theorem step_dead {handle : String} (dead : h.isLive handle = false) (new : String) :
    h.step (.clone handle new) = h ∧ h.step (.release handle) = h ∧ h.step (.drop handle) = h := by
  have : h.guards.number? handle = none := by simpa [isLive] using dead
  simp [step, Guards.clone?, Guards.release?, Guards.drop?, this]

/-- All that an action can do: nothing, give the guard other handles but at least one, fire it for want
of a handle or on a release, or change the files without it. -/
theorem step_cases (sole : Sole path h) (action : Action) :
    h.step action = h ∨
    (∃ entry entries, (∀ e ∈ entry :: entries, e.2 = 0) ∧
      h.step action = h.withHandles (entry :: entries)) ∨
    h.step action = (h.withHandles []).fired path ∨
    h.step action = { h.fired path with
      answers := h.answers ++ [!h.isReleased && (Remover.attempt path h.files).1] } ∨
    ∃ root, action = .elsewhere root ∧
      h.step action = { h with files := Shared.replace root h.files } := by
  cases action with
  | clone handle new =>
    cases live : h.isLive handle with
    | false => exact .inl (step_dead live new).1
    | true =>
      exact .inr (.inl ⟨_, _, List.forall_mem_cons.2 ⟨rfl, sole.own_filter _⟩,
        sole.step_clone live new⟩)
  | release handle =>
    cases live : h.isLive handle with
    | false => exact .inl (step_dead live handle).2.1
    | true => exact .inr (.inr (.inr (.inl (sole.step_release live))))
  | drop handle =>
    cases live : h.isLive handle with
    | false => exact .inl (step_dead live handle).2.2
    | true =>
      have own := sole.own_filter (·.1 ≠ handle)
      have dropped := sole.step_drop live
      match rest : h.guards.handles.filter (·.1 ≠ handle) with
      | [] =>
        rw [rest] at dropped
        exact .inr (.inr (.inl dropped))
      | entry :: entries =>
        rw [rest] at dropped own
        exact .inr (.inl ⟨entry, entries, own, dropped⟩)
  | elsewhere root => exact .inr (.inr (.inr (.inr ⟨root, rfl, rfl⟩)))

theorem fired_sole (sole : Sole path h) : Sole path (h.fired path) := by
  refine ⟨?_, by rw [fired_handles]; exact sole.own⟩
  rw [isReleased_fired]
  unfold fired
  split_ifs with released
  · rw [sole.made, released]
  · rfl

end Sole

/-- What is preserved: the one attempt goes with the release, and so does the one answer. -/
structure Invariant (path : Path) (h : History Watched) : Prop extends Sole path h where
  attempts : h.files.attempts = if h.isReleased then [path] else []
  answers : h.answers.count true ≤ if h.isReleased then 1 else 0

namespace Invariant

variable {h : History Watched}

theorem fired (inv : Invariant path h) : Invariant path (h.fired path) := by
  cases released : h.isReleased with
  | true => rwa [fired_of_isReleased path h released]
  | false =>
    have attempts := inv.attempts
    have answers := inv.answers
    simp only [released, Bool.false_eq_true, if_false] at attempts answers
    refine ⟨inv.fired_sole, ?_, ?_⟩
    · rw [fired_files path h released, isReleased_fired, if_pos rfl]
      simp [Remover.attempt, attempts]
    · rw [fired_answers, isReleased_fired, if_pos rfl]
      omega

theorem withHandles (inv : Invariant path h) {handles : List (String × Nat)}
    (own : ∀ entry ∈ handles, entry.2 = 0) : Invariant path (h.withHandles handles) :=
  ⟨inv.toSole.withHandles own, inv.attempts, inv.answers⟩

theorem answered (inv : Invariant path h) (removed : Bool) :
    Invariant path { h.fired path with answers := h.answers ++ [!h.isReleased && removed] } := by
  obtain ⟨sole, attempts, -⟩ := inv.fired
  refine ⟨⟨sole.made, sole.own⟩, attempts, ?_⟩
  have released := isReleased_fired path h
  have answers := inv.answers
  show (h.answers ++ _).count true ≤ if (h.fired path).isReleased then 1 else 0
  rw [released, if_pos rfl, List.count_append]
  cases hr : h.isReleased <;> cases removed <;> simp [hr] at answers ⊢ <;> omega

theorem step (inv : Invariant path h) (action : Action) : Invariant path (h.step action) := by
  obtain h' | ⟨_, _, own, h'⟩ | h' | h' | ⟨root, -, h'⟩ := inv.step_cases action <;> rw [h']
  · exact inv
  · exact inv.withHandles own
  · exact (inv.withHandles (by simp)).fired
  · exact inv.answered _
  · exact ⟨⟨inv.made, inv.own⟩, inv.attempts, inv.answers⟩

end Invariant

/-- Whether a guard without a handle has been released. -/
def Settled (h : History σ) : Prop :=
  h.guards.handles = [] → h.isReleased

section Steps

variable [Shared σ] {h : History σ}

theorem isReleased_step (sole : Sole path h) (released : h.isReleased) (action : Action) :
    (h.step action).isReleased := by
  obtain h' | ⟨_, _, -, h'⟩ | h' | h' | ⟨root, -, h'⟩ := sole.step_cases action <;> rw [h']
  · exact released
  · exact released
  · exact isReleased_fired path _
  · exact isReleased_fired path h
  · exact released

theorem settled_step (sole : Sole path h) (settled : Settled h) (action : Action) :
    Settled (h.step action) := by
  obtain h' | ⟨_, _, -, h'⟩ | h' | h' | ⟨root, -, h'⟩ := sole.step_cases action <;> rw [h']
  · exact settled
  · rintro ⟨⟩
  · exact fun _ => isReleased_fired path _
  · exact fun _ => isReleased_fired path h
  · exact settled

/-- After the first firing nothing that is done to a handle changes the files. -/
theorem files_step (sole : Sole path h) (released : h.isReleased) {action : Action}
    (own : ∀ root, action ≠ .elsewhere root) : (h.step action).files = h.files := by
  obtain h' | ⟨_, _, -, h'⟩ | h' | h' | ⟨root, other, -⟩ := sole.step_cases action
  · rw [h']
  · rw [h']
    rfl
  · rw [h', fired_of_isReleased path (h.withHandles []) released]
    rfl
  · rw [h', fired_of_isReleased path h released]
  · exact absurd other (own root)

end Steps

theorem invariant_start (path : Path) (handle : String) (site : Site) :
    Invariant path (start path handle (⟨site, []⟩ : Watched)) :=
  ⟨⟨rfl, by simp [start, Guards.add, Guards.bind, Guards.number?]⟩, rfl, Nat.le_refl 0⟩

theorem invariant_steps {h : History Watched} (inv : Invariant path h) (settled : Settled h)
    (actions : List Action) : Invariant path (h.steps actions) ∧ Settled (h.steps actions) := by
  induction actions generalizing h with
  | nil => exact ⟨inv, settled⟩
  | cons action actions ih => exact ih (inv.step action) (settled_step inv.toSole settled action)

theorem isReleased_steps {h : History Watched} (inv : Invariant path h) (released : h.isReleased)
    (actions : List Action) : (h.steps actions).isReleased := by
  induction actions generalizing h with
  | nil => exact released
  | cons action actions ih =>
    exact ih (inv.step action) (isReleased_step inv.toSole released action)

/-- What holds of the guard on a path at some point of a history, and of the next action. -/
structure OneShot (path : Path) (h : History Watched) : Prop where
  /-- What every handle shows. -/
  shown : ∀ handle, h.isLive handle → h.guards.get? handle = some ⟨path, h.isReleased⟩
  attempts : h.files.attempts = [] ∨ h.files.attempts = [path]
  released_iff : h.isReleased ↔ h.files.attempts = [path]
  released_forever : h.isReleased → ∀ actions, (h.steps actions).isReleased
  answers : h.answers.count true ≤ 1
  release_answer : ∀ handle, h.isLive handle →
    (h.step (.release handle)).answers =
      h.answers ++ [!h.isReleased && (h.files.site.remove path).isOk]
  drop_shared : ∀ handle other, h.isLive handle → h.isLive other → other ≠ handle →
    (h.step (.drop handle)).files = h.files ∧ (h.step (.drop handle)).isReleased = h.isReleased
  drop_last : ∀ handle, h.isLive handle → (∀ other, h.isLive other → other = handle) →
    h.isReleased = false → (h.step (.drop handle)).files = (Remover.attempt path h.files).2
  abandoned : (∀ handle, h.isLive handle = false) → h.files.attempts = [path]
  spent : h.isReleased → ∀ action, (∀ root, action ≠ .elsewhere root) →
    (h.step action).files = h.files

theorem attempt_site (path : Path) (site : Site) :
    (Remover.attempt path site).1 = (site.remove path).isOk := by
  cases h : site.remove path <;> simp [Remover.attempt, h, Except.isOk, Except.toBool]

theorem Invariant.drop_shared {h : History Watched} (inv : Invariant path h) {handle other : String}
    (live : h.isLive handle) (live' : h.isLive other) (ne : other ≠ handle) :
    (h.step (.drop handle)).files = h.files ∧
      (h.step (.drop handle)).isReleased = h.isReleased := by
  obtain ⟨entry, he, rfl⟩ := isLive_iff.1 live'
  have left : entry ∈ h.guards.handles.filter (·.1 ≠ handle) :=
    List.mem_filter.2 ⟨he, by simpa using ne⟩
  obtain ⟨first, rest, cons⟩ := List.exists_cons_of_ne_nil (List.ne_nil_of_mem left)
  have dropped := inv.step_drop live
  rw [cons] at dropped
  rw [dropped]
  exact ⟨rfl, rfl⟩

theorem Invariant.drop_last {h : History Watched} (inv : Invariant path h) {handle : String}
    (live : h.isLive handle) (alone : ∀ other, h.isLive other → other = handle)
    (unreleased : h.isReleased = false) :
    (h.step (.drop handle)).files = (Remover.attempt path h.files).2 := by
  have none : h.guards.handles.filter (·.1 ≠ handle) = [] := by
    refine List.filter_eq_nil_iff.2 fun entry he => ?_
    simpa using alone entry.1 (isLive_iff.2 ⟨entry, he, rfl⟩)
  have dropped := inv.step_drop live
  rw [none] at dropped
  rw [dropped]
  exact fired_files path (h.withHandles []) unreleased

theorem Invariant.oneShot {h : History Watched} (inv : Invariant path h) (settled : Settled h) :
    OneShot path h where
  shown handle live := by simp [Guards.get?, inv.number live, inv.made]
  attempts := by
    rw [inv.attempts]
    cases h.isReleased <;> simp
  released_iff := by
    rw [inv.attempts]
    cases h.isReleased <;> simp
  released_forever := isReleased_steps inv
  answers := inv.answers.trans (by split_ifs <;> simp)
  release_answer handle live := by
    rw [inv.step_release live, ← attempt_site]
    rfl
  drop_shared handle other live live' ne := inv.drop_shared live live' ne
  drop_last handle live alone unreleased := inv.drop_last live alone unreleased
  abandoned dead := by
    have none : h.guards.handles = [] := by
      refine List.eq_nil_iff_forall_not_mem.2 fun entry he => ?_
      have live := isLive_iff.2 ⟨entry, he, rfl⟩
      simp [dead] at live
    rw [inv.attempts, settled none, if_pos rfl]
  spent released action own := files_step inv.toSole released own

/-- A guard is one-shot over every history, whoever else changes the files, and watching it does not
change what happens. -/
theorem oneShot_steps (path : Path) (handle : String) (site : Site) (actions : List Action) :
    ((start path handle (⟨site, []⟩ : Watched)).steps actions).unwatched =
      (start path handle site).steps actions ∧
    OneShot path ((start path handle (⟨site, []⟩ : Watched)).steps actions) := by
  refine ⟨by rw [unwatched_steps, unwatched_start], ?_⟩
  obtain ⟨inv, settled⟩ := invariant_steps (invariant_start path handle site) (by rintro ⟨⟩) actions
  exact inv.oneShot settled

end ScopedCheck.History
