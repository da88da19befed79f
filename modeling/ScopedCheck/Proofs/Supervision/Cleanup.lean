import ScopedCheck.Supervision
import ScopedCheck.Proofs.Config.Temporary
import ScopedCheck.Proofs.FileSystem.Creation

namespace ScopedCheck

namespace Site

/-- Whether what was at a path is gone, if it could be removed, and all places that the path did not lead
to look as before. -/
structure Cleared (path : Path) (before after : Site) : Prop where
  gone : (before.occupied path → (before.remove path).isOk) → after.occupied path = false
  rest : ∀ place, before.locate false path ≠ .ok (.existing place) →
    after.root.faceAt? place = before.root.faceAt? place

theorem faceAt?_of_remove {site site' : Site} {path : Path} {place : Place}
    (removed : site.remove path = .ok site')
    (away : site.locate false path ≠ .ok (.existing place)) :
    site'.root.faceAt? place = site.root.faceAt? place := by
  obtain ⟨spot, node, located, there, leaf, rfl⟩ := exists_of_remove removed
  have ne : place ≠ spot := fun same => away (same ▸ located)
  obtain rfl | ⟨above, name, rfl⟩ := List.eq_nil_or_concat spot
  · rfl
  · rw [List.concat_eq_append] at there ne ⊢
    rw [eraseAt_concat]
    exact (Node.faceAt?_erase there leaf place).trans (if_neg ne)

theorem cleared_attempt {path : Path} (absolute : path.isAbsolute) (site : Site) :
    Cleared path site (Remover.attempt path site).2 := by
  cases removed : site.remove path with
  | ok site' =>
    have attempted : (Remover.attempt path site).2 = site' := by simp [Remover.attempt, removed]
    rw [attempted]
    exact ⟨fun _ => occupied_of_remove absolute removed, fun _ => faceAt?_of_remove removed⟩
  | error cause =>
    have attempted : (Remover.attempt path site).2 = site := by simp [Remover.attempt, removed]
    rw [attempted]
    refine ⟨fun removable => ?_, fun _ _ => rfl⟩
    by_contra there
    have ok := removable (by simpa using there)
    simp [removed, Except.isOk, Except.toBool] at ok

end Site

namespace Supervision

/-- The signals that ask a run to end, and that it means to handle. -/
def IsTermination (signal : Signal) : Prop :=
  signal ∈ [Signal.hangup, .interrupt, .terminate]

theorem terminations_left {events later : List Event}
    (terminations : ∀ signal, .signal signal ∈ events ++ later → IsTermination signal) :
    ∀ signal, .signal signal ∈ events → IsTermination signal :=
  fun signal sent => terminations signal (List.mem_append_left _ sent)

theorem terminations_last {events : List Event} {event : Event}
    (terminations : ∀ signal, .signal signal ∈ events ++ [event] → IsTermination signal) :
    ∀ signal, event = .signal signal → IsTermination signal := by
  rintro signal rfl
  exact terminations signal (by simp)

section Steps

variable {σ : Type} [World σ] {s : Supervision σ}

/-- What a termination signal does to a run that goes on: it waits for the watcher, or it ends the run
at once if it comes too early. -/
theorem receive_termination {signal : Signal} (h : IsTermination signal)
    (unpaused : s.paused = false) :
    s.receive signal =
      if signal ∈ s.stage.handled then { s with pending := signal :: s.pending }
      else s.finish none (.killed signal) := by
  have plain : signal ≠ .kill ∧ signal ≠ .resume ∧ signal.isPause = false ∧
      signal.isUnnoticed = false ∧ signal.isFault = false := by
    simp only [IsTermination, List.mem_cons, List.not_mem_nil, or_false] at h
    obtain rfl | rfl | rfl := h <;> decide
  obtain ⟨kill, resume, pause, unnoticed, fault⟩ := plain
  simp [receive, kill, resume, pause, unnoticed, fault, unpaused]

@[simp] theorem release_path (s : Supervision σ) : s.release.guard.path = s.guard.path := by
  cases h : s.guard.released <;> simp [release, Guard.release, h]

@[simp] theorem release_released (s : Supervision σ) : s.release.guard.released = true := by
  cases h : s.guard.released <;> simp [release, Guard.release, h]

@[simp] theorem finish_guard (s : Supervision σ) (task? : Option Task) (exit : Exit) :
    (s.finish task? exit).guard = s.guard := rfl

@[simp] theorem finish_exit? (s : Supervision σ) (task? : Option Task) (exit : Exit) :
    (s.finish task? exit).exit? = some exit := rfl

theorem steps_append (s : Supervision σ) (before after : List Event) :
    s.steps (before ++ after) = (s.steps before).steps after :=
  List.foldl_append

theorem steps_concat (s : Supervision σ) (events : List Event) (event : Event) :
    s.steps (events ++ [event]) = (s.steps events).step event := by
  rw [steps_append]
  rfl

theorem step_of_exit (ended : s.exit?.isSome) {event : Event}
    (own : ∀ root, event ≠ .elsewhere root) : s.step event = s := by
  cases event with
  | elsewhere root => exact absurd rfl (own root)
  | _ => simp [step, ended]

theorem step_signal (running : s.exit? = none) (unpaused : s.paused = false) {signal : Signal}
    (h : IsTermination signal) :
    s.step (.signal signal) =
      if signal ∈ s.stage.handled then { s with pending := signal :: s.pending }
      else s.finish none (.killed signal) := by
  rw [← receive_termination h unpaused]
  simp [step, running]

/-- All that an event other than a signal or a change of the files can do to a run that goes on. -/
inductive Effect (s : Supervision σ) : Supervision σ → Prop where
  | nothing : Effect s s
  | moved (stage : Stage) (before : ∀ n, s.stage ≠ .released n) (after : ∀ n, stage ≠ .released n) :
      Effect s { s with stage := stage }
  | cleaned (n : Int) (before : ∀ n, s.stage ≠ .released n) :
      Effect s { s.release with stage := .released n }
  | attended (n : Int) (before : ∀ n, s.stage ≠ .released n) :
      Effect s (s.release.finish (some .watcher) (.status n))
  | finished (n : Int) (before : s.stage = .released n) :
      Effect s (s.finish (some .main) (.status n))

theorem effect_step (running : s.exit? = none) {event : Event}
    (quiet : (∀ signal, event ≠ .signal signal) ∧ ∀ root, event ≠ .elsewhere root) :
    Effect s (s.step event) := by
  cases event with
  | signal signal => exact absurd rfl (quiet.1 signal)
  | elsewhere root => exact absurd rfl (quiet.2 root)
  | proceed =>
    cases paused : s.paused with
    | true => simpa [step, running, paused] using .nothing
    | false =>
      have same : s.step .proceed = s.proceed := by simp [step, running, paused]
      rw [same]
      cases stage : s.stage with
      | running => simpa only [proceed, stage] using .nothing
      | ended result =>
        simpa only [proceed, stage] using .cleaned (statusOf result) (by simp [stage])
      | released status => simpa only [proceed, stage] using Effect.finished status stage
      | _ => simpa only [proceed, stage] using .moved _ (by simp [stage]) (by simp)
  | programEnds result =>
    cases stage : s.stage with
    | running =>
      have moved : Effect s { s with stage := .ended result } :=
        .moved _ (by simp [stage]) (by simp)
      simpa [step, running, stage] using moved
    | _ => simpa [step, running, stage] using .nothing
  | attend signal =>
    simp only [step, running, Option.isSome_none, Bool.false_eq_true, if_false]
    split_ifs with ready
    · refine .attended _ fun n stage => ?_
      simp [stage, Stage.waits] at ready
    · exact .nothing

end Steps

variable {s : Supervision Site} {path : Path}

theorem release_site (unreleased : s.guard.released = false) :
    s.release.site = (Remover.attempt s.guard.path s.site).2 := by
  simp [release, Guard.release, unreleased]

/-- Once the guard has been released, nothing is at its path, if a file that is there can be removed. -/
theorem occupied_release (absolute : path.isAbsolute) (guard : s.guard.path = path)
    (unreleased : s.guard.released = false)
    (removable : s.site.occupied path → (s.site.remove path).isOk) :
    s.release.site.occupied path = false := by
  rw [release_site unreleased, guard]
  exact (Site.cleared_attempt absolute s.site).gone removable

/-- Whether a run was ended by a signal that had no handler yet. -/
def IsUnhandled (s : Supervision Site) (events : List Event) : Prop :=
  ∃ before signal after, events = before ++ .signal signal :: after ∧
    (s.steps before).exit? = none ∧ signal ∉ (s.steps before).stage.handled

/-- The files as others have left them. -/
def rootOf (root : Node) (events : List Event) : Node :=
  events.foldl (fun root event => match event with | .elsewhere root' => root' | _ => root) root

/-- Whether nobody hinders the removal of the file at a path, or puts one there once it is gone. -/
structure Undisturbed (path : Path) (s : Supervision Site) (events : List Event) : Prop where
  removable : ∀ before after, events = before ++ after →
    (s.steps before).site.occupied path → ((s.steps before).site.remove path).isOk
  gone : ∀ before root after, events = before ++ .elsewhere root :: after →
    (s.steps before).site.occupied path = false →
    ((s.steps before).step (.elsewhere root)).site.occupied path = false

theorem Undisturbed.of_append {events later : List Event}
    (h : Undisturbed path s (events ++ later)) : Undisturbed path s events :=
  ⟨fun before after heq => h.removable before (after ++ later) (by simp [heq]),
    fun before root after heq => h.gone before root (after ++ later) (by simp [heq])⟩

/-- A run that has the files to itself is undisturbed if it can remove the file whenever it is there. -/
theorem Undisturbed.of_inits {events : List Event}
    (removable : ∀ before ∈ events.inits,
      (s.steps before).site.occupied path → ((s.steps before).site.remove path).isOk)
    (alone : ∀ root, .elsewhere root ∉ events) : Undisturbed path s events where
  removable before after split := removable before ((List.mem_inits _ _).2 ⟨after, split.symm⟩)
  gone before root after split := absurd (by simp [split]) (alone root)

/-- What holds of a run on the files of a site after some events. -/
structure Invariant (path : Path) (site : Site) (events : List Event) (s : Supervision Site) : Prop where
  guard : s.guard.path = path
  unpaused : s.paused = false
  untouched : s.guard.released = false → s.site = { site with root := rootOf site.root events }
  removed : s.guard.released = true → s.site.occupied path = false
  stage : s.exit? = none → (s.guard.released = true ↔ ∃ n, s.stage = .released n)
  status : ∀ n, s.exit? = some (.status n) → s.guard.released = true
  killed : ∀ signal, s.exit? = some (.killed signal) → s.guard.released = false

section Invariant

variable {site : Site} {events : List Event}

theorem Invariant.unreleased (inv : Invariant path site events s) (running : s.exit? = none)
    (before : ∀ n, s.stage ≠ .released n) : s.guard.released = false := by
  rw [Bool.eq_false_iff]
  intro released
  obtain ⟨n, stage⟩ := (inv.stage running).1 released
  exact before n stage

theorem invariant_effect {s' : Supervision Site} (inv : Invariant path site events s)
    (running : s.exit? = none) (absolute : path.isAbsolute)
    (removable : s.site.occupied path → (s.site.remove path).isOk) (effect : Effect s s') :
    Invariant path site events s' := by
  cases effect with
  | nothing => exact inv
  | moved stage before after =>
    have unreleased := inv.unreleased running before
    exact { inv with stage := by simp [unreleased, after] }
  | cleaned n before =>
    have unreleased := inv.unreleased running before
    have removed := occupied_release absolute inv.guard unreleased removable
    exact {
      guard := by simp [inv.guard]
      unpaused := inv.unpaused
      untouched := by simp
      removed := fun _ => removed
      stage := by simp
      status := by simp
      killed := by simp [release, running] }
  | attended n before =>
    have unreleased := inv.unreleased running before
    have removed := occupied_release absolute inv.guard unreleased removable
    exact {
      guard := by simp [inv.guard]
      unpaused := inv.unpaused
      untouched := by simp
      removed := fun _ => removed
      stage := by simp
      status := by simp
      killed := by simp }
  | finished n before =>
    have released : s.guard.released = true := (inv.stage running).2 ⟨n, before⟩
    exact { inv with
      stage := by simp
      status := fun _ _ => released
      killed := by simp }

theorem rootOf_concat (root : Node) (events : List Event) (event : Event) :
    rootOf root (events ++ [event]) =
      match event with
      | .elsewhere root' => root'
      | _ => rootOf root events := by
  rw [rootOf, List.foldl_append]
  rfl

/-- An event that is no change of the files leaves them to the run. -/
theorem Invariant.concat (inv : Invariant path site events s) {event : Event}
    (own : ∀ root, event ≠ .elsewhere root) : Invariant path site (events ++ [event]) s := by
  have same : rootOf site.root (events ++ [event]) = rootOf site.root events := by
    rw [rootOf_concat]
    cases event with
    | elsewhere root => exact absurd rfl (own root)
    | _ => rfl
  exact { inv with untouched := same ▸ inv.untouched }

theorem invariant_signal (inv : Invariant path site events s) (running : s.exit? = none)
    {signal : Signal} (h : IsTermination signal) :
    Invariant path site events (s.step (.signal signal)) := by
  rw [step_signal running inv.unpaused h]
  split_ifs with handled
  · exact { inv with }
  · have unreleased : s.guard.released = false := by
      refine inv.unreleased running fun n stage => handled ?_
      rw [stage]
      exact h
    exact { inv with
      stage := by simp
      status := by simp
      killed := fun _ _ => unreleased }

/-- What one event preserves, if the file can be removed and does not come back by it. -/
theorem invariant_step (inv : Invariant path site events s) (absolute : path.isAbsolute)
    (removable : s.site.occupied path → (s.site.remove path).isOk) {event : Event}
    (termination : ∀ signal, event = .signal signal → IsTermination signal)
    (gone : ∀ root, event = .elsewhere root → s.site.occupied path = false →
      (s.step event).site.occupied path = false) :
    Invariant path site (events ++ [event]) (s.step event) := by
  by_cases foreign : ∃ root, event = .elsewhere root
  · obtain ⟨root, rfl⟩ := foreign
    have untouched : s.guard.released = false →
        (s.step (.elsewhere root)).site =
          { site with root := rootOf site.root (events ++ [.elsewhere root]) } := by
      intro unreleased
      rw [rootOf_concat]
      show { s.site with root := root } = _
      rw [inv.untouched unreleased]
    have removed : s.guard.released = true →
        (s.step (.elsewhere root)).site.occupied path = false := by
      intro released
      exact gone root rfl (inv.removed released)
    exact { inv with
      untouched := untouched
      removed := removed }
  · have own : ∀ root, event ≠ .elsewhere root := fun root h => foreign ⟨root, h⟩
    refine Invariant.concat ?_ own
    cases running : s.exit? with
    | some exit =>
      rw [step_of_exit (by simp [running]) own]
      exact inv
    | none =>
      by_cases sent : ∃ signal, event = .signal signal
      · obtain ⟨signal, rfl⟩ := sent
        exact invariant_signal inv running (termination signal rfl)
      · exact invariant_effect inv running absolute removable
          (effect_step running ⟨fun signal h => sent ⟨signal, h⟩, own⟩)

end Invariant

theorem invariant_start (site : Site) (path : Path) :
    Invariant path site [] (start site (.new path)) :=
  ⟨rfl, rfl, fun _ => rfl, by simp [start, Guard.new], by simp [start, Guard.new], by simp [start],
    by simp [start]⟩

/-- What holds of a run after any events. -/
theorem invariant_steps {site : Site} (absolute : path.isAbsolute) {events : List Event}
    (undisturbed : Undisturbed path (start site (.new path)) events)
    (terminations : ∀ signal, .signal signal ∈ events → IsTermination signal) :
    Invariant path site events ((start site (.new path)).steps events) := by
  induction events using List.reverseRecOn with
  | nil => exact invariant_start site path
  | append_singleton events event ih =>
    have inv := ih undisturbed.of_append (terminations_left terminations)
    rw [steps_concat]
    refine invariant_step inv absolute (undisturbed.removable events [event] rfl)
      (terminations_last terminations) ?_
    rintro root rfl
    exact undisturbed.gone events root [] rfl

theorem isUnhandled_concat (s : Supervision Site) (events : List Event) (event : Event) :
    IsUnhandled s (events ++ [event]) ↔
      IsUnhandled s events ∨ ∃ signal, event = .signal signal ∧ (s.steps events).exit? = none ∧
        signal ∉ (s.steps events).stage.handled := by
  constructor
  · rintro ⟨before, signal, after, heq, running, early⟩
    induction after using List.reverseRecOn with
    | nil =>
      obtain ⟨rfl, rfl⟩ : events = before ∧ event = .signal signal := by
        simpa using List.append_inj' heq rfl
      exact .inr ⟨signal, rfl, running, early⟩
    | append_singleton after last _ =>
      rw [← List.cons_append, ← List.append_assoc] at heq
      obtain ⟨rfl, -⟩ := List.append_inj' heq rfl
      exact .inl ⟨before, signal, after, rfl, running, early⟩
  · rintro (⟨before, signal, after, rfl, running, early⟩ | ⟨signal, rfl, running, early⟩)
    · exact ⟨before, signal, after ++ [event], by simp, running, early⟩
    · exact ⟨events, signal, [], rfl, running, early⟩

/-- The only event by which a run is killed is a signal without a handler. -/
theorem killed_step (unpaused : s.paused = false) {event : Event}
    (termination : ∀ signal, event = .signal signal → IsTermination signal) :
    (∃ signal, (s.step event).exit? = some (.killed signal)) ↔
      (∃ signal, s.exit? = some (.killed signal)) ∨
        ∃ signal, event = .signal signal ∧ s.exit? = none ∧ signal ∉ s.stage.handled := by
  by_cases foreign : ∃ root, event = .elsewhere root
  · obtain ⟨root, rfl⟩ := foreign
    simp [step, setRoot]
  have own : ∀ root, event ≠ .elsewhere root := fun root h => foreign ⟨root, h⟩
  cases running : s.exit? with
  | some exit =>
    rw [step_of_exit (by simp [running]) own, running]
    simp
  | none =>
    by_cases sent : ∃ signal, event = .signal signal
    · obtain ⟨signal, rfl⟩ := sent
      rw [step_signal running unpaused (termination signal rfl)]
      split_ifs with handled <;> simp [running, handled]
    · have effect := effect_step running ⟨fun signal h => sent ⟨signal, h⟩, own⟩
      have quiet : ∀ signal, event ≠ .signal signal := fun signal h => sent ⟨signal, h⟩
      generalize s.step event = s' at effect
      cases effect <;> simp [running, quiet, release]

theorem killed_iff_isUnhandled {site : Site} (absolute : path.isAbsolute) {events : List Event}
    (undisturbed : Undisturbed path (start site (.new path)) events)
    (terminations : ∀ signal, .signal signal ∈ events → IsTermination signal) :
    (∃ signal, ((start site (.new path)).steps events).exit? = some (.killed signal)) ↔
      IsUnhandled (start site (.new path)) events := by
  induction events using List.reverseRecOn with
  | nil => simp [steps, start, IsUnhandled]
  | append_singleton events event ih =>
    have before := undisturbed.of_append
    have earlier := terminations_left terminations
    have unpaused := (invariant_steps absolute before earlier).unpaused
    rw [steps_concat, isUnhandled_concat, ← ih before earlier]
    exact killed_step unpaused (terminations_last terminations)

/-- Once a run that termination signals may reach at any time has ended, its temporary config is still
there exactly if one of the signals came before the handler for it, and nobody else removed the file. -/
theorem occupied_iff_isUnhandled {config : Config} {before site : Site} {trouble : Trouble}
    {suffixes : Nat → Suffix} {directory : Path} {members : Json.Members} {guard : Guard}
    {events : List Event} {exit : Exit}
    (written : config.writeTemporary before trouble suffixes directory members = (.ok guard, site))
    (undisturbed : Undisturbed guard.path (start site guard) events)
    (terminations : ∀ signal, .signal signal ∈ events → IsTermination signal)
    (ended : ((start site guard).steps events).exit? = some exit) :
    ((start site guard).steps events).site.occupied guard.path ↔
      IsUnhandled (start site guard) events ∧
        { site with root := rootOf site.root events }.occupied guard.path := by
  obtain ⟨new, absolute⟩ := Config.guard_of_writeTemporary written
  generalize guard.path = path at new absolute undisturbed ⊢
  subst new
  have inv := invariant_steps absolute undisturbed terminations
  rw [← killed_iff_isUnhandled absolute undisturbed terminations, ended]
  cases exit with
  | status n =>
    have removed := inv.removed (inv.status n ended)
    simp [removed]
  | killed signal =>
    have untouched := inv.untouched (inv.killed signal ended)
    simp [untouched]

/-- A directory without any files. -/
def emptyProject : Site where
  root := .directory [("w", .directory [])]
  directory := some ["w"]

def emptyConfig : Config :=
  ⟨⟨"/w/tsconfig.json"⟩, []⟩

def plainSuffix : Suffix where
  chars := List.replicate Suffix.size 'x'
  length_eq := rfl
  isAlphanum_of_mem := by
    intro c hc
    rw [List.eq_of_mem_replicate hc]
    decide

/-- The directory with a temporary config of some content. -/
def projectWith (content : Utf8.Bytes) : Site :=
  { emptyProject with
    root := .directory [("w", .directory [("tsconfig.xxxxxxxxxx.json",
      .file content { mode := Config.temporaryMode, identity := 1 })])] }

def writtenProject : Site :=
  projectWith (Utf8.encode (Json.Members.text []))

def emptyGuard : Guard :=
  .new ⟨"/w/tsconfig.xxxxxxxxxx.json"⟩

theorem writeTemporary_emptyProject :
    emptyConfig.writeTemporary emptyProject {} (fun _ => plainSuffix) ⟨"/w"⟩ [] =
      (.ok emptyGuard, writtenProject) := by
  have named : Path.child ⟨"/w"⟩ (emptyConfig.temporaryName plainSuffix) = emptyGuard.path := by
    decide +kernel
  have free : emptyProject.create emptyGuard.path [] Config.temporaryMode = .ok (projectWith []) :=
    rfl
  exact Config.writeTemporary_of_free (by decide) named free rfl

/-- A request to terminate that comes when only hangups have a handler. -/
def earlyTermination : List Event :=
  [.proceed, .proceed, .signal .terminate]

theorem occupied_earlyTermination :
    ((start writtenProject emptyGuard).steps earlyTermination).site.occupied emptyGuard.path := by
  have undisturbed : Undisturbed emptyGuard.path (start writtenProject emptyGuard)
      earlyTermination :=
    .of_inits (by decide +kernel) (by simp [earlyTermination])
  have terminations : ∀ signal, .signal signal ∈ earlyTermination → IsTermination signal := by
    simp [earlyTermination, IsTermination]
  have ended : ((start writtenProject emptyGuard).steps earlyTermination).exit? =
      some (.killed .terminate) := rfl
  refine (occupied_iff_isUnhandled writeTemporary_emptyProject undisturbed terminations ended).2
    ⟨⟨[.proceed, .proceed], .terminate, [], rfl, rfl, ?_⟩, ?_⟩
  · decide
  · decide

end Supervision

end ScopedCheck
