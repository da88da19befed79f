import ScopedCheck.Proofs.Supervision.Cleanup

namespace ScopedCheck.Supervision

variable {path : Path} {prior later : List Event}

/-- What a run does that must not be done twice. -/
inductive Act where
  /-- The guard attempts to remove the file at a path, and leaves the files in another state. -/
  | removal (path : Path) (found left : Site)
  /-- The run ends, by a step of one of its tasks or else without any. -/
  | ending (task? : Option Task) (exit : Exit)

/-- The files of a run, and what it has done. -/
structure Logged where
  site : Site
  acts : List Act := []

instance : World Logged where
  attempt path files :=
    let (removed, left) := Remover.attempt path files.site
    (removed, ⟨left, files.acts ++ [.removal path files.site left]⟩)
  replace root files := { files with site := Shared.replace root files.site }
  ending task? exit files := { files with acts := files.acts ++ [.ending task? exit] }

/-- A logged run without its log. -/
def unlogged (s : Supervision Logged) : Supervision Site :=
  { s with site := s.site.site }

/-- A run that has nothing in its log yet. -/
def logging (site : Site) (path : Path) : Supervision Logged :=
  start ⟨site, []⟩ (.new path)

/-- How the wait for the checker ended, as the first of the events says that tells it. -/
def firstEnd? (events : List Event) : Option (Except Fault Ending) :=
  events.findSome? fun event => match event with
    | .programEnds result => some result
    | _ => none

/-- Which task may end a run with which status, if the checker was started between the prior events
and the later ones. -/
inductive Verdict (prior later : List Event) : Task → Int → Prop where
  | exited (status : Nat) (ended : firstEnd? later = some (.ok (.exited status))) :
      Verdict prior later .main status
  | killed (signal : Signal) (ended : firstEnd? later = some (.ok (.killed signal))) :
      Verdict prior later .main 0
  | unwaited (cause : Fault) (ended : firstEnd? later = some (.error cause)) :
      Verdict prior later .main 1
  | attended (signal : Signal) (arrived : .signal signal ∈ prior ++ later) :
      Verdict prior later .watcher (128 + signal.number)

section Log

variable (s : Supervision Logged)

theorem unlogged_stage : s.unlogged.stage = s.stage := rfl

theorem unlogged_exit? : s.unlogged.exit? = s.exit? := rfl

theorem unlogged_pending : s.unlogged.pending = s.pending := rfl

theorem unlogged_paused : s.unlogged.paused = s.paused := rfl

theorem unlogged_held : s.unlogged.held = s.held := rfl

theorem unlogged_faults : s.unlogged.faults = s.faults := rfl

theorem unlogged_finish (task? : Option Task) (exit : Exit) :
    (s.finish task? exit).unlogged = s.unlogged.finish task? exit := rfl

theorem unlogged_release : s.release.unlogged = s.unlogged.release := by
  cases released : s.guard.released <;>
    simp [release, unlogged, Guard.release, released, Remover.attempt]

theorem unlogged_proceed : s.proceed.unlogged = s.unlogged.proceed := by
  rw [proceed, proceed, unlogged_stage]
  cases s.stage with
  | ended result =>
    dsimp only
    rw [← unlogged_release]
    rfl
  | _ => rfl

theorem unlogged_resume : s.resume.unlogged = s.unlogged.resume := by
  rw [resume, resume, unlogged_held]
  cases s.held <;> rfl

theorem unlogged_receive (signal : Signal) :
    (s.receive signal).unlogged = s.unlogged.receive signal := by
  rw [receive, receive, unlogged_stage, unlogged_faults, unlogged_paused]
  split_ifs <;> first | rfl | exact unlogged_resume s

theorem unlogged_step (event : Event) : (s.step event).unlogged = s.unlogged.step event := by
  cases event with
  | elsewhere root => rfl
  | proceed =>
    simp only [step]
    rw [unlogged_exit?, unlogged_paused]
    split_ifs <;> first | rfl | exact unlogged_proceed s
  | programEnds result =>
    simp only [step]
    rw [unlogged_exit?, unlogged_stage]
    split_ifs
    · rfl
    · cases s.stage <;> rfl
  | signal signal =>
    simp only [step]
    rw [unlogged_exit?]
    split_ifs
    · rfl
    · exact unlogged_receive s signal
  | attend signal =>
    simp only [step]
    rw [unlogged_exit?, unlogged_stage, unlogged_pending, unlogged_paused]
    split_ifs
    · rfl
    · rw [unlogged_finish, unlogged_release]
    · rfl

/-- Logging a run does not change what happens. -/
theorem unlogged_steps (events : List Event) : (s.steps events).unlogged = s.unlogged.steps events := by
  induction events generalizing s with
  | nil => rfl
  | cons event events ih =>
    simp only [steps, List.foldl_cons] at ih ⊢
    rw [ih, unlogged_step]

end Log

/-- Whether what was done first is to remove the file at a path. Then it is gone, if that can be. -/
def Removes (path : Path) (acts rest : List Act) : Prop :=
  ∃ found left, acts = .removal path found left :: rest ∧
    (path.isAbsolute → Site.Cleared path found left)

theorem removes_release {s : Supervision Logged} (unreleased : s.guard.released = false)
    (guard : s.guard.path = path) (idle : s.site.acts = []) :
    Removes path s.release.site.acts [] := by
  refine ⟨s.site.site, (Remover.attempt path s.site.site).2, ?_,
    fun absolute => Site.cleared_attempt absolute s.site.site⟩
  simp [release, Guard.release, unreleased, guard, Remover.attempt, idle]

theorem Removes.finish {s : Supervision Logged} (removes : Removes path s.site.acts [])
    (task? : Option Task) (exit : Exit) :
    Removes path (s.finish task? exit).site.acts [.ending task? exit] := by
  obtain ⟨found, left, acts, cleared⟩ := removes
  refine ⟨found, left, ?_, cleared⟩
  have more : (s.finish task? exit).site.acts = s.site.acts ++ [.ending task? exit] := rfl
  rw [more, acts]
  rfl

theorem firstEnd?_concat (events : List Event) (event : Event) :
    firstEnd? (events ++ [event]) = (firstEnd? events).or (firstEnd? [event]) :=
  List.findSome?_append

theorem firstEnd?_of_some {events : List Event} {result : Except Fault Ending}
    (first : firstEnd? events = some result) (event : Event) :
    firstEnd? (events ++ [event]) = some result := by
  rw [firstEnd?_concat, first]
  rfl

theorem Verdict.concat {task : Task} {status : Int} (verdict : Verdict prior later task status)
    (event : Event) : Verdict prior (later ++ [event]) task status := by
  cases verdict with
  | exited status ended => exact .exited status (firstEnd?_of_some ended event)
  | killed signal ended => exact .killed signal (firstEnd?_of_some ended event)
  | unwaited cause ended => exact .unwaited cause (firstEnd?_of_some ended event)
  | attended signal arrived =>
    refine .attended signal ?_
    rw [← List.append_assoc]
    exact List.mem_append_left _ arrived

/-- The main task tells how the wait for the checker ended. -/
theorem verdict_main {result : Except Fault Ending} (first : firstEnd? later = some result) :
    Verdict prior later .main (statusOf result) := by
  match result with
  | .ok (.exited status) => exact .exited status first
  | .ok (.killed signal) => exact .killed signal first
  | .error cause => exact .unwaited cause first

variable {s : Supervision Logged}

/-- What holds of a run after any events. -/
structure Orderly (path : Path) (events : List Event) (s : Supervision Logged) : Prop where
  guard : s.guard.path = path
  unpaused : s.paused = false
  arrived : ∀ signal ∈ s.pending, .signal signal ∈ events
  untouched : s.exit? = none → (∀ n, s.stage ≠ .released n) →
    s.guard.released = false ∧ s.site.acts = []

section Orderly

variable {events : List Event}

theorem Orderly.concat (orderly : Orderly path events s) (event : Event) :
    Orderly path (events ++ [event]) s :=
  { orderly with arrived := fun signal h => List.mem_append_left _ (orderly.arrived signal h) }

theorem orderly_signal (orderly : Orderly path events s) (running : s.exit? = none)
    {signal : Signal} (h : IsTermination signal) :
    Orderly path (events ++ [.signal signal]) (s.step (.signal signal)) := by
  rw [step_signal running orderly.unpaused h]
  split_ifs with handled
  · refine { orderly with arrived := ?_ }
    intro other waiting
    obtain rfl | waiting := List.mem_cons.1 waiting
    · exact List.mem_append_right _ (List.mem_singleton.2 rfl)
    · exact List.mem_append_left _ (orderly.arrived other waiting)
  · exact { orderly.concat _ with untouched := by simp }

theorem orderly_effect {s' : Supervision Logged} (orderly : Orderly path events s)
    (running : s.exit? = none) (effect : Effect s s') : Orderly path events s' := by
  cases effect with
  | nothing => exact orderly
  | moved stage before after =>
    exact { orderly with untouched := fun _ _ => orderly.untouched running before }
  | cleaned n before =>
    exact {
      guard := by simp [orderly.guard]
      unpaused := orderly.unpaused
      arrived := orderly.arrived
      untouched := fun _ stage => absurd rfl (stage n) }
  | attended n before =>
    exact {
      guard := by simp [orderly.guard]
      unpaused := orderly.unpaused
      arrived := orderly.arrived
      untouched := by simp }
  | finished n before => exact { orderly with untouched := by simp }

theorem orderly_step (orderly : Orderly path events s) {event : Event}
    (termination : ∀ signal, event = .signal signal → IsTermination signal) :
    Orderly path (events ++ [event]) (s.step event) := by
  by_cases foreign : ∃ root, event = .elsewhere root
  · obtain ⟨root, rfl⟩ := foreign
    exact { orderly.concat _ with }
  have own : ∀ root, event ≠ .elsewhere root := fun root h => foreign ⟨root, h⟩
  cases running : s.exit? with
  | some exit =>
    rw [step_of_exit (by simp [running]) own]
    exact orderly.concat event
  | none =>
    by_cases sent : ∃ signal, event = .signal signal
    · obtain ⟨signal, rfl⟩ := sent
      exact orderly_signal orderly running (termination signal rfl)
    · have effect := effect_step running ⟨fun signal h => sent ⟨signal, h⟩, own⟩
      exact orderly_effect (orderly.concat event) running effect

theorem orderly_steps (site : Site) (path : Path)
    (terminations : ∀ signal, .signal signal ∈ events → IsTermination signal) :
    Orderly path events ((logging site path).steps events) := by
  induction events using List.reverseRecOn with
  | nil => exact ⟨rfl, rfl, by simp [steps, logging, start], fun _ _ => ⟨rfl, rfl⟩⟩
  | append_singleton events event ih =>
    have orderly := ih (terminations_left terminations)
    rw [steps_concat]
    exact orderly_step orderly (terminations_last terminations)

end Orderly

/-- How far a run has come after the events since the checker was started, and what it has done. -/
inductive Progress (path : Path) (prior later : List Event) (s : Supervision Logged) : Prop where
  | checking (alive : s.exit? = none) (stage : s.stage = .running)
      (first : firstEnd? later = none) (idle : s.site.acts = [])
  | waited (result : Except Fault Ending) (alive : s.exit? = none) (stage : s.stage = .ended result)
      (first : firstEnd? later = some result) (idle : s.site.acts = [])
  | cleaned (result : Except Fault Ending) (alive : s.exit? = none)
      (stage : s.stage = .released (statusOf result)) (first : firstEnd? later = some result)
      (done : Removes path s.site.acts [])
  | finished (task : Task) (status : Int) (ended : s.exit? = some (.status status))
      (verdict : Verdict prior later task status)
      (done : Removes path s.site.acts [.ending (some task) (.status status)])

section Progress

variable {event : Event}

/-- An event that is not the end of the checker and changes neither stage nor exit leaves a run where
it is. -/
theorem Progress.concat (progress : Progress path prior later s) {s' : Supervision Logged}
    (exit : s'.exit? = s.exit?) (stage : s'.stage = s.stage) (acts : s'.site.acts = s.site.acts)
    (quiet : ∀ result, event ≠ .programEnds result) :
    Progress path prior (later ++ [event]) s' := by
  have none : firstEnd? [event] = none := by
    cases event with
    | programEnds result => exact absurd rfl (quiet result)
    | _ => rfl
  have same : firstEnd? (later ++ [event]) = firstEnd? later := by
    rw [firstEnd?_concat, none, Option.or_none]
  cases progress with
  | checking alive running first idle =>
    exact .checking (exit.trans alive) (stage.trans running) (same.trans first) (acts.trans idle)
  | waited result alive ended first idle =>
    exact .waited result (exit.trans alive) (stage.trans ended) (same.trans first) (acts.trans idle)
  | cleaned result alive released first done =>
    exact .cleaned result (exit.trans alive) (stage.trans released) (same.trans first) (acts ▸ done)
  | finished task status ended verdict done =>
    exact .finished task status (exit.trans ended) (verdict.concat event) (acts ▸ done)

/-- Where the watcher may take a step there is a handler for each of the signals. -/
theorem Progress.handled (progress : Progress path prior later s) (alive : s.exit? = none)
    {signal : Signal} (h : IsTermination signal) : signal ∈ s.stage.handled := by
  cases progress with
  | checking _ stage => rw [stage]; exact h
  | waited result _ stage => rw [stage]; exact h
  | cleaned result _ stage => rw [stage]; exact h
  | finished task status ended => simp [alive] at ended

theorem progress_proceed (orderly : Orderly path (prior ++ later) s)
    (progress : Progress path prior later s) (alive : s.exit? = none) :
    Progress path prior (later ++ [.proceed]) (s.step .proceed) := by
  have step : s.step .proceed = s.proceed := by simp [step, alive, orderly.unpaused]
  rw [step]
  cases progress with
  | checking _ stage first idle =>
    have same : s.proceed = s := by simp [proceed, stage]
    rw [same]
    exact (Progress.checking alive stage first idle).concat rfl rfl rfl (by simp)
  | waited result _ stage first idle =>
    have next : s.proceed = { s.release with stage := .released (statusOf result) } := by
      simp [proceed, stage]
    obtain ⟨unreleased, -⟩ := orderly.untouched alive (by simp [stage])
    rw [next]
    exact .cleaned result alive rfl (firstEnd?_of_some first _)
      (removes_release unreleased orderly.guard idle)
  | cleaned result _ stage first done =>
    have next : s.proceed = s.finish (some .main) (.status (statusOf result)) := by
      simp [proceed, stage]
    rw [next]
    exact .finished .main _ rfl (verdict_main (firstEnd?_of_some first _)) (done.finish _ _)
  | finished task status ended => simp [alive] at ended

theorem progress_programEnds (progress : Progress path prior later s) (alive : s.exit? = none)
    (result : Except Fault Ending) :
    Progress path prior (later ++ [.programEnds result]) (s.step (.programEnds result)) := by
  cases progress with
  | checking _ stage first idle =>
    have next : s.step (.programEnds result) = { s with stage := .ended result } := by
      simp [step, alive, stage]
    rw [next]
    refine .waited result alive rfl ?_ idle
    rw [firstEnd?_concat, first]
    rfl
  | waited earlier _ stage first idle =>
    have same : s.step (.programEnds result) = s := by simp [step, alive, stage]
    rw [same]
    exact .waited earlier alive stage (firstEnd?_of_some first _) idle
  | cleaned earlier _ stage first done =>
    have same : s.step (.programEnds result) = s := by simp [step, alive, stage]
    rw [same]
    exact .cleaned earlier alive stage (firstEnd?_of_some first _) done
  | finished task status ended => simp [alive] at ended

theorem progress_attend (orderly : Orderly path (prior ++ later) s)
    (progress : Progress path prior later s) (alive : s.exit? = none) (signal : Signal) :
    Progress path prior (later ++ [.attend signal]) (s.step (.attend signal)) := by
  simp only [step, alive, Option.isSome_none, Bool.false_eq_true, if_false]
  split_ifs with ready
  · -- The watcher attends to a signal that waits for it, before the main task has released the guard.
    have before : ∀ n, s.stage ≠ .released n := by
      intro n stage
      simp [stage, Stage.waits] at ready
    obtain ⟨unreleased, idle⟩ := orderly.untouched alive before
    have removed := removes_release unreleased orderly.guard idle
    refine .finished .watcher _ rfl (.attended signal ?_) (removed.finish _ _)
    rw [← List.append_assoc]
    exact List.mem_append_left _ (orderly.arrived signal ready.1)
  · exact progress.concat rfl rfl rfl (by simp)

theorem progress_step (orderly : Orderly path (prior ++ later) s)
    (progress : Progress path prior later s)
    (termination : ∀ signal, event = .signal signal → IsTermination signal) :
    Progress path prior (later ++ [event]) (s.step event) := by
  by_cases foreign : ∃ root, event = .elsewhere root
  · obtain ⟨root, rfl⟩ := foreign
    exact progress.concat rfl rfl rfl (by simp)
  have own : ∀ root, event ≠ .elsewhere root := fun root h => foreign ⟨root, h⟩
  cases alive : s.exit? with
  | some exit =>
    rw [step_of_exit (by simp [alive]) own]
    cases progress with
    | finished task status ended verdict done =>
      exact .finished task status ended (verdict.concat event) done
    | _ => simp_all
  | none =>
    cases event with
    | proceed => exact progress_proceed orderly progress alive
    | programEnds result => exact progress_programEnds progress alive result
    | attend signal => exact progress_attend orderly progress alive signal
    | elsewhere root => exact absurd rfl (own root)
    | signal signal =>
      have h := termination signal rfl
      rw [step_signal alive orderly.unpaused h, if_pos (progress.handled alive h)]
      exact progress.concat rfl rfl rfl (by simp)

theorem progress_steps {site : Site}
    (running : ((logging site path).steps prior).stage = .running)
    (alive : ((logging site path).steps prior).exit? = none)
    (terminations : ∀ signal, .signal signal ∈ prior ++ later → IsTermination signal) :
    Progress path prior later ((logging site path).steps (prior ++ later)) := by
  induction later using List.reverseRecOn with
  | nil =>
    have orderly := orderly_steps site path terminations
    rw [List.append_nil] at orderly ⊢
    exact .checking alive running rfl (orderly.untouched alive (by simp [running])).2
  | append_singleton later event ih =>
    rw [← List.append_assoc] at terminations ⊢
    have earlier := terminations_left terminations
    rw [steps_concat]
    exact progress_step (orderly_steps site path earlier) (ih earlier) (terminations_last terminations)

end Progress

/-- A run that has ended does nothing more. -/
theorem steps_of_ended {exit : Exit} (ended : s.exit? = some exit) (events : List Event) :
    (s.steps events).site.acts = s.site.acts ∧ (s.steps events).exit? = some exit := by
  induction events generalizing s with
  | nil => exact ⟨rfl, ended⟩
  | cons event events ih =>
    have still : (s.step event).site.acts = s.site.acts ∧ (s.step event).exit? = s.exit? := by
      by_cases foreign : ∃ root, event = .elsewhere root
      · obtain ⟨root, rfl⟩ := foreign
        exact ⟨rfl, rfl⟩
      · have own : ∀ root, event ≠ .elsewhere root := fun root h => foreign ⟨root, h⟩
        rw [step_of_exit (by simp [ended]) own]
        exact ⟨rfl, rfl⟩
    obtain ⟨acts, exit⟩ := ih (still.2.trans ended)
    exact ⟨acts.trans still.1, exit⟩

/-- Whether the main task has released the guard and goes on to pass on a status. -/
structure Spent (status : Int) (s : Supervision Logged) : Prop where
  unpaused : s.paused = false
  stage : s.stage = .released status
  alive : s.exit? = none

/-- Once the main task has released the guard, all that can still happen is that it passes on its
status. -/
theorem spent_step {status : Int} (spent : Spent status s) {event : Event}
    (termination : ∀ signal, event = .signal signal → IsTermination signal) :
    (Spent status (s.step event) ∧ (s.step event).site.acts = s.site.acts) ∨
      s.step event = s.finish (some .main) (.status status) := by
  obtain ⟨unpaused, stage, alive⟩ := spent
  have stays : Spent status s ∧ s.site.acts = s.site.acts := ⟨⟨unpaused, stage, alive⟩, rfl⟩
  cases event with
  | proceed => exact .inr (by simp [step, alive, unpaused, proceed, stage])
  | programEnds result =>
    have same : s.step (.programEnds result) = s := by simp [step, alive, stage]
    exact .inl (same.symm ▸ stays)
  | attend signal =>
    have same : s.step (.attend signal) = s := by simp [step, alive, stage, Stage.waits]
    exact .inl (same.symm ▸ stays)
  | elsewhere root => exact .inl ⟨⟨unpaused, stage, alive⟩, rfl⟩
  | signal signal =>
    have h := termination signal rfl
    have handled : signal ∈ s.stage.handled := by rw [stage]; exact h
    rw [step_signal alive unpaused h, if_pos handled]
    exact .inl ⟨⟨unpaused, stage, alive⟩, rfl⟩

theorem spent_steps {status : Int} {exit : Exit} {events : List Event} (spent : Spent status s)
    (terminations : ∀ signal, .signal signal ∈ events → IsTermination signal)
    (ended : (s.steps events).exit? = some exit) :
    (s.steps events).site.acts = s.site.acts ++ [.ending (some .main) (.status status)] := by
  induction events generalizing s with
  | nil =>
    have alive := spent.alive
    simp [steps, alive] at ended
  | cons event events ih =>
    have later : ∀ signal, .signal signal ∈ events → IsTermination signal :=
      fun signal h => terminations signal (List.mem_cons_of_mem _ h)
    have now : ∀ signal, event = .signal signal → IsTermination signal := by
      rintro signal rfl
      exact terminations signal List.mem_cons_self
    have next (s : Supervision Logged) : s.steps (event :: events) = (s.step event).steps events := rfl
    rw [next] at ended ⊢
    obtain ⟨still, acts⟩ | done := spent_step spent now
    · rw [ih still later ended, acts]
    · rw [done]
      exact (steps_of_ended rfl events).1

/-- Every run whose checker has been started, and that ends, is ended by one of its tasks, with the status
that this task has to tell. What it does is logged beside it: one attempt to remove the file, which is
gone then if it can be removed, and after that the end. Without a signal it is the main task that ends the
run, and so it is once that task has released the guard, whatever signals arrive then. -/
theorem exists_verdict {site : Site} {exit : Exit}
    (running : ((start site (.new path)).steps prior).stage = .running)
    (alive : ((start site (.new path)).steps prior).exit? = none)
    (terminations : ∀ signal, .signal signal ∈ prior ++ later → IsTermination signal)
    (ended : ((start site (.new path)).steps (prior ++ later)).exit? = some exit) :
    let logged := (logging site path).steps (prior ++ later)
    logged.unlogged = (start site (.new path)).steps (prior ++ later) ∧
    ∃ task status found left, exit = .status status ∧
      logged.site.acts = [.removal path found left, .ending (some task) (.status status)] ∧
      (path.isAbsolute → Site.Cleared path found left) ∧
      (path.isAbsolute → Undisturbed path (start site (.new path)) (prior ++ later) →
        ((start site (.new path)).steps (prior ++ later)).site.occupied path = false) ∧
      Verdict prior later task status ∧
      ((∀ signal, .signal signal ∉ prior ++ later) → task = .main) ∧
      ∀ before after n, later = before ++ after →
        ((start site (.new path)).steps (prior ++ before)).stage = .released n →
        ((start site (.new path)).steps (prior ++ before)).exit? = none →
        task = .main ∧ status = n := by
  -- The log is that of the same run among watched files, so what is known of either holds of both.
  have plain (events : List Event) :
      ((logging site path).steps events).unlogged =
        (start site (.new path)).steps events :=
    unlogged_steps _ events
  refine ⟨plain _, ?_⟩
  rw [← plain] at running alive ended
  have progress := progress_steps running alive terminations
  cases progress with
  | checking alive => exact absurd (ended.symm.trans alive) (by simp)
  | waited result alive => exact absurd (ended.symm.trans alive) (by simp)
  | cleaned result alive => exact absurd (ended.symm.trans alive) (by simp)
  | finished task status ended' verdict done =>
    obtain ⟨found, left, acts, cleared⟩ := done
    obtain rfl : exit = .status status := Option.some.inj (ended.symm.trans ended')
    refine ⟨task, status, found, left, rfl, acts, cleared, ?_, verdict, ?_, ?_⟩
    · intro absolute undisturbed
      have inv := invariant_steps absolute undisturbed terminations
      rw [← plain] at inv ⊢
      exact inv.removed (inv.status status ended)
    · intro quiet
      cases verdict with
      | attended signal arrived => exact absurd arrived (quiet signal)
      | _ => rfl
    · rintro before after n rfl stage alive
      rw [← plain] at stage alive
      rw [← List.append_assoc] at terminations
      have earlier := terminations_left terminations
      have spent : Spent n ((logging site path).steps (prior ++ before)) :=
        ⟨(orderly_steps site path earlier).unpaused, stage, alive⟩
      rw [← List.append_assoc, steps_append] at acts ended'
      have last := spent_steps spent (fun signal h => terminations signal (by simp [h])) ended'
      have split : [Act.removal path found left] ++ [.ending (some task) (.status status)] =
          _ ++ [.ending (some .main) (.status n)] := acts.symm.trans last
      obtain ⟨-, same⟩ := List.append_inj' split rfl
      simpa using same

/-- The checker ends between two signals, and the watcher attends to the later one before the main task
takes its next step. -/
def race : List Event :=
  [.signal .interrupt, .programEnds (.ok (.exited 2)), .signal .terminate, .attend .terminate, .proceed]

/-- The watcher ends this run, with the status of the later signal, and the file is gone before that. -/
theorem acts_race :
    ∃ found left,
      ((logging writtenProject emptyGuard.path).steps
        (toRunning ++ race)).site.acts =
          [.removal emptyGuard.path found left, .ending (some .watcher) (.status 143)] ∧
      Site.Cleared emptyGuard.path found left ∧
      ((start writtenProject (.new emptyGuard.path)).steps
        (toRunning ++ race)).site.occupied emptyGuard.path = false := by
  have terminations : ∀ signal, .signal signal ∈ toRunning ++ race → IsTermination signal := by
    simp [toRunning, race, IsTermination]
  have undisturbed : Undisturbed emptyGuard.path (start writtenProject (.new emptyGuard.path))
      (toRunning ++ race) :=
    .of_inits (by decide +kernel) (by simp [toRunning, race])
  have ended : ((start writtenProject (.new emptyGuard.path)).steps (toRunning ++ race)).exit? =
      some (.status 143) := rfl
  obtain ⟨-, task, status, found, left, same, acts, cleared, gone, verdict, -, -⟩ :=
    exists_verdict rfl rfl terminations ended
  obtain rfl : 143 = status := by simpa using same
  refine ⟨found, left, ?_, cleared rfl, gone rfl undisturbed⟩
  rw [acts]
  cases task with
  | watcher => rfl
  | main =>
    -- The main task would have told the status of the checker.
    generalize told : (143 : Int) = n at verdict
    cases verdict with
    | exited status first =>
      obtain rfl : 2 = status := by simpa [firstEnd?, race] using first
      simp at told
    | killed signal first => simp at told
    | unwaited cause first => simp at told

end ScopedCheck.Supervision
