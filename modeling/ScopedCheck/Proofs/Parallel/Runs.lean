import ScopedCheck.Proofs.Parallel.Moves
import ScopedCheck.Proofs.Program.Steps

namespace ScopedCheck.Parallel

/-- The files that runs share, and how far each of them has come. -/
structure State (ι : Type) where
  site : Site
  progress : ι → Progress

inductive Event (ι : Type) where
  | move (i : ι) (move : Move)
  /-- Somebody else, be it a checker, adds, changes or removes whatever there is. -/
  | elsewhere (root : Node)

section State

variable {ι : Type} (tasks : ι → Task) (directory : Path)

/-- The file that one of the runs holds. -/
def State.file? (s : State ι) (i : ι) : Option (Path × Utf8.Bytes) :=
  (s.progress i).file? (tasks i).content

/-- Whether the files that runs hold are spared by somebody who leaves the tree like this: their paths
lead to where they did, to the same files, and those have no other name. -/
def Spares (s : State ι) (root : Node) : Prop :=
  ∀ i path content, s.file? tasks i = some (path, content) →
    ∀ followLast spot, s.site.locate followLast path = .ok (.existing spot) →
      ({ s.site with root := root } : Site).locate followLast path = .ok (.existing spot) ∧
      root.at? spot = s.site.root.at? spot ∧
      ∀ content attributes, root.at? spot = some (.file content attributes) →
        ∀ place content' attributes', root.at? place = some (.file content' attributes') →
          attributes'.identity = attributes.identity → place = spot

/-- All runs look for their first name. -/
def start (site : Site) : State ι :=
  ⟨site, fun _ => .naming 0⟩

variable [DecidableEq ι]

def State.set (s : State ι) (i : ι) (result : Progress × Site) : State ι :=
  ⟨result.2, Function.update s.progress i result.1⟩

def step (s : State ι) : Event ι → State ι
  | .move i move => s.set i ((tasks i).advance directory s.site (s.progress i) move)
  | .elsewhere root => { s with site := { s.site with root := root } }

def steps (s : State ι) (events : List (Event ι)) : State ι :=
  events.foldl (step tasks directory) s

/-- Whether everybody else spares the files that runs hold. -/
def Considerate (s : State ι) (events : List (Event ι)) : Prop :=
  ∀ before root after, events = before ++ .elsewhere root :: after →
    Spares tasks (steps tasks directory s before) root

end State

/-- How far a run is that has tried all the names that it needs. -/
def Progress.ofCreated (site : Site) : Except Fault (Config.OpenFile × Site) → Progress × Site
  | .ok (file, site) => (.created file, site)
  | .error _ => (.failed, site)

/-- How far a run is that has written its temporary config. -/
def Progress.ofWritten : Except Failure Guard × Site → Progress × Site
  | (.ok guard, site) => (.guarded (History.start guard.path handle site).guards, site)
  | (.error _, site) => (.failed, site)

section Alone

variable {ι : Type} [DecidableEq ι] {tasks : ι → Task} {directory : Path}

@[simp]
theorem State.set_progress (s : State ι) (i : ι) (result : Progress × Site) :
    (s.set i result).progress i = result.1 := by
  simp [State.set]

@[simp]
theorem State.set_site (s : State ι) (i : ι) (result : Progress × Site) :
    (s.set i result).site = result.2 :=
  rfl

@[simp]
theorem State.set_set (s : State ι) (i : ι) (result result' : Progress × Site) :
    (s.set i result).set i result' = s.set i result' := by
  simp [State.set]

@[simp]
theorem steps_cons (s : State ι) (event : Event ι) (events : List (Event ι)) :
    steps tasks directory s (event :: events) =
      steps tasks directory (step tasks directory s event) events :=
  rfl

theorem steps_singleton (s : State ι) (event : Event ι) :
    steps tasks directory s [event] = step tasks directory s event :=
  rfl

theorem step_attempt {s : State ι} {i : ι} {tried : Nat} (naming : s.progress i = .naming tried)
    (left : tried < Config.maxAttempts) {above : Path}
    (resolved : Config.absolute s.site directory = .ok above) :
    step tasks directory s (.move i .attempt) = s.set i
      (Progress.ofAttempt s.site tried
        (Config.createEmpty s.site (above.child ((tasks i).name tried)))) := by
  rw [step, naming, Task.advance_attempt left, Task.attempt_of_absolute resolved]

theorem steps_attempts {i : ι} {above : Path} (attempts next : Nat)
    (total : next + attempts = Config.maxAttempts) {s : State ι} (naming : s.progress i = .naming next)
    (resolved : Config.absolute s.site directory = .ok above) :
    ∃ n, steps tasks directory s (List.replicate n (.move i .attempt)) = s.set i
      (Progress.ofCreated s.site (Config.createFree s.site above (tasks i).name attempts next)) := by
  induction attempts generalizing next s with
  | zero =>
    refine ⟨1, ?_⟩
    have spent : ¬ next < Config.maxAttempts := by omega
    rw [List.replicate_one, steps_singleton, step, naming, Task.advance, if_neg spent]
    rfl
  | succ attempts ih =>
    have left : next < Config.maxAttempts := by omega
    have first : step tasks directory s (.move i .attempt) = _ := step_attempt naming left resolved
    unfold Config.createFree
    cases created : Config.createEmpty s.site (above.child ((tasks i).name next)) with
    | ok result =>
      rw [created] at first
      exact ⟨1, first⟩
    | error cause =>
      rw [created] at first
      by_cases taken : cause = .alreadyExists
      · subst taken
        rw [Progress.ofAttempt] at first
        obtain ⟨n, rest⟩ := ih (next + 1) (by omega) (s := s.set i (.naming (next + 1), s.site))
          (by simp) resolved
        refine ⟨n + 1, ?_⟩
        rw [List.replicate_succ, steps_cons, first, rest, State.set_set]
        rfl
      · refine ⟨1, ?_⟩
        rw [List.replicate_one, steps_singleton, first]
        cases cause with
        | alreadyExists => exact absurd rfl taken
        | _ => rfl

/-- The names are tried one after the other, if the directory is known. -/
theorem steps_naming {s : State ι} {i : ι} (naming : s.progress i = .naming 0) :
    ∃ n, steps tasks directory s (List.replicate n (.move i .attempt)) = s.set i
      (Progress.ofCreated s.site
        ((tasks i).config.createTemporary s.site (tasks i).suffixes directory)) := by
  have names : (fun n => (tasks i).config.temporaryName ((tasks i).suffixes n)) = (tasks i).name := rfl
  rw [Config.createTemporary, names]
  cases resolved : Config.absolute s.site directory with
  | error cause =>
    refine ⟨1, ?_⟩
    have left : 0 < Config.maxAttempts := by decide
    obtain rfl := Config.eq_notFound_of_absolute resolved
    rw [List.replicate_one, steps_singleton, step, naming, Task.advance_attempt left, Task.attempt,
      resolved]
    rfl
  | ok above =>
    have known (next : Path → Except Fault (Config.OpenFile × Site)) : (.ok above >>= next) = next above := rfl
    rw [known]
    exact steps_attempts Config.maxAttempts 0 (Nat.zero_add _) naming resolved

theorem steps_append (s : State ι) (before after : List (Event ι)) :
    steps tasks directory s (before ++ after) =
      steps tasks directory (steps tasks directory s before) after := by
  simp [steps]

/-- A run that goes on by itself writes its temporary config as it is written at one go. -/
theorem steps_write {s : State ι} {i : ι} (naming : s.progress i = .naming 0) (trouble : Trouble) :
    ∃ n, steps tasks directory s (List.replicate n (.move i .attempt) ++ [.move i (.fill trouble)]) =
      s.set i (Progress.ofWritten ((tasks i).config.writeTemporary s.site trouble (tasks i).suffixes
        directory (tasks i).members)) := by
  obtain ⟨n, named⟩ := steps_naming naming
  refine ⟨n, ?_⟩
  rw [steps_append, named, steps_singleton, step, State.set_progress, State.set_site, State.set_set,
    Config.writeTemporary]
  refine congrArg (s.set i) ?_
  cases (tasks i).config.createTemporary s.site (tasks i).suffixes directory with
  | error cause => rfl
  | ok result =>
    obtain ⟨file, site⟩ := result
    simp only [Progress.ofCreated, Task.advance, Task.content]
    cases Config.fill site trouble file (Utf8.encode (tasks i).members.text) with
    | mk filled site' => cases filled <;> rfl

end Alone

/-- Whether each run holds its file, and no two of them the same. -/
structure Peaceful {ι : Type} (tasks : ι → Task) (s : State ι) : Prop where
  sound : ∀ i, (s.progress i).IsSound s.site
  held : ∀ i path content, s.file? tasks i = some (path, content) →
    ∃ spot attributes, s.site.Holds path spot content attributes
  apart : ∀ i j path content path' content', i ≠ j → s.file? tasks i = some (path, content) →
    s.file? tasks j = some (path', content') → s.site.locate false path ≠ s.site.locate false path'

section Runs

variable {ι : Type} {tasks : ι → Task} {s : State ι} {directory : Path} {site : Site}

theorem file?_of_unfired {i : ι} {path : Path} (unfired : (s.progress i).unfired? = some path) :
    s.file? tasks i = some (path, (tasks i).content) := by
  rw [State.file?]
  cases progress : s.progress i with
  | guarded guards =>
    rw [progress] at unfired
    rw [Progress.file?, unfired]
    rfl
  | _ => simp [progress, Progress.unfired?] at unfired

theorem Peaceful.holds_elsewhere (root : Node) (spares : Spares tasks s root) {i : ι} {path : Path}
    {content : Utf8.Bytes} {spot : Place} {attributes : Attributes}
    (own : s.file? tasks i = some (path, content))
    (held : s.site.Holds path spot content attributes) :
    ({ s.site with root := root } : Site).Holds path spot content attributes := by
  have spared := spares i path content own
  obtain ⟨-, same, sole⟩ := spared false spot (held.leads false)
  have there : root.at? spot = some (.file content attributes) := same.trans held.there
  exact ⟨held.absolute, fun followLast => (spared followLast spot (held.leads followLast)).1, there,
    held.regular, held.sole.1, sole content attributes there⟩

/-- Two files that are still held where they were are still apart. -/
theorem Peaceful.locate_ne (peaceful : Peaceful tasks s) {i j : ι} (ne : i ≠ j) {path path' : Path}
    {content content' : Utf8.Bytes} (own : s.file? tasks i = some (path, content))
    (own' : s.file? tasks j = some (path', content')) {site' : Site}
    (still : ∀ {spot attributes}, s.site.Holds path spot content attributes →
      site'.Holds path spot content attributes)
    (still' : ∀ {spot attributes}, s.site.Holds path' spot content' attributes →
      site'.Holds path' spot content' attributes) :
    site'.locate false path ≠ site'.locate false path' := by
  obtain ⟨spot, attributes, held⟩ := peaceful.held i path content own
  obtain ⟨spot', attributes', held'⟩ := peaceful.held j path' content' own'
  have before := peaceful.apart i j path content path' content' ne own own'
  rw [held.leads, held'.leads] at before
  rw [(still held).leads, (still' held').leads]
  exact before

/-- Whoever changes the tree at one place, where no run holds anything, spares what they hold. -/
theorem Peaceful.spares (peaceful : Peaceful tasks s) {spot : Place} {site' : Site}
    (changes : Site.ChangesAt s.site spot site')
    (apart : ∀ i path content, s.file? tasks i = some (path, content) →
      s.site.locate false path ≠ .ok (.existing spot)) : Spares tasks s site'.root := by
  intro i path content own followLast spot' located
  obtain ⟨place, attributes, held⟩ := peaceful.held i path content own
  obtain rfl : place = spot' := by simpa [held.leads] using located
  have still : site'.Holds path place content attributes := by
    refine held.of_changesAt changes ?_
    rintro rfl
    exact apart i path content own (held.leads false)
  refine ⟨changes.frame ▸ still.leads followLast, still.there.trans held.there.symm, ?_⟩
  intro content' attributes' there
  obtain ⟨-, rfl⟩ : content = content' ∧ attributes = attributes' := by
    simpa using still.there.symm.trans there
  exact still.sole.2

/-- Whoever creates a file spares the files of the runs. -/
theorem Peaceful.spares_create (peaceful : Peaceful tasks s) {path : Path} (absolute : path.isAbsolute)
    {mode : Nat} {site' : Site} (created : s.site.create path [] mode = .ok site') :
    Spares tasks s site'.root := by
  obtain ⟨spot, attributes, -, vacant, changes, -⟩ := Site.holds_create absolute created
  refine peaceful.spares changes fun i path' content own located => ?_
  obtain ⟨place, attributes', held⟩ := peaceful.held i path' content own
  obtain rfl : place = spot := by simpa [held.leads] using located
  simp [held.there] at vacant

variable [DecidableEq ι]

theorem file?_move_other {i j : ι} (other : j ≠ i) (move : Move) :
    (step tasks directory s (.move i move)).file? tasks j = s.file? tasks j := by
  simp [step, State.file?, State.set, other]

theorem effect_move (directory : Path) (peaceful : Peaceful tasks s) (i : ι) (move : Move) :
    ((step tasks directory s (.move i move)).progress i).IsSound
        (step tasks directory s (.move i move)).site ∧
      Effect s.site (s.file? tasks i) ((step tasks directory s (.move i move)).file? tasks i)
        (step tasks directory s (.move i move)).site := by
  have effect := effect_advance directory (tasks i) (peaceful.sound i) (peaceful.held i) move
  simpa [step, State.file?] using effect

/-- What a run has come to stays with it if the file that it may have open does. -/
theorem isSound_of_spared {progress : Progress} {content : Utf8.Bytes} {site' : Site}
    (sound : progress.IsSound site)
    (spared : ∀ {path old spot attributes}, progress.file? content = some (path, old) →
      site.Holds path spot old attributes → site'.Holds path spot old attributes) :
    progress.IsSound site' := by
  cases progress with
  | created file =>
    obtain ⟨spot, attributes, opened, held⟩ := sound
    exact ⟨spot, attributes, opened, spared rfl held⟩
  | _ => exact sound

/-- What another run holds is not changed by a move. -/
theorem Peaceful.holds_other (peaceful : Peaceful tasks s) {i j : ι} (other : j ≠ i) (move : Move)
    {path : Path} {content : Utf8.Bytes} {spot : Place} {attributes : Attributes}
    (own : s.file? tasks j = some (path, content)) (held : s.site.Holds path spot content attributes) :
    (step tasks directory s (.move i move)).site.Holds path spot content attributes := by
  refine (effect_move directory peaceful i move).2.spares held fun path' content' own' => ?_
  rw [← held.leads false]
  exact peaceful.apart i j path' content' path content other.symm own' own

/-- The file of a run that moves is not the one of another run. -/
theorem Peaceful.locate_mover (peaceful : Peaceful tasks s) {i j : ι} (other : j ≠ i) (move : Move)
    {path path' : Path} {content content' : Utf8.Bytes}
    (own : (step tasks directory s (.move i move)).file? tasks i = some (path, content))
    (own' : s.file? tasks j = some (path', content')) :
    (step tasks directory s (.move i move)).site.locate false path ≠
      (step tasks directory s (.move i move)).site.locate false path' := by
  obtain ⟨spot, attributes, held⟩ := peaceful.held j path' content' own'
  rw [(peaceful.holds_other other move own' held).leads false]
  refine (effect_move directory peaceful i move).2.locate_ne (Node.faceAt?_file_iff.2 held.there)
    (fun path'' content'' own'' => ?_) own
  rw [← held.leads false]
  exact peaceful.apart i j path'' content'' path' content' other.symm own'' own'

theorem Peaceful.move (peaceful : Peaceful tasks s) (i : ι) (move : Move) :
    Peaceful tasks (step tasks directory s (.move i move)) where
  sound j := by
    by_cases same : j = i
    · exact same ▸ (effect_move directory peaceful i move).1
    · have still : (step tasks directory s (.move i move)).progress j = s.progress j := by
        simp [step, State.set, same]
      rw [still]
      exact isSound_of_spared (peaceful.sound j) (peaceful.holds_other same move)
  held j path content own := by
    by_cases same : j = i
    · subst same
      exact (effect_move directory peaceful j move).2.holds (peaceful.held j) own
    · rw [file?_move_other same] at own
      obtain ⟨spot, attributes, held⟩ := peaceful.held j path content own
      exact ⟨spot, attributes, peaceful.holds_other same move own held⟩
  apart j k path content path' content' ne own own' := by
    by_cases first : j = i
    · subst first
      rw [file?_move_other ne.symm] at own'
      exact peaceful.locate_mover ne.symm move own own'
    · rw [file?_move_other first] at own
      by_cases second : k = i
      · subst second
        exact (peaceful.locate_mover first move own' own).symm
      · rw [file?_move_other second] at own'
        exact peaceful.locate_ne ne own own' (peaceful.holds_other first move own)
          (peaceful.holds_other second move own')

theorem Peaceful.elsewhere (peaceful : Peaceful tasks s) {root : Node} (spares : Spares tasks s root) :
    Peaceful tasks (step tasks directory s (.elsewhere root)) where
  sound i := isSound_of_spared (peaceful.sound i) (holds_elsewhere root spares)
  held i path content own := by
    obtain ⟨spot, attributes, held⟩ := peaceful.held i path content own
    exact ⟨spot, attributes, holds_elsewhere root spares own held⟩
  apart i j path content path' content' ne own own' :=
    peaceful.locate_ne ne own own' (holds_elsewhere root spares own)
      (holds_elsewhere root spares own')

/-- Whether something is seen at a place, and no run holds it. -/
structure Keeps (tasks : ι → Task) (place : Place) (node : Node) (s : State ι) : Prop where
  seen : s.site.root.faceAt? place = some node
  apart : ∀ i path content, s.file? tasks i = some (path, content) →
    s.site.locate false path ≠ .ok (.existing place)

theorem Keeps.move (peaceful : Peaceful tasks s) {place : Place} {node : Node}
    (keeps : Keeps tasks place node s) (i : ι) (move : Move) :
    Keeps tasks place node (step tasks directory s (.move i move)) := by
  have effect := (effect_move directory peaceful i move).2
  refine ⟨effect.faceAt? keeps.seen (keeps.apart i), fun j path content own => ?_⟩
  by_cases same : j = i
  · subst same
    exact effect.locate_ne keeps.seen (keeps.apart j) own
  · rw [file?_move_other same] at own
    obtain ⟨spot, attributes, held⟩ := peaceful.held j path content own
    rw [(peaceful.holds_other same move own held).leads, ← held.leads false]
    exact keeps.apart j path content own

theorem Keeps.elsewhere (peaceful : Peaceful tasks s) {place : Place} {node root : Node}
    (keeps : Keeps tasks place node s) (spares : Spares tasks s root)
    (seen : root.faceAt? place = some node) :
    Keeps tasks place node (step tasks directory s (.elsewhere root)) := by
  refine ⟨seen, fun i path content own => ?_⟩
  obtain ⟨spot, attributes, held⟩ := peaceful.held i path content own
  rw [step, (Peaceful.holds_elsewhere root spares own held).leads, ← held.leads false]
  exact keeps.apart i path content own

theorem Considerate.of_append {events later : List (Event ι)}
    (considerate : Considerate tasks directory s (events ++ later)) :
    Considerate tasks directory s events := by
  rintro before root after rfl
  exact considerate before root (after ++ later) (by simp)

theorem considerate_nil (s : State ι) : Considerate tasks directory s [] := by
  intro before root after split
  simp at split

theorem considerate_cons (s : State ι) (event : Event ι) (events : List (Event ι)) :
    Considerate tasks directory s (event :: events) ↔
      (∀ root, event = .elsewhere root → Spares tasks s root) ∧
        Considerate tasks directory (step tasks directory s event) events := by
  refine ⟨fun considerate => ⟨?_, ?_⟩, fun ⟨spares, considerate⟩ before root after split => ?_⟩
  · rintro root rfl
    exact considerate [] root events rfl
  · rintro before root after rfl
    exact considerate (event :: before) root after rfl
  · cases before with
    | nil =>
      obtain ⟨rfl, -⟩ := List.cons.inj split
      exact spares root rfl
    | cons first before =>
      obtain ⟨rfl, later⟩ := List.cons.inj split
      exact considerate before root after later

theorem peaceful_steps {events : List (Event ι)}
    (considerate : Considerate tasks directory (start site) events) :
    Peaceful tasks (steps tasks directory (start site) events) := by
  induction events using List.reverseRecOn with
  | nil => exact ⟨fun _ => trivial, by rintro i path content ⟨⟩, by rintro i j path _ _ _ _ ⟨⟩⟩
  | append_singleton events event ih =>
    have peaceful := ih considerate.of_append
    rw [steps_append, steps_singleton]
    cases event with
    | move i move => exact peaceful.move i move
    | elsewhere root => exact peaceful.elsewhere (considerate events root [] rfl)

theorem keeps_steps {events : List (Event ι)}
    (considerate : Considerate tasks directory (start site) events) {place : Place} {node : Node}
    (seen : site.root.faceAt? place = some node)
    (kept : ∀ root, .elsewhere root ∈ events → root.faceAt? place = some node) :
    Keeps tasks place node (steps tasks directory (start site) events) := by
  induction events using List.reverseRecOn with
  | nil => exact ⟨seen, by rintro i path content ⟨⟩⟩
  | append_singleton events event ih =>
    have peaceful := peaceful_steps considerate.of_append
    have keeps := ih considerate.of_append fun root mem => kept root (List.mem_append_left _ mem)
    rw [steps_append, steps_singleton]
    cases event with
    | move i move => exact keeps.move peaceful i move
    | elsewhere root =>
      exact keeps.elsewhere peaceful (considerate events root [] rfl) (kept root (by simp))

/-- Runs side by side do not disturb each other. As long as everybody else spares their files, the guards
that have not fired are on different paths, with a file at each that holds what its own run wrote;
what was there in the beginning is still there, unless somebody else changed it; and whatever a run
does next, it touches neither the file of another one nor anything but its own, whatever the names are. -/
theorem undisturbed_steps (tasks : ι → Task) (directory : Path) (site : Site) {events : List (Event ι)}
    (considerate : Considerate tasks directory (start site) events) :
    let s := steps tasks directory (start site) events
    (∀ i path, (s.progress i).unfired? = some path →
      ∃ spot attributes, s.site.find false path = .ok (spot, .file (tasks i).content attributes)) ∧
    (∀ i j path path', i ≠ j → (s.progress i).unfired? = some path →
      (s.progress j).unfired? = some path' → path ≠ path') ∧
    (∀ place node, site.root.faceAt? place = some node →
      (∀ root, .elsewhere root ∈ events → root.faceAt? place = some node) →
      s.site.root.faceAt? place = some node) ∧
    (∀ i j move path content, i ≠ j → s.file? tasks j = some (path, content) →
      (step tasks directory s (.move i move)).site.find false path = s.site.find false path) ∧
    ∀ i move place node, s.site.root.faceAt? place = some node →
      (∀ path content, s.file? tasks i = some (path, content) →
        s.site.locate false path ≠ .ok (.existing place)) →
      (step tasks directory s (.move i move)).site.root.faceAt? place = some node := by
  intro s
  have peaceful : Peaceful tasks s := peaceful_steps considerate
  refine ⟨fun i path unfired => ?_, fun i j path path' ne unfired unfired' => ?_,
    fun place node seen kept => (keeps_steps considerate seen kept).seen,
    fun i j move path content ne own => ?_, fun i move place node seen apart => ?_⟩
  · obtain ⟨spot, attributes, held⟩ := peaceful.held i path _ (file?_of_unfired unfired)
    exact ⟨spot, attributes, held.find⟩
  · rintro rfl
    exact peaceful.apart i j path _ path _ ne (file?_of_unfired unfired) (file?_of_unfired unfired') rfl
  · obtain ⟨spot, attributes, held⟩ := peaceful.held j path content own
    rw [(peaceful.holds_other ne.symm move own held).find, held.find]
  · exact (effect_move directory peaceful i move).2.faceAt? seen apart

def sameName (i : Bool) : Task where
  config := Program.smallPreparation.config
  members := if i then [("files", .array [])] else []
  suffixes _ := Suffix.ofNat 0

/-- The second run finds that the first one has the name. -/
def taken : List (Event Bool) :=
  [.move false .attempt, .move false (.fill {}), .move true .attempt]

def takenState : State Bool :=
  steps sameName ⟨"/w"⟩ (start Program.smallSite) taken

/-- Then somebody else writes a log. -/
def logged : Site :=
  (takenState.site.create ⟨"/w/log"⟩ [] 0o644).toOption.getD takenState.site

/-- The second run gets the name of the first one, which releases its guard once more after that. -/
def reused : List (Event Bool) :=
  [.move false (.release handle), .move true .attempt, .move true (.fill {}),
    .move false (.release handle), .move false (.drop handle)]

theorem create_log : takenState.site.create ⟨"/w/log"⟩ [] 0o644 = .ok logged := by
  have done : (takenState.site.create ⟨"/w/log"⟩ [] 0o644).toOption.isSome := by decide +kernel
  rw [logged]
  cases created : takenState.site.create ⟨"/w/log"⟩ [] 0o644 with
  | error cause => simp [created, Except.toOption] at done
  | ok site' => rfl

theorem considerate_taken : Considerate sameName ⟨"/w"⟩ (start Program.smallSite) taken := by
  simp [considerate_cons, considerate_nil, taken]

/-- The file of the second run is there, though the first one has had the name and has released it twice. -/
theorem undisturbed_steps_reused :
    Considerate sameName ⟨"/w"⟩ (start Program.smallSite)
        (taken ++ .elsewhere logged.root :: reused) ∧
      ∃ spot attributes,
        (steps sameName ⟨"/w"⟩ (start Program.smallSite)
          (taken ++ .elsewhere logged.root :: reused)).site.find false Program.smallPath =
            .ok (spot, .file (sameName true).content attributes) := by
  have spares : Spares sameName takenState logged.root :=
    (peaceful_steps considerate_taken).spares_create (by decide) create_log
  have considerate : Considerate sameName ⟨"/w"⟩ (start Program.smallSite)
      (taken ++ .elsewhere logged.root :: reused) := by
    simp only [taken, reused, List.cons_append, List.nil_append, considerate_cons, considerate_nil,
      reduceCtorEq, false_implies, implies_true, and_true, true_and, Event.elsewhere.injEq,
      forall_eq']
    exact spares
  have unfired : ((steps sameName ⟨"/w"⟩ (start Program.smallSite)
      (taken ++ .elsewhere logged.root :: reused)).progress true).unfired? = some Program.smallPath := by
    decide +kernel
  exact ⟨considerate,
    (undisturbed_steps sameName ⟨"/w"⟩ Program.smallSite considerate).1 true _ unfired⟩

end Runs

end ScopedCheck.Parallel
