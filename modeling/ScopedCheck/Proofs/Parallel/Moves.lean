import ScopedCheck.Proofs.Guard.OneShot
import ScopedCheck.Proofs.Parallel.Ownership

namespace ScopedCheck.Parallel

/-- What a run is to write, and the names that it draws. -/
structure Task where
  config : Config
  members : Json.Members
  suffixes : Nat → Suffix

/-- How far a run has come with its temporary config. -/
inductive Progress where
  /-- So many names were found to be taken. -/
  | naming (tried : Nat)
  /-- There is an empty file, which is still open. -/
  | created (file : Config.OpenFile)
  /-- The file was written, and there is a guard for it. -/
  | guarded (guards : Guards)
  | failed

/-- What a run does next. -/
inductive Move where
  /-- It tries to create a file under the next name. -/
  | attempt
  | fill (trouble : Trouble)
  | clone (handle new : String)
  | release (handle : String)
  | drop (handle : String)

/-- The handle that a run has of its guard in the beginning. -/
def handle : String := "guard"

/-- Applies an action to the handles of a guard. -/
def act (guards : Guards) (site : Site) (action : History.Action) : Progress × Site :=
  let h := ({ guards := guards, files := site } : History Site).step action
  (.guarded h.guards, h.files)

namespace Task

variable (task : Task) (directory : Path)

def name (n : Nat) : String :=
  task.config.temporaryName (task.suffixes n)

def content : Utf8.Bytes :=
  Utf8.encode task.members.text

/-- Creates an empty file under a name, unless that is taken. -/
def attempt (site : Site) (n : Nat) : Except Fault (Config.OpenFile × Site) := do
  Config.createEmpty site ((← Config.absolute site directory).child (task.name n))

/-- A move that does not fit does nothing. -/
def advance (site : Site) : Progress → Move → Progress × Site
  | .naming tried, .attempt =>
    if tried < Config.maxAttempts then
      match task.attempt directory site tried with
      | .ok (file, site) => (.created file, site)
      | .error .alreadyExists => (.naming (tried + 1), site)
      | .error _ => (.failed, site)
    else (.failed, site)
  | .created file, .fill trouble =>
    match Config.fill site trouble file task.content with
    | (.ok (), site) => (.guarded (History.start file.path handle site).guards, site)
    | (.error _, site) => (.failed, site)
  | .guarded guards, .clone handle new => act guards site (.clone handle new)
  | .guarded guards, .release handle => act guards site (.release handle)
  | .guarded guards, .drop handle => act guards site (.drop handle)
  | progress, _ => (progress, site)

end Task

/-- The path of the guard, unless it has fired. -/
def Progress.unfired? : Progress → Option Path
  | .guarded guards => (guards.made.find? fun guard => !guard.released).map Guard.path
  | _ => none

/-- The file that a run holds, and what is in it. -/
def Progress.file? (content : Utf8.Bytes) : Progress → Option (Path × Utf8.Bytes)
  | .created file => some (file.path, [])
  | .guarded guards => (Progress.guarded guards).unfired?.map (·, content)
  | _ => none

/-- Whether a run has what it has come to: an empty file that is open, or one guard at most. -/
def Progress.IsSound (site : Site) : Progress → Prop
  | .created file =>
    ∃ spot attributes, attributes.identity = file.identity ∧ site.Holds file.path spot [] attributes
  | .guarded guards => ∃ path, ∀ site : Site, History.Sole path { guards := guards, files := site }
  | _ => True

/-- All that a move can do, given the file that the run holds: nothing to it, to hold a new file, to
write the one it holds, or not to hold it any more. -/
inductive Effect (site : Site) (file? : Option (Path × Utf8.Bytes)) :
    Option (Path × Utf8.Bytes) → Site → Prop where
  | nothing : Effect site file? file? site
  | takes {path : Path} {spot : Place} {attributes : Attributes} {site' : Site} (free : file? = none)
      (vacant : site.root.at? spot = none) (changes : Site.ChangesAt site spot site')
      (holds : site'.Holds path spot [] attributes) : Effect site file? (some (path, [])) site'
  | fills {path : Path} {spot : Place} {old content : Utf8.Bytes} {attributes attributes' : Attributes}
      {site' : Site} (own : file? = some (path, old)) (held : site.Holds path spot old attributes)
      (changes : Site.ChangesAt site spot site') (holds : site'.Holds path spot content attributes') :
      Effect site file? (some (path, content)) site'
  | leaves {path : Path} {spot : Place} {old : Utf8.Bytes} {attributes : Attributes} {site' : Site}
      (own : file? = some (path, old)) (held : site.Holds path spot old attributes)
      (changes : site' = site ∨ Site.ChangesAt site spot site') : Effect site file? none site'

variable {directory : Path} {site : Site}

/-- What an attempt to create the file under a name comes to. -/
def Progress.ofAttempt (site : Site) (tried : Nat) : Except Fault (Config.OpenFile × Site) → Progress × Site
  | .ok (file, site) => (.created file, site)
  | .error .alreadyExists => (.naming (tried + 1), site)
  | .error _ => (.failed, site)

theorem Task.advance_attempt {task : Task} {tried : Nat} (left : tried < Config.maxAttempts) :
    task.advance directory site (.naming tried) .attempt =
      Progress.ofAttempt site tried (task.attempt directory site tried) := by
  rw [Task.advance, if_pos left]
  cases task.attempt directory site tried with
  | ok result => rfl
  | error cause => cases cause <;> rfl

theorem Task.attempt_of_absolute {task : Task} {above : Path}
    (resolved : Config.absolute site directory = .ok above) (n : Nat) :
    task.attempt directory site n = Config.createEmpty site (above.child (task.name n)) := by
  rw [Task.attempt, resolved]
  simp only [bind, Except.bind]

theorem exists_of_attempt {task : Task} {n : Nat} {file : Config.OpenFile} {site' : Site}
    (made : task.attempt directory site n = .ok (file, site')) :
    ∃ path, path.isAbsolute ∧ file = ⟨path, site.nextIdentity⟩ ∧
      site.create path [] Config.temporaryMode = .ok site' := by
  rw [Task.attempt] at made
  obtain ⟨above, resolved, made⟩ := exists_of_bind_eq_ok made
  obtain ⟨rfl, created⟩ := Config.exists_of_createEmpty made
  have joined : (above.child (task.name n)).isAbsolute :=
    Path.isAbsolute_join (Config.isAbsolute_absolute resolved) _
  exact ⟨_, joined, rfl, created⟩

theorem isSound_start (path : Path) (site site' : Site) :
    (Progress.guarded (History.start path handle site).guards).IsSound site' :=
  ⟨path, fun _ => ⟨rfl, by simp [History.start, Guards.add, Guards.bind, Guards.number?]⟩⟩

theorem effect_attempt (task : Task) (tried : Nat) :
    (task.advance directory site (.naming tried) .attempt).1.IsSound
        (task.advance directory site (.naming tried) .attempt).2 ∧
      Effect site none ((task.advance directory site (.naming tried) .attempt).1.file? task.content)
        (task.advance directory site (.naming tried) .attempt).2 := by
  rw [Task.advance]
  split_ifs
  · cases made : task.attempt directory site tried with
    | ok result =>
      obtain ⟨file, site'⟩ := result
      obtain ⟨path, absolute, rfl, created⟩ := exists_of_attempt made
      obtain ⟨spot, attributes, identity, vacant, changes, holds⟩ :=
        Site.holds_create absolute created
      exact ⟨⟨spot, attributes, identity, holds⟩, .takes rfl vacant changes holds⟩
    | error cause => cases cause <;> exact ⟨trivial, .nothing⟩
  · exact ⟨trivial, .nothing⟩

theorem effect_fill (task : Task) {file : Config.OpenFile} (sound : (Progress.created file).IsSound site)
    (trouble : Trouble) :
    (task.advance directory site (.created file) (.fill trouble)).1.IsSound
        (task.advance directory site (.created file) (.fill trouble)).2 ∧
      Effect site (some (file.path, []))
        ((task.advance directory site (.created file) (.fill trouble)).1.file? task.content)
        (task.advance directory site (.created file) (.fill trouble)).2 := by
  obtain ⟨spot, attributes, opened, held⟩ := sound
  rw [Task.advance]
  obtain ⟨cause, failed⟩ | ⟨site', attributes', filled, changes, holds⟩ :=
    Config.fill_held held opened trouble task.content
  · rw [failed]
    exact ⟨trivial, .leaves rfl held (Site.attempt_cases held)⟩
  · rw [filled]
    exact ⟨isSound_start file.path site' site', .fills rfl held changes holds⟩

theorem file?_of_sole {h : History Site} {path : Path} (content : Utf8.Bytes)
    (sole : History.Sole path h) :
    (Progress.guarded h.guards).file? content =
      if h.isReleased then none else some (path, content) := by
  rw [Progress.file?, Progress.unfired?, sole.made]
  cases h.isReleased <;> rfl

/-- Firing a guard takes the file from the run, or nothing is done if it was done before. -/
theorem effect_fired {h : History Site} {path : Path} {content : Utf8.Bytes}
    (sole : History.Sole path h)
    (held : ∀ path content', (Progress.guarded h.guards).file? content = some (path, content') →
      ∃ spot attributes, h.files.Holds path spot content' attributes) :
    (Progress.guarded (h.fired path).guards).IsSound (h.fired path).files ∧
      Effect h.files ((Progress.guarded h.guards).file? content)
        ((Progress.guarded (h.fired path).guards).file? content) (h.fired path).files := by
  have fired := sole.fired_sole
  refine ⟨⟨path, fun _ => ⟨fired.made, fired.own⟩⟩, ?_⟩
  cases released : h.isReleased with
  | true =>
    rw [History.fired_of_isReleased path h released]
    exact .nothing
  | false =>
    have own : (Progress.guarded h.guards).file? content = some (path, content) :=
      (file?_of_sole content sole).trans (if_neg (by simp [released]))
    have none : (Progress.guarded (h.fired path).guards).file? content = none :=
      (file?_of_sole content fired).trans (if_pos (History.isReleased_fired path h))
    obtain ⟨spot, attributes, held⟩ := held path content own
    rw [own, none, History.fired_files path h released]
    exact .leaves rfl held (Site.attempt_cases held)

theorem effect_act {guards : Guards} {content : Utf8.Bytes}
    (sound : (Progress.guarded guards).IsSound site)
    (held : ∀ path content', (Progress.guarded guards).file? content = some (path, content') →
      ∃ spot attributes, site.Holds path spot content' attributes)
    {action : History.Action} (own : ∀ root, action ≠ .elsewhere root) :
    (act guards site action).1.IsSound (act guards site action).2 ∧
      Effect site ((Progress.guarded guards).file? content)
        ((act guards site action).1.file? content) (act guards site action).2 := by
  obtain ⟨path, sole⟩ := sound
  obtain same | ⟨_, _, handles, same⟩ | same | same | ⟨root, other, -⟩ := (sole site).step_cases action
  · rw [act, same]
    exact ⟨⟨path, sole⟩, .nothing⟩
  · rw [act, same]
    exact ⟨⟨path, fun _ => ⟨(sole site).made, handles⟩⟩, .nothing⟩
  · rw [act, same]
    exact effect_fired (h := History.withHandles _ []) ((sole site).withHandles (by simp)) held
  · rw [act, same]
    exact effect_fired (sole site) held
  · exact absurd other (own root)

theorem effect_advance (directory : Path) (task : Task) {progress : Progress}
    (sound : progress.IsSound site)
    (held : ∀ path content, progress.file? task.content = some (path, content) →
      ∃ spot attributes, site.Holds path spot content attributes) (move : Move) :
    (task.advance directory site progress move).1.IsSound
        (task.advance directory site progress move).2 ∧
      Effect site (progress.file? task.content)
        ((task.advance directory site progress move).1.file? task.content)
        (task.advance directory site progress move).2 := by
  cases progress with
  | naming tried =>
    cases move with
    | attempt => exact effect_attempt task tried
    | _ => exact ⟨trivial, .nothing⟩
  | created file =>
    cases move with
    | fill trouble => exact effect_fill task sound trouble
    | _ => exact ⟨sound, .nothing⟩
  | guarded guards =>
    cases move with
    | clone handle new => exact effect_act sound held (by simp)
    | release handle => exact effect_act sound held (by simp)
    | drop handle => exact effect_act sound held (by simp)
    | _ => exact ⟨sound, .nothing⟩
  | failed => exact ⟨trivial, .nothing⟩

namespace Effect

variable {site' : Site} {file? file?' : Option (Path × Utf8.Bytes)} {path path' : Path}
  {content content' : Utf8.Bytes} {spot : Place} {attributes : Attributes}

/-- A move leaves a file to another run that holds it. -/
theorem spares (effect : Effect site file? file?' site')
    (held : site.Holds path spot content attributes)
    (apart : ∀ path' content', file? = some (path', content') →
      site.locate false path' ≠ .ok (.existing spot)) :
    site'.Holds path spot content attributes := by
  cases effect with
  | nothing => exact held
  | takes free vacant changes holds =>
    refine held.of_changesAt changes ?_
    rintro rfl
    simp [held.there] at vacant
  | fills own held' changes holds =>
    refine held.of_changesAt changes ?_
    rintro rfl
    exact apart _ _ own (held'.leads false)
  | leaves own held' changes =>
    obtain rfl | changes := changes
    · exact held
    · refine held.of_changesAt changes ?_
      rintro rfl
      exact apart _ _ own (held'.leads false)

/-- What is seen at a place where the run holds nothing stays. -/
theorem faceAt? (effect : Effect site file? file?' site') {place : Place} {node : Node}
    (seen : site.root.faceAt? place = some node)
    (apart : ∀ path content, file? = some (path, content) →
      site.locate false path ≠ .ok (.existing place)) :
    site'.root.faceAt? place = some node := by
  cases effect with
  | nothing => exact seen
  | takes free vacant changes holds =>
    rw [changes.trees.same, seen]
    rintro rfl
    simp [Node.faceAt?, vacant] at seen
  | fills own held changes holds =>
    rw [changes.trees.same, seen]
    rintro rfl
    exact apart _ _ own (held.leads false)
  | leaves own held changes =>
    obtain rfl | changes := changes
    · exact seen
    · rw [changes.trees.same, seen]
      rintro rfl
      exact apart _ _ own (held.leads false)

/-- A run holds the file that it has, if it held the one that it had. -/
theorem holds (effect : Effect site file? file?' site')
    (held : ∀ path content, file? = some (path, content) →
      ∃ spot attributes, site.Holds path spot content attributes)
    (own : file?' = some (path, content)) :
    ∃ spot attributes, site'.Holds path spot content attributes := by
  cases effect with
  | nothing => exact held path content own
  | takes free vacant changes holds =>
    obtain ⟨rfl, rfl⟩ := Prod.mk.inj (Option.some.inj own)
    exact ⟨_, _, holds⟩
  | fills own' held' changes holds =>
    obtain ⟨rfl, rfl⟩ := Prod.mk.inj (Option.some.inj own)
    exact ⟨_, _, holds⟩
  | leaves own' held' changes => simp at own

/-- The path of a run does not come to lead to where something else is. -/
theorem locate_ne (effect : Effect site file? file?' site') {place : Place} {node : Node}
    (seen : site.root.faceAt? place = some node)
    (apart : ∀ path content, file? = some (path, content) →
      site.locate false path ≠ .ok (.existing place))
    (own : file?' = some (path, content)) : site'.locate false path ≠ .ok (.existing place) := by
  cases effect with
  | nothing => exact apart path content own
  | takes free vacant changes holds =>
    obtain ⟨rfl, rfl⟩ := Prod.mk.inj (Option.some.inj own)
    rw [holds.leads]
    rintro ⟨⟩
    simp [Node.faceAt?, vacant] at seen
  | fills own' held changes holds =>
    obtain ⟨rfl, rfl⟩ := Prod.mk.inj (Option.some.inj own)
    rw [holds.leads]
    rintro ⟨⟩
    exact apart _ _ own' (held.leads false)
  | leaves own' held changes => simp at own

end Effect

end ScopedCheck.Parallel
