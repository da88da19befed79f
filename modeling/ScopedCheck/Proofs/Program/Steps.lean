import ScopedCheck.Program
import ScopedCheck.Proofs.Config.Writing

namespace ScopedCheck

namespace Supervision

variable {σ : Type} [World σ]

theorem step_proceed {s : Supervision σ} (live : s.exit? = none) (going : s.paused = false) :
    s.step .proceed = s.proceed := by
  simp [step, live, going]

/-- The way from a written config to the checker changes nothing but how far the run is. -/
theorem steps_toRunning (site : σ) (guard : Guard) :
    (start site guard).steps toRunning = { start site guard with stage := .running } :=
  rfl

/-- Once the checker has ended, or could not be started, the config is removed and the run ends. -/
theorem steps_toExit {s : Supervision Site} (running : s.stage = .running) (live : s.exit? = none)
    (going : s.paused = false) (result : Except Fault Ending) :
    s.steps (toExit result) =
      { s.release with
        stage := .released (statusOf result), exit? := some (.status (statusOf result)) } := by
  have ended : s.step (.programEnds result) = { s with stage := .ended result } := by
    simp [step, live, running]
  have removed : ({ s with stage := .ended result } : Supervision Site).step .proceed =
      { s.release with stage := .released (statusOf result) } :=
    step_proceed live going
  have exited : ({ s.release with stage := .released (statusOf result) } : Supervision Site).step
        .proceed =
      { s.release with
        stage := .released (statusOf result), exit? := some (.status (statusOf result)) } :=
    step_proceed live going
  rw [← exited, ← removed, ← ended]
  rfl

end Supervision

namespace Program

variable {ρ : Type}

section Steps

variable (setting : Setting ρ) (arguments : Arguments)

/-- What is found out before anything is written. -/
structure FindsOut (p : Preparation) : Prop where
  here : setting.site.directoryPath = .ok p.directory
  configured : ∃ text, setting.site.readText (configPath arguments p.directory) = .ok text ∧
    Config.parse (configPath arguments p.directory) text = .ok p.config
  collected : Declarations.collect setting.site p.directory = .ok p.declarations
  located : checkerFrom setting p.directory = .ok p.checker

/-- What comes of writing the temporary config. -/
def written (p : Preparation) : Except Failure Guard × Site :=
  p.config.writeTemporary setting.site setting.trouble setting.suffixes p.directory
    (p.config.derive arguments.files p.declarations)

/-- How the checker is started on a config that was written. -/
def launchOf (p : Preparation) (guard : Guard) : Launch :=
  Checker.launch p.checker p.directory guard.path arguments.forwardedFlags setting.environment

/-- What comes of starting the checker. -/
def launched (p : Preparation) (guard : Guard) (site : Site) : Except Fault (Report ρ) :=
  setting.launcher (launchOf setting arguments p guard)
    ((Supervision.start site guard).steps Supervision.toRunning).reaction site

end Steps

variable {setting : Setting ρ} {arguments : Arguments} {p : Preparation} {guard : Guard} {site : Site}

theorem prepare_of_findsOut (known : FindsOut setting arguments p) :
    prepare setting arguments = .ok p := by
  obtain ⟨here, ⟨text, read, parsed⟩, collected, located⟩ := known
  have loaded : Config.load setting.site (configPath arguments p.directory) = .ok p.config := by
    simp only [Config.load, read, parsed]
  simp [prepare, here, Except.mapError, bind, Except.bind, loaded, collected, located, pure,
    Except.pure]

/-- A run that has found out what it must know writes the temporary config next. -/
theorem runArguments_of_findsOut (given : arguments.files ≠ [])
    (known : FindsOut setting arguments p) :
    runArguments setting arguments =
      match written setting arguments p with
      | (.error failure, site) => failed failure site.root
      | (.ok guard, site) => check setting arguments p guard site := by
  have full : arguments.isEmpty = false := by simpa [Arguments.isEmpty] using given
  unfold runArguments
  rw [if_neg (by simp [full]), begin, prepare_of_findsOut known]
  unfold written
  dsimp only
  generalize p.config.writeTemporary setting.site setting.trouble setting.suffixes p.directory
    (p.config.derive arguments.files p.declarations) = result
  obtain ⟨failure | guard, site⟩ := result <;> rfl

/-- All that can come of writing the temporary config. -/
theorem written_cases (p : Preparation) (wellFormed : setting.site.root.WellFormed) :
    (∃ cause, written setting arguments p =
      (.error (.tempConfigUnwritable p.directory cause), setting.site)) ∨
    ∃ above n holder name, Config.absolute setting.site p.directory = .ok above ∧
      Config.IsFree setting.site (above.child (p.config.temporaryName (setting.suffixes n))) holder
        name ∧
      written setting arguments p =
        (.ok (.new (above.child (p.config.temporaryName (setting.suffixes n)))),
          setting.site.alter holder (Entries.insert name (Config.temporaryFile setting.site
            (Utf8.encode (p.config.derive arguments.files p.declarations).text)))) :=
  (p.config.writeTemporary_cases wellFormed setting.trouble setting.suffixes p.directory
    (p.config.derive arguments.files p.declarations)).imp_left
      fun ⟨cause, failed, _⟩ => ⟨cause, failed⟩

theorem run_launchOf (setting : Setting ρ) (arguments : Arguments) (p : Preparation) (guard : Guard)
    (site : Site) :
    Checker.run setting.launcher (launchOf setting arguments p guard)
        ((Supervision.start site guard).steps Supervision.toRunning).reaction
        ((Supervision.start site guard).steps Supervision.toRunning).site =
      (launched setting arguments p guard site).mapError (.checkerNotRun p.checker) :=
  rfl

/-- If the checker cannot be started the config is removed all the same. -/
theorem check_of_refused {cause : Fault}
    (refused : launched setting arguments p guard site = .error cause) :
    check setting arguments p guard site =
      failed (.checkerNotRun p.checker cause) (Supervision.start site guard).release.site.root := by
  have run := run_launchOf setting arguments p guard site
  rw [refused, launchOf] at run
  unfold check
  simp only [run, Except.mapError]
  rw [Supervision.steps_toRunning, Supervision.steps_toExit rfl rfl rfl]
  rfl

/-- What comes of a checker that was started. -/
theorem check_of_started {report : Report ρ}
    (started : launched setting arguments p guard site = .ok report) :
    check setting arguments p guard site =
      let s := ((Supervision.start site guard).steps Supervision.toRunning).steps
        (Supervision.reported report)
      { exit := s.exit?.getD default, failure? := none, root := s.site.root
        launches := [(launchOf setting arguments p guard, site.root)]
        errors := report.errors, rest? := some report.rest } := by
  have run := run_launchOf setting arguments p guard site
  rw [started, launchOf] at run
  unfold check
  simp only [run, Except.mapError]
  rfl

/-- A project with an empty config, and a checker. -/
def smallSite : Site where
  root := .directory [("check", .file [] {}), ("w", .directory [
    ("tsconfig.json", .file (Utf8.encode "{}") {})])]
  directory := some ["w"]

theorem wellFormed_smallSite : smallSite.root.WellFormed := by
  have config : (Node.directory [("tsconfig.json", .file (Utf8.encode "{}") {})]).WellFormed :=
    .directory _ (by decide) (by simp [Node.IsName]) (by simpa using .file _ _)
  refine .directory _ (by decide) (by simp [Node.IsName]) ?_
  simpa using ⟨.file [] {}, config⟩

/-- The small project with some way to start programs; the environment names the checker. -/
def smallProject (launcher : Launcher Unit) : Setting Unit where
  site := smallSite
  environment := .ofTexts [(checkerVariable, "/check")]
  suffixes := Suffix.ofNat
  launcher := launcher

def smallArguments : Arguments :=
  { files := ["a.ts"] }

def smallPreparation : Preparation :=
  ⟨⟨"/w"⟩, ⟨⟨"/w/tsconfig.json"⟩, []⟩, [], ⟨"/check"⟩⟩

theorem checkerFrom_smallProject (launcher : Launcher Unit) :
    checkerFrom (smallProject launcher) ⟨"/w"⟩ = .ok ⟨"/check"⟩ := by
  have asked : Checker.asked? ((Environment.ofTexts [(checkerVariable, "/check")]).value?
      checkerVariable) = some ⟨"/check"⟩ := by
    decide +kernel
  have joined : Path.join ⟨"/w"⟩ ⟨"/check"⟩ = ⟨"/check"⟩ := by decide +kernel
  have there : smallSite.exists? ⟨"/check"⟩ = true := rfl
  rw [checkerFrom, smallProject]
  dsimp only
  rw [asked]
  unfold Checker.locate
  dsimp only
  rw [joined, if_pos there]

theorem findsOut_smallProject (launcher : Launcher Unit) :
    FindsOut (smallProject launcher) smallArguments smallPreparation where
  here := rfl
  configured := by
    have named : configPath smallArguments ⟨"/w"⟩ = ⟨"/w/tsconfig.json"⟩ := by decide +kernel
    have read : smallSite.readText ⟨"/w/tsconfig.json"⟩ = .ok "{}" := rfl
    have parsed : Config.parse ⟨"/w/tsconfig.json"⟩ "{}" = .ok ⟨⟨"/w/tsconfig.json"⟩, []⟩ := rfl
    refine ⟨"{}", ?_, ?_⟩
    · rw [smallPreparation, named]
      exact read
    · rw [smallPreparation, named]
      exact parsed
  collected := by
    have found : smallSite.find false ⟨"/w"⟩ =
        .ok (["w"], .directory [("tsconfig.json", .file (Utf8.encode "{}") {})]) := rfl
    rw [smallPreparation, smallProject]
    simp only [Declarations.collect, found, Declarations.inDirectory, Declarations.belowEach,
      Declarations.below, Declarations.inNameOrder, List.mergeSort_singleton]
    rfl
  located := checkerFrom_smallProject launcher

/-- The name of the temporary config of the small project. -/
def smallName : String := "tsconfig.0000000000.json"

def smallPath : Path := ⟨"/w/tsconfig.0000000000.json"⟩

/-- The small project with a temporary config of some content. -/
def smallSiteWith (content : Utf8.Bytes) : Site :=
  { smallSite with
    root := .directory [("check", .file [] {}), ("w", .directory [
      ("tsconfig.json", .file (Utf8.encode "{}") {}),
      (smallName, .file content { mode := Config.temporaryMode, identity := 1 })])] }

def smallText : String :=
  (smallPreparation.config.derive smallArguments.files smallPreparation.declarations).text

theorem written_smallProject (launcher : Launcher Unit) :
    written (smallProject launcher) smallArguments smallPreparation =
      (.ok (.new smallPath), smallSiteWith (Utf8.encode smallText)) := by
  have named : Path.child ⟨"/w"⟩ (smallPreparation.config.temporaryName (Suffix.ofNat 0)) =
      smallPath := by
    decide +kernel
  have free : smallSite.create smallPath [] Config.temporaryMode = .ok (smallSiteWith []) :=
    rfl
  exact Config.writeTemporary_of_free (by decide) named free rfl

end Program

end ScopedCheck
