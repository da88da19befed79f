import ScopedCheck.Proofs.FileSystem.Descent
import ScopedCheck.Proofs.Program.Failing
import ScopedCheck.Proofs.Supervision.Cleanup

namespace ScopedCheck

namespace Supervision

theorem steps_elsewhere (s : Supervision Site) (root? : Option Node) :
    s.steps (root?.toList.map .elsewhere) = { s with
      site := { s.site with root := root?.getD s.site.root } } := by
  cases root? <;> rfl

/-- A run that learns nothing but the end of its checker removes the config then. -/
theorem steps_reported {ρ : Type} {s : Supervision Site} {path : Path} {report : Report ρ}
    {ending : Ending} {left : Node} (running : s.stage = .running) (live : s.exit? = none)
    (going : s.paused = false) (guard : s.guard = .new path)
    (ended : report.observations = [⟨.ended ending, left⟩]) :
    (s.steps (reported report)).exit? = some (.status ending.exitStatus) ∧
      (s.steps (reported report)).site.root = report.afterwards.getD
        (Remover.attempt path { s.site with root := left }).2.root := by
  have events : reported report = .elsewhere left :: (toExit (.ok ending) ++
      report.afterwards.toList.map .elsewhere) := by
    simp [reported, ended, answers]
  have first (events : List Event) :
      s.steps (.elsewhere left :: events) = (s.setRoot left).steps events := rfl
  have removed : (s.setRoot left).release.site =
      (Remover.attempt path { s.site with root := left }).2 := by
    have unreleased : (s.setRoot left).guard.released = false := congrArg Guard.released guard
    have same : (s.setRoot left).guard.path = path := congrArg Guard.path guard
    rw [release_site unreleased, same]
    rfl
  have exited := steps_toExit (s := s.setRoot left) running live going (.ok ending)
  rw [events, first, steps_append, exited, steps_elsewhere, ← removed]
  exact ⟨rfl, rfl⟩

end Supervision

namespace Program

variable {ρ : Type} {setting : Setting ρ} {arguments : Arguments} {p : Preparation}

/-- Whether a run executes the checker once: in the working directory, on an entry of that directory
that did not exist before and holds the derived config, with everything else as it was. -/
structure Executes (setting : Setting ρ) (arguments : Arguments) (place : Place) (p : Preparation)
    (name : String) (root : Node) (outcome : Outcome ρ) : Prop where
  known : FindsOut setting arguments p
  here : setting.site.directory = some place
  fresh : setting.site.root.at? (place ++ [name]) = none
  leads : ({ setting.site with root := root } : Site).locate false (p.directory.child name) =
    .ok (.existing (place ++ [name]))
  content : ∃ attributes, root.at? (place ++ [name]) = some (.file
    (Utf8.encode (p.config.derive arguments.files p.declarations).text) attributes)
  rest : ∀ other, other ≠ place ++ [name] → root.faceAt? other = setting.site.root.faceAt? other
  once : outcome.launches =
    [({ program := p.checker
        arguments := "-p" :: (p.directory.child name).text :: (arguments.forwardedFlags ++ ["--noEmit"])
        directory := p.directory
        environment := setting.environment }, root)]

/-- Whether a run ends as it should once its checker has ended and left the files like this: with the
status of the checker, and with nothing changed but that the config is gone. -/
structure Completes (setting : Setting ρ) (config : Path) (root : Node) (report : Report ρ)
    (ending : Ending) (left : Node) (outcome : Outcome ρ) : Prop where
  exited : ∀ status, ending = .exited status → outcome.exit = .status status
  killed : ∀ signal, ending = .killed signal → outcome.exit = .status 0
  cleared : ∃ site, outcome.root = report.afterwards.getD site.root ∧
    Site.Cleared config { setting.site with root := left } site ∧
    (left = root → site.root = setting.site.root)

theorem exists_of_directoryPath {site : Site} {directory : Path}
    (here : site.directoryPath = .ok directory) :
    ∃ place, site.directory = some place ∧ directory = Path.ofNames place := by
  unfold Site.directoryPath at here
  cases found : site.directory with
  | none => simp [found] at here
  | some place =>
    rw [found] at here
    exact ⟨place, rfl, (Except.ok.inj here).symm⟩

/-- A run that does not fail finds everything out, writes the config and starts the checker. -/
theorem exists_started (wellFormed : setting.site.root.WellFormed) (given : arguments.files ≠ [])
    (unfailed : (runArguments setting arguments).failure? = none) :
    ∃ p suffix holder name report, FindsOut setting arguments p ∧
      Config.IsFree setting.site (p.directory.child (p.config.temporaryName suffix)) holder name ∧
      launched setting arguments p (.new (p.directory.child (p.config.temporaryName suffix)))
        (setting.site.alter holder (Entries.insert name (Config.temporaryFile setting.site
          (Utf8.encode (p.config.derive arguments.files p.declarations).text)))) = .ok report ∧
      runArguments setting arguments =
        check setting arguments p (.new (p.directory.child (p.config.temporaryName suffix)))
          (setting.site.alter holder (Entries.insert name (Config.temporaryFile setting.site
            (Utf8.encode (p.config.derive arguments.files p.declarations).text)))) := by
  have never {failure : Failure} (fails : FailsFirst setting arguments failure) : False := by
    rw [runArguments_of_failsFirst given wellFormed fails] at unfailed
    simp [failed] at unfailed
  obtain ⟨p, known⟩ | ⟨failure, fails⟩ := prepare_cases wellFormed arguments
  · obtain ⟨cause, done⟩ | ⟨above, n, holder, name, absolute, free, done⟩ := written_cases p wellFormed
    · exact (never (.tempConfigUnwritable known done)).elim
    · obtain rfl : p.directory = above := by
        obtain ⟨place, -, directory⟩ := exists_of_directoryPath known.here
        have given : p.directory.isAbsolute := directory ▸ Path.isAbsolute_ofNames place
        rw [Config.absolute, if_pos given] at absolute
        exact Except.ok.inj absolute
      cases started : launched setting arguments p _ _ with
      | error cause => exact (never (.checkerNotRun known done started)).elim
      | ok report =>
        refine ⟨p, setting.suffixes n, holder, name, report, known, free, started, ?_⟩
        rw [runArguments_of_findsOut given known, done]
  · exact (never fails).elim

/-- What was found out does not depend on how programs are started or temporary configs are named. -/
theorem FindsOut.unique {setting' : Setting ρ} {p' : Preparation}
    (known : FindsOut setting arguments p) (known' : FindsOut setting' arguments p')
    (sites : setting'.site = setting.site) :
    p'.directory = p.directory ∧ p'.config = p.config ∧ p'.declarations = p.declarations ∧
      (setting'.environment = setting.environment → p'.checker = p.checker) := by
  obtain ⟨here, ⟨text, read, parsed⟩, collected, located⟩ := known
  obtain ⟨here', ⟨text', read', parsed'⟩, collected', located'⟩ := known'
  rw [sites] at here' read' collected'
  have directory : p'.directory = p.directory := Except.ok.inj (here'.symm.trans here)
  rw [directory] at read' parsed' collected' located'
  obtain rfl : text' = text := Except.ok.inj (read'.symm.trans read)
  refine ⟨directory, Except.ok.inj (parsed'.symm.trans parsed),
    Except.ok.inj (collected'.symm.trans collected), fun environments => ?_⟩
  rw [checkerFrom, sites, environments] at located'
  exact Except.ok.inj (located'.symm.trans located)

/-- A run ends when its checker does. -/
theorem completes_of_started {path : Path} {root : Node} {report : Report ρ} {ending : Ending}
    {left : Node} (absolute : path.isAbsolute)
    (back : ({ setting.site with root := root } : Site).remove path = .ok setting.site)
    (started : launched setting arguments p (.new path) { setting.site with root := root } =
      .ok report)
    (ended : report.observations = [⟨.ended ending, left⟩]) :
    Completes setting path root report ending left
      (check setting arguments p (.new path) { setting.site with root := root }) := by
  have running := Supervision.steps_toRunning { setting.site with root := root } (.new path)
  obtain ⟨exit, files⟩ := Supervision.steps_reported
    (s := { Supervision.start { setting.site with root := root } (.new path) with stage := .running })
    rfl rfl rfl rfl ended
  rw [check_of_started started, running]
  refine ⟨?_, ?_, _, files, Site.cleared_attempt absolute _, ?_⟩
  · rintro status rfl
    simp only [exit]
    rfl
  · rintro signal rfl
    simp only [exit]
    rfl
  · rintro rfl
    have attempted : (Remover.attempt path { setting.site with root := left }).2 = setting.site := by
      simp [Remover.attempt, back]
    exact congrArg Site.root attempted

/-- A run that does not fail executes the checker, and ends when the checker does. -/
theorem exists_executes (wellFormed : setting.site.WellFormed) (given : arguments.files ≠ [])
    (unfailed : (runArguments setting arguments).failure? = none) :
    ∃ place p suffix root,
      Executes setting arguments place p (p.config.temporaryName suffix) root
        (runArguments setting arguments) ∧
      ∃ report, launched setting arguments p
          (.new (p.directory.child (p.config.temporaryName suffix)))
          { setting.site with root := root } = .ok report ∧
        ∀ ending left, report.observations = [⟨.ended ending, left⟩] →
          Completes setting (p.directory.child (p.config.temporaryName suffix)) root report ending left
            (runArguments setting arguments) := by
  obtain ⟨p, suffix, holder, name, report, known, free, started, run⟩ :=
    exists_started wellFormed.tree given unfailed
  obtain ⟨place, here, directory⟩ := exists_of_directoryPath known.here
  obtain ⟨entries, mode, folder⟩ := wellFormed.here place here
  obtain ⟨rfl, rfl⟩ : holder = place ∧ name = p.config.temporaryName suffix :=
    Site.eq_of_locate_child (wellFormed.tree.at? folder).2 (Config.isName_temporaryName p.config suffix)
      folder (directory ▸ free.vacant)
  obtain ⟨entries', mode', there, vacant⟩ := Site.exists_of_locate_vacant free.absolute free.vacant
  refine ⟨holder, p, suffix, _, ⟨known, here, ?_, ?_,
    ⟨setting.site.newAttributes (setting.site.permitted Config.temporaryMode), ?_⟩, ?_, ?_⟩, report,
    started, ?_⟩
  · rw [Node.at?_child there, vacant]
  · exact Site.locate_insert free.absolute free.vacant _ _ false
  · exact Site.at?_insert free.absolute free.vacant _ _
  · intro other away
    exact (Node.faceAt?_insert there vacant _ _ other).trans (if_neg away)
  · rw [run, check_of_started started]
    rfl
  · intro ending left ended
    rw [run]
    exact completes_of_started free.absolute (free.remove wellFormed.tree _) started ended

/-- A run that does not fail refines the functions it is made of: the checker is executed once, with the
arguments and on the config that they give, and its end decides how the run ends. Of another run in the
same tree, for the same files, flags and config, this holds with the same config, and with the same
checker if the environments agree. -/
theorem run_executes {argv : List Utf8.Bytes} {tokens : List String}
    (wellFormed : setting.site.WellFormed) (captured : argv.tail = tokens.map Utf8.encode)
    (given : (Arguments.partition tokens).files ≠ [])
    (unfailed : (run setting argv).failure? = none) :
    ∃ place p name root,
      Executes setting (Arguments.partition tokens) place p name root (run setting argv) ∧
      (∃ report, launched setting (Arguments.partition tokens) p (.new (p.directory.child name))
          { setting.site with root := root } = .ok report ∧
        ∀ ending left, report.observations = [⟨.ended ending, left⟩] →
          Completes setting (p.directory.child name) root report ending left (run setting argv)) ∧
      ∀ (setting' : Setting ρ) (argv' : List Utf8.Bytes) (tokens' : List String),
        setting'.site = setting.site → argv'.tail = tokens'.map Utf8.encode →
        Arguments.partition tokens' = Arguments.partition tokens →
        (run setting' argv').failure? = none →
        ∃ p' name' root',
          Executes setting' (Arguments.partition tokens) place p' name' root' (run setting' argv') ∧
          p'.directory = p.directory ∧ p'.config = p.config ∧ p'.declarations = p.declarations ∧
          (setting'.environment = setting.environment → p'.checker = p.checker) := by
  rw [run_of_captured captured] at unfailed ⊢
  obtain ⟨place, p, suffix, root, executes, completes⟩ := exists_executes wellFormed given unfailed
  refine ⟨place, p, _, root, executes, completes, ?_⟩
  intro setting' argv' tokens' sites captured' same unfailed'
  rw [run_of_captured captured', same] at unfailed' ⊢
  obtain ⟨place', p', suffix', root', executes', -⟩ :=
    exists_executes (sites ▸ wellFormed) given unfailed'
  obtain rfl : place' = place := by
    have here := executes'.here
    rw [sites, executes.here] at here
    exact (Option.some.inj here).symm
  exact ⟨p', _, root', executes', executes.known.unique executes'.known sites⟩

/-- A checker that finds errors and changes nothing. -/
def complaining : Launcher Unit := fun _ _ site =>
  .ok { observations := [⟨.ended (.exited 2), site.root⟩], errors := "", rest := () }

theorem run_executes_complaining :
    (run (smallProject complaining) (["vue-tsc-files", "a.ts"].map Utf8.encode)).failure? = none ∧
      (run (smallProject complaining) (["vue-tsc-files", "a.ts"].map Utf8.encode)).exit = .status 2 ∧
      (run (smallProject complaining) (["vue-tsc-files", "a.ts"].map Utf8.encode)).root =
        smallSite.root ∧
      ∃ place p name root,
        Executes (smallProject complaining) smallArguments place p name root
          (run (smallProject complaining) (["vue-tsc-files", "a.ts"].map Utf8.encode)) := by
  have sorted : Arguments.partition ["a.ts"] = smallArguments := by decide +kernel
  have given : smallArguments.files ≠ [] := by decide
  have captured : (["vue-tsc-files", "a.ts"].map Utf8.encode).tail = ["a.ts"].map Utf8.encode := rfl
  have unfailed : (run (smallProject complaining)
      (["vue-tsc-files", "a.ts"].map Utf8.encode)).failure? = none := by
    rw [run_of_captured captured, sorted,
      runArguments_of_findsOut given (findsOut_smallProject _), written_smallProject]
    dsimp only
    rw [check_of_started rfl]
  have wellFormed : (smallProject complaining).site.WellFormed := by
    refine ⟨wellFormed_smallSite, fun place here => ?_⟩
    obtain rfl : ["w"] = place := Option.some.inj here
    exact ⟨_, _, rfl⟩
  obtain ⟨place, p, name, root, executes, ⟨report, started, completes⟩, -⟩ :=
    run_executes wellFormed captured (sorted ▸ given) unfailed
  obtain rfl := Except.ok.inj started
  obtain ⟨exited, -, site, files, -, unchanged⟩ := completes (.exited 2) root rfl
  refine ⟨unfailed, exited 2 rfl, files.trans (unchanged rfl), place, p, name, root, ?_⟩
  exact sorted ▸ executes

end Program

end ScopedCheck
