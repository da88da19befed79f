import ScopedCheck.Proofs.Declarations.Refusal
import ScopedCheck.Proofs.Program.Steps
import ScopedCheck.Proofs.Text.Utf8

namespace ScopedCheck

theorem Config.exists_of_parse_error {path : Path} {text : String} {failure : Failure}
    (h : Config.parse path text = .error failure) :
    ∃ message, failure = .configMalformed path message := by
  unfold Config.parse at h
  dsimp only at h
  split at h
  · exact ⟨_, (Except.error.inj h).symm⟩
  · simp at h
  · exact ⟨_, (Except.error.inj h).symm⟩

theorem Checker.exists_of_locate_error {site : Site} {start : Path} {requested : Option Path}
    {search : SearchPath} {failure : Failure}
    (h : Checker.locate site start requested search = .error failure) :
    ∃ path, failure = .checkerNotFound path := by
  unfold Checker.locate at h
  split at h
  · dsimp only at h
    split_ifs at h
    exact ⟨_, (Except.error.inj h).symm⟩
  · split at h
    · simp at h
    · exact ⟨_, (Except.error.inj h).symm⟩

namespace Arguments

/-- The token of an argument. -/
def token (bytes : Utf8.Bytes) : Except Failure String :=
  match Utf8.decode? bytes with
  | some token => .ok token
  | none => .error (.argumentNotText (Utf8.decodeLossy bytes))

theorem capture_eq (argv : List Utf8.Bytes) : capture argv = argv.tail.mapM token :=
  rfl

theorem token_encode (text : String) : token (Utf8.encode text) = .ok text := by
  rw [token, Utf8.decode?_encode]

theorem mapM_token (texts : List String) : (texts.map Utf8.encode).mapM token = .ok texts := by
  induction texts with
  | nil => rfl
  | cons text texts ih =>
    simp [token_encode, ih, bind, Except.bind, pure, Except.pure]

/-- The first argument that is not text is the one that is told of. -/
theorem exists_of_notText {args : List Utf8.Bytes} (damaged : ∃ bytes ∈ args, ¬Utf8.IsText bytes) :
    ∃ before bytes after, args = before ++ bytes :: after ∧ (∀ b ∈ before, Utf8.IsText b) ∧
      ¬Utf8.IsText bytes ∧
      args.mapM token = .error (.argumentNotText (Utf8.decodeLossy bytes)) := by
  induction args with
  | nil => simp at damaged
  | cons first args ih =>
    by_cases text : Utf8.IsText first
    · obtain ⟨bytes, mem, notText⟩ := damaged
      have mem' : bytes ∈ args := by
        obtain rfl | mem := List.mem_cons.1 mem
        · exact absurd text notText
        · exact mem
      obtain ⟨before, bytes, after, rfl, texts, notText, failed⟩ := ih ⟨bytes, mem', notText⟩
      refine ⟨first :: before, bytes, after, rfl, List.forall_mem_cons.2 ⟨text, texts⟩, notText, ?_⟩
      obtain ⟨token', rfl⟩ := text
      rw [List.mapM_cons, token_encode, failed]
      rfl
    · refine ⟨[], first, args, rfl, by simp, text, ?_⟩
      rw [List.mapM_cons, token, Utf8.decode?_eq_none_iff.2 text]
      rfl

end Arguments

namespace Program

variable {ρ : Type}

section Steps

variable (setting : Setting ρ) (arguments : Arguments)

/-- Whether this is the failure of the first step that fails. -/
inductive FailsFirst : Failure → Prop where
  | workingDirectory {cause : Fault} (lost : setting.site.directoryPath = .error cause) :
      FailsFirst (.workingDirectory cause)
  | configUnreadable {directory : Path} {cause : Fault}
      (here : setting.site.directoryPath = .ok directory)
      (unread : setting.site.readText (configPath arguments directory) = .error cause) :
      FailsFirst (.configUnreadable (configPath arguments directory) cause)
  | configMalformed {directory : Path} {text message : String}
      (here : setting.site.directoryPath = .ok directory)
      (read : setting.site.readText (configPath arguments directory) = .ok text)
      (refused : Config.parse (configPath arguments directory) text =
        .error (.configMalformed (configPath arguments directory) message)) :
      FailsFirst (.configMalformed (configPath arguments directory) message)
  | directoryUnreadable {directory path : Path} {text : String} {config : Config} {cause : Fault}
      (here : setting.site.directoryPath = .ok directory)
      (read : setting.site.readText (configPath arguments directory) = .ok text)
      (parsed : Config.parse (configPath arguments directory) text = .ok config)
      (unlisted : Declarations.collect setting.site directory =
        .error (.directoryUnreadable path cause)) :
      FailsFirst (.directoryUnreadable path cause)
  | checkerNotFound {directory path : Path} {text : String} {config : Config}
      {declarations : List Path} (here : setting.site.directoryPath = .ok directory)
      (read : setting.site.readText (configPath arguments directory) = .ok text)
      (parsed : Config.parse (configPath arguments directory) text = .ok config)
      (collected : Declarations.collect setting.site directory = .ok declarations)
      (missing : checkerFrom setting directory = .error (.checkerNotFound path)) :
      FailsFirst (.checkerNotFound path)
  | tempConfigUnwritable {p : Preparation} {site : Site} {cause : Fault}
      (known : FindsOut setting arguments p)
      (unwritten : written setting arguments p =
        (.error (.tempConfigUnwritable p.directory cause), site)) :
      FailsFirst (.tempConfigUnwritable p.directory cause)
  | checkerNotRun {p : Preparation} {guard : Guard} {site : Site} {cause : Fault}
      (known : FindsOut setting arguments p)
      (written : written setting arguments p = (.ok guard, site))
      (refused : launched setting arguments p guard site = .error cause) :
      FailsFirst (.checkerNotRun p.checker cause)

end Steps

variable {setting : Setting ρ} {arguments : Arguments} {p : Preparation}

/-- Everything is found out, or the first step that fails is one of those that find out. -/
theorem prepare_cases (wellFormed : setting.site.root.WellFormed) (arguments : Arguments) :
    (∃ p, FindsOut setting arguments p) ∨ ∃ failure, FailsFirst setting arguments failure := by
  cases here : setting.site.directoryPath with
  | error cause => exact .inr ⟨_, .workingDirectory here⟩
  | ok directory =>
  cases read : setting.site.readText (configPath arguments directory) with
  | error cause => exact .inr ⟨_, .configUnreadable here read⟩
  | ok text =>
  cases parsed : Config.parse (configPath arguments directory) text with
  | error failure =>
    obtain ⟨message, rfl⟩ := Config.exists_of_parse_error parsed
    exact .inr ⟨_, .configMalformed here read parsed⟩
  | ok config =>
  cases collected : Declarations.collect setting.site directory with
  | error failure =>
    obtain ⟨path, cause, rfl⟩ := Declarations.exists_of_collect_error wellFormed collected
    exact .inr ⟨_, .directoryUnreadable here read parsed collected⟩
  | ok declarations =>
  cases located : checkerFrom setting directory with
  | error failure =>
    obtain ⟨path, rfl⟩ := Checker.exists_of_locate_error located
    exact .inr ⟨_, .checkerNotFound here read parsed collected located⟩
  | ok checker =>
    exact .inl ⟨⟨directory, config, declarations, checker⟩, here, ⟨text, read, parsed⟩, collected,
      located⟩

theorem runArguments_of_prepare_error {failure : Failure} (given : arguments.files ≠ [])
    (stopped : prepare setting arguments = .error failure) :
    runArguments setting arguments = failed failure setting.site.root := by
  have full : arguments.isEmpty = false := by simpa [Arguments.isEmpty] using given
  unfold runArguments
  rw [if_neg (by simp [full]), begin, stopped]

theorem release_start {path : Path} {site site' : Site} (removed : site.remove path = .ok site') :
    (Supervision.start site (.new path)).release.site = site' := by
  simp [Supervision.start, Supervision.release, Guard.release, Guard.new, Remover.attempt, removed]

/-- A run whose first failing step fails so ends with that failure and leaves the files as they were. -/
theorem runArguments_of_failsFirst (given : arguments.files ≠ [])
    (wellFormed : setting.site.root.WellFormed) {failure : Failure}
    (fails : FailsFirst setting arguments failure) :
    runArguments setting arguments = failed failure setting.site.root := by
  cases fails with
  | workingDirectory lost =>
    refine runArguments_of_prepare_error given ?_
    simp [prepare, lost, Except.mapError, bind, Except.bind]
  | configUnreadable here unread =>
    refine runArguments_of_prepare_error given ?_
    simp [prepare, here, Except.mapError, bind, Except.bind, Config.load, unread]
  | configMalformed here read refused =>
    refine runArguments_of_prepare_error given ?_
    simp [prepare, here, Except.mapError, bind, Except.bind, Config.load, read, refused]
  | directoryUnreadable here read parsed unlisted =>
    refine runArguments_of_prepare_error given ?_
    simp [prepare, here, Except.mapError, bind, Except.bind, Config.load, read, parsed, unlisted]
  | checkerNotFound here read parsed collected missing =>
    refine runArguments_of_prepare_error given ?_
    simp [prepare, here, Except.mapError, bind, Except.bind, Config.load, read, parsed, collected,
      missing]
  | @tempConfigUnwritable p site cause known unwritten =>
    have same : site = setting.site := by
      obtain ⟨cause', h⟩ | ⟨above, n, holder, name, -, -, h⟩ := written_cases p wellFormed
      · exact (Prod.mk.inj (unwritten.symm.trans h)).2
      · exact absurd (Prod.mk.inj (unwritten.symm.trans h)).1 (by simp)
    rw [runArguments_of_findsOut given known, unwritten, same]
  | @checkerNotRun p guard site cause known done refused =>
    obtain ⟨cause', h⟩ | ⟨above, n, holder, name, -, free, h⟩ := written_cases p wellFormed
    · exact absurd (Prod.mk.inj (done.symm.trans h)).1 (by simp)
    · obtain ⟨hguard, rfl⟩ := Prod.mk.inj (done.symm.trans h)
      obtain rfl := Except.ok.inj hguard
      rw [runArguments_of_findsOut given known, done]
      dsimp only
      rw [check_of_refused refused, release_start (free.remove wellFormed _)]

theorem run_of_captured {argv : List Utf8.Bytes} {tokens : List String}
    (captured : argv.tail = tokens.map Utf8.encode) :
    run setting argv = runArguments setting (Arguments.partition tokens) := by
  rw [run, Arguments.capture_eq, captured, Arguments.mapM_token]

end Program

end ScopedCheck
