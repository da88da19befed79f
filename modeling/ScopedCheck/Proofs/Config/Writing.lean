import ScopedCheck.Proofs.Config.Temporary
import ScopedCheck.Proofs.FileSystem.Creation

namespace ScopedCheck.Config

variable {site site' : Site} {directory path : Path}

/-- The file of a temporary config, as it is added to a site. -/
def temporaryFile (site : Site) (content : Utf8.Bytes) : Node :=
  site.newFile content (site.permitted temporaryMode)

/-- Whether a path leads to a name that is free, in a directory that lets one add it. -/
structure IsFree (site : Site) (path : Path) (holder : Place) (name : String) : Prop where
  absolute : path.isAbsolute
  vacant : site.locate false path = .ok (.vacant holder name)
  allowed : site.requireChange holder = .ok ()

theorem IsFree.remove {holder : Place} {name : String} (free : IsFree site path holder name)
    (wellFormed : site.root.WellFormed) (content : Utf8.Bytes) :
    (site.alter holder (Entries.insert name (temporaryFile site content))).remove path = .ok site :=
  site.remove_insert wellFormed free.absolute free.vacant free.allowed content _

/-- A file that was just added is filled, or it is gone again. -/
theorem fill_cases {holder : Place} {name : String} (free : IsFree site path holder name)
    (wellFormed : site.root.WellFormed) (trouble : Trouble) (content : Utf8.Bytes) :
    let created := site.alter holder (Entries.insert name (temporaryFile site []))
    let filled := site.alter holder (Entries.insert name (temporaryFile site content))
    (∃ cause, trouble.first? = some cause ∧
      fill created trouble ⟨path, site.nextIdentity⟩ content = (.error cause, site)) ∨
    trouble.first? = none ∧
      fill created trouble ⟨path, site.nextIdentity⟩ content = (.ok (), filled) := by
  intro created filled
  have removed : created.remove path = .ok site := free.remove wellFormed []
  unfold fill
  cases trouble.first? with
  | some cause => exact .inl ⟨cause, rfl, by simp [removed, Except.toOption]⟩
  | none =>
    have written : created.writeOpen site.nextIdentity content = filled :=
      site.writeOpen_insert holder name content _
    exact .inr ⟨rfl, by simp [written]⟩

/-- All that can come of writing a temporary config. It fails if no file can be created for it, and with
the first trouble that there is after that. -/
theorem writeTemporary_cases (config : Config) (wellFormed : site.root.WellFormed)
    (trouble : Trouble) (suffixes : Nat → Suffix) (directory : Path) (members : Json.Members) :
    (∃ cause, config.writeTemporary site trouble suffixes directory members =
        (.error (.tempConfigUnwritable directory cause), site) ∧
      (config.createTemporary site suffixes directory = .error cause ∨
        trouble.first? = some cause)) ∨
    ∃ above n holder name, absolute site directory = .ok above ∧
      IsFree site (above.child (config.temporaryName (suffixes n))) holder name ∧
      config.writeTemporary site trouble suffixes directory members =
        (.ok (.new (above.child (config.temporaryName (suffixes n)))),
          site.alter holder
            (Entries.insert name (temporaryFile site (Utf8.encode members.text)))) := by
  rw [writeTemporary]
  cases hcreated : config.createTemporary site suffixes directory with
  | error cause => exact .inl ⟨cause, rfl, .inl rfl⟩
  | ok result =>
    obtain ⟨file, created⟩ := result
    obtain ⟨above, n, path, habove, hpath, rfl, absolute, hcreate⟩ :=
      exists_of_createTemporary hcreated
    obtain ⟨holder, name, vacant, allowed, rfl⟩ := Site.exists_of_create hcreate
    have free : IsFree site path holder name := ⟨absolute, vacant, allowed⟩
    have filling := fill_cases free wellFormed trouble (Utf8.encode members.text)
    dsimp only [temporaryFile] at filling ⊢
    obtain ⟨cause, first, failed⟩ | ⟨-, filled⟩ := filling
    · exact .inl ⟨cause, by rw [failed], .inr first⟩
    · exact .inr ⟨above, n, holder, name, habove, hpath ▸ free, by rw [filled, hpath]⟩

end ScopedCheck.Config
