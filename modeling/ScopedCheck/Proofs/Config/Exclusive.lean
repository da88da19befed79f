import Mathlib.Data.List.TakeWhile
import ScopedCheck.Proofs.Ancestry
import ScopedCheck.Proofs.Config.Writing
import ScopedCheck.Proofs.FileSystem.Entering

namespace ScopedCheck

namespace Path

open Node (IsName)

/-- Whether the second text is the stem of the first: what comes before its last dot, or all of it if
there is no dot but perhaps in front. -/
inductive IsStem : String → String → Prop where
  | whole {name : String} (undotted : '.' ∉ name.toList.tail) : IsStem name name
  | cut {stem extension : String} (full : stem ≠ "") (undotted : '.' ∉ extension.toList) :
      IsStem (stem ++ "." ++ extension) stem

theorem isStem_stemOf (name : String) : IsStem name (stemOf name) := by
  -- The last dot of a name is the first one from its end on.
  have chars := List.takeWhile_append_dropWhile (p := (· ≠ '.')) (l := name.toList.reverse)
  have undotted : '.' ∉ name.toList.reverse.takeWhile (· ≠ '.') := fun mem => by
    simpa using List.mem_takeWhile_imp mem
  unfold stemOf
  dsimp only
  cases behind : name.toList.reverse.dropWhile (· ≠ '.') with
  | nil =>
    rw [behind, List.append_nil] at chars
    rw [chars, List.mem_reverse] at undotted
    exact .whole fun mem => undotted (List.mem_of_mem_tail mem)
  | cons c before =>
    obtain rfl : c = '.' := by
      have first := List.head?_dropWhile_not (· ≠ '.') name.toList.reverse
      rw [behind] at first
      simpa using first
    rw [behind] at chars
    generalize name.toList.reverse.takeWhile (· ≠ '.') = after at chars undotted
    have split : name.toList = before.reverse ++ '.' :: after.reverse := by
      rw [← List.reverse_reverse name.toList, ← chars]
      simp
    split_ifs with empty
    · obtain rfl : before = [] := empty
      exact .whole (by simpa [split] using undotted)
    · have cut : IsStem (String.ofList before.reverse ++ "." ++ String.ofList after.reverse)
          (String.ofList before.reverse) :=
        .cut (by simpa using empty) (by simpa using undotted)
      have whole : String.ofList before.reverse ++ "." ++ String.ofList after.reverse = name := by
        apply String.toList_inj.1
        simp [split]
      rwa [whole] at cut

theorem isName_of_fileName? {path : Path} {name : String} (named : path.fileName? = some name) :
    IsName name := by
  have uncut := uncut_of_fileName? named
  have full := head?_skipIdle path.upward
  unfold fileName? at named
  split at named
  · simp at named
  · next segment above skipped =>
    rw [skipped] at full
    split_ifs at named with dots
    obtain rfl := Option.some.inj named
    exact ⟨by simpa using full, fun dot => dots (.inl dot), fun up => dots (.inr up), uncut⟩

theorem IsStem.ne_empty {name stem : String} (isStem : IsStem name stem) (full : name ≠ "") :
    stem ≠ "" := by
  cases isStem with
  | whole undotted => exact full
  | cut full' undotted => exact full'

end Path

namespace Config

variable {site : Site}

/-- Whether the stem of a config is the one that its path has, or the usual one if the path has no name. -/
theorem stem_cases (config : Config) :
    (config.path.fileName? = none ∧ config.stem = "tsconfig") ∨
      ∃ name, config.path.fileName? = some name ∧ Path.IsStem name config.stem := by
  rw [stem, Path.stem?]
  cases named : config.path.fileName? with
  | none => exact .inl ⟨rfl, rfl⟩
  | some name => exact .inr ⟨name, rfl, Path.isStem_stemOf name⟩

theorem stem_ne_empty (config : Config) : config.stem ≠ "" := by
  obtain ⟨-, usual⟩ | ⟨name, named, isStem⟩ := config.stem_cases
  · rw [usual]
    decide
  · exact isStem.ne_empty (Path.isName_of_fileName? named).1

/-- Whether a site comes from another one by adding a file to a directory. -/
structure AddsFile (site : Site) (holder : Place) (name : String) (content : Utf8.Bytes)
    (site' : Site) : Prop where
  folder : ∃ entries mode, site.root.at? holder = some (.directory entries mode)
  free : site.root.at? (holder ++ [name]) = none
  added : ∃ attributes, attributes.kind = .regular ∧
    site'.root.at? (holder ++ [name]) = some (.file content attributes)
  rest : ∀ place, place ≠ holder ++ [name] → site'.root.faceAt? place = site.root.faceAt? place

theorem IsFree.addsFile {path : Path} {holder : Place} {name : String}
    (free : IsFree site path holder name) (content : Utf8.Bytes) :
    AddsFile site holder name content
      (site.alter holder (Entries.insert name (temporaryFile site content))) := by
  obtain ⟨entries, mode, folder, vacant⟩ := Site.exists_of_locate_vacant free.absolute free.vacant
  refine ⟨⟨entries, mode, folder⟩, ?_, ⟨_, rfl, Site.at?_insert free.absolute free.vacant _ _⟩, ?_⟩
  · rw [Node.at?_child folder, vacant]
  · intro place away
    exact (Node.faceAt?_insert folder vacant _ _ place).trans (if_neg away)

theorem IsFree.locate {path : Path} {holder : Place} {name : String}
    (free : IsFree site path holder name) (content : Utf8.Bytes) (followLast : Bool) :
    (site.alter holder (Entries.insert name (temporaryFile site content))).locate followLast path =
      .ok (.existing (holder ++ [name])) :=
  Site.locate_insert free.absolute free.vacant content _ followLast

/-- The directory of a temporary config is the one that was given. -/
theorem leadsTo_of_vacant {directory above : Path} {name leaf : String} {holder : Place}
    (wellFormed : site.WellFormed) (given : absolute site directory = .ok above)
    (isName : Node.IsName name)
    (vacant : site.locate false (above.child name) = .ok (.vacant holder leaf)) :
    site.LeadsTo directory holder ∧ leaf = name := by
  obtain ⟨located, same⟩ := Site.locate_of_child_vacant (isAbsolute_absolute given) isName vacant
  refine ⟨?_, same⟩
  rw [absolute] at given
  split_ifs at given with isAbsolute
  · obtain rfl := Except.ok.inj given
    rw [Site.LeadsTo, if_neg (Path.text_ne_of_isAbsolute isAbsolute)]
    exact located
  · cases here : site.directory with
    | none => simp [Site.directoryPath, here, Except.map] at given
    | some place =>
      obtain ⟨entries, mode, folder⟩ := wellFormed.here place here
      obtain rfl : (Path.ofNames place).join directory = above := by
        simpa [Site.directoryPath, here, Except.map] using given
      exact Site.leadsTo_of_join wellFormed.tree here folder (by simpa using isAbsolute) located

/-- Writing a temporary config adds one file with the members to the directory, under a free name that
is made of the stem of the config's path, and hands out the guard that owns this file; or it fails and
the files are as they were. It only fails if no file can be created, or else with the first trouble. -/
theorem writeTemporary_exclusive (config : Config) (wellFormed : site.WellFormed) (trouble : Trouble)
    (suffixes : Nat → Suffix) (directory : Path) (members : Json.Members) :
    (config.stem ≠ "" ∧ '/' ∉ config.stem.toList ∧
      ((config.path.fileName? = none ∧ config.stem = "tsconfig") ∨
        ∃ name, config.path.fileName? = some name ∧ Path.IsStem name config.stem)) ∧
    (∀ guard site', config.writeTemporary site trouble suffixes directory members = (.ok guard, site') →
      ∃ holder name n, site.LeadsTo directory holder ∧
        name = config.stem ++ "." ++ String.ofList (suffixes n).chars ++ ".json" ∧
        (suffixes n).chars.length = 10 ∧ (∀ c ∈ (suffixes n).chars, c.isAlphanum) ∧
        AddsFile site holder name (Utf8.encode members.text) site' ∧
        guard.released = false ∧
        site'.locate false guard.path = .ok (.existing (holder ++ [name])) ∧
        guard.release site' = (true, { guard with released := true }, site)) ∧
    ∀ failure site', config.writeTemporary site trouble suffixes directory members =
        (.error failure, site') →
      (∃ cause, failure = .tempConfigUnwritable directory cause ∧
        (config.createTemporary site suffixes directory = .error cause ∨
          trouble.first? = some cause)) ∧
      site' = site := by
  refine ⟨⟨config.stem_ne_empty, config.uncut_stem, config.stem_cases⟩, ?_, ?_⟩
  · intro guard site' written
    obtain ⟨cause, failed, -⟩ | ⟨above, n, holder, leaf, given, free, done⟩ :=
      config.writeTemporary_cases wellFormed.tree trouble suffixes directory members
    · rw [failed] at written
      simp at written
    · rw [done] at written
      obtain ⟨rfl, rfl⟩ : _ = guard ∧ _ = site' := by simpa using written
      obtain ⟨leads, rfl⟩ := leadsTo_of_vacant wellFormed given
        (config.isName_temporaryName (suffixes n)) free.vacant
      refine ⟨holder, config.temporaryName (suffixes n), n, leads, rfl, (suffixes n).length_eq,
        (suffixes n).isAlphanum_of_mem, free.addsFile _, rfl, ?_, ?_⟩
      · dsimp only [Guard.new]
        exact free.locate _ false
      · simp [Guard.release, Guard.new, Remover.attempt, free.remove wellFormed.tree]
  · intro failure site' written
    obtain ⟨cause, failed, reason⟩ | ⟨above, n, holder, leaf, -, -, done⟩ :=
      config.writeTemporary_cases wellFormed.tree trouble suffixes directory members
    · rw [failed] at written
      obtain ⟨rfl, rfl⟩ : _ = failure ∧ _ = site' := by simpa using written
      exact ⟨⟨cause, rfl, reason⟩, rfl⟩
    · rw [done] at written
      simp at written

/-- A directory with a file and perhaps a temporary config of nearly the same name. -/
def crowdedSite (config : Entries) : Site where
  root := .directory [("w", .directory ((".hidden.json", .file [7] {}) :: config))]
  directory := some ["w"]

theorem wellFormed_crowdedSite : (crowdedSite []).WellFormed := by
  have inner : (Node.directory [(".hidden.json", .file [7] {})]).WellFormed :=
    .directory _ (by decide) (by simp [Node.IsName]) (by simpa using .file _ _)
  constructor
  · exact .directory _ (by decide) (by simp [Node.IsName]) (by simpa using inner)
  · intro place here
    obtain rfl : ["w"] = place := Option.some.inj here
    exact ⟨_, _, rfl⟩

def hiddenPath : Path := ⟨"/w/.hidden.0000000000.json"⟩

/-- The file of that name. -/
def hiddenFile (content : Utf8.Bytes) : Entries :=
  [(".hidden.0000000000.json", .file content { mode := temporaryMode, identity := 1 })]

theorem writeTemporary_exclusive_hidden :
    (⟨⟨"conf/.hidden/."⟩, []⟩ : Config).writeTemporary (crowdedSite []) {} Suffix.ofNat ⟨"/w/"⟩ [] =
      (.ok (.new hiddenPath), crowdedSite (hiddenFile (Utf8.encode (Json.Members.text [])))) ∧
    ∃ holder name, (crowdedSite []).LeadsTo ⟨"/w/"⟩ holder ∧
      AddsFile (crowdedSite []) holder name (Utf8.encode (Json.Members.text []))
        (crowdedSite (hiddenFile (Utf8.encode (Json.Members.text [])))) := by
  have named : Path.child ⟨"/w/"⟩
      ((⟨⟨"conf/.hidden/."⟩, []⟩ : Config).temporaryName (Suffix.ofNat 0)) = hiddenPath := by
    decide +kernel
  have created : (crowdedSite []).create hiddenPath [] temporaryMode =
      .ok (crowdedSite (hiddenFile [])) := rfl
  have written : (⟨⟨"conf/.hidden/."⟩, []⟩ : Config).writeTemporary (crowdedSite []) {} Suffix.ofNat
      ⟨"/w/"⟩ [] =
        (.ok (.new hiddenPath), crowdedSite (hiddenFile (Utf8.encode (Json.Members.text [])))) :=
    writeTemporary_of_free (by decide) named created rfl
  obtain ⟨-, adds, -⟩ := writeTemporary_exclusive ⟨⟨"conf/.hidden/."⟩, []⟩ wellFormed_crowdedSite {}
    Suffix.ofNat ⟨"/w/"⟩ []
  obtain ⟨holder, name, n, leads, -, -, -, added, -⟩ := adds _ _ written
  exact ⟨written, holder, name, leads, added⟩

end Config

end ScopedCheck
