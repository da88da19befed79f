import Mathlib.Tactic
import ScopedCheck.Config.Temporary
import ScopedCheck.Proofs.Except

namespace ScopedCheck

namespace Path

theorem isAbsolute_iff {p : Path} : p.isAbsolute ↔ p.text.toList.head? = some '/' := by
  simp [isAbsolute]

theorem isAbsolute_append {p : Path} (h : p.isAbsolute) (text : String) :
    (⟨p.text ++ text⟩ : Path).isAbsolute := by
  rw [isAbsolute_iff] at h ⊢
  rw [String.toList_append, List.head?_append, h]
  rfl

theorem isAbsolute_join {p : Path} (h : p.isAbsolute) (q : Path) : (p.join q).isAbsolute := by
  unfold join
  split_ifs with other
  · obtain other | empty := Bool.or_eq_true_iff.1 other
    · exact other
    · simp [isAbsolute, of_decide_eq_true empty] at h
  · exact isAbsolute_append h q.text
  · rw [String.append_assoc]
    exact isAbsolute_append h _

theorem isAbsolute_ofNames (names : List String) : (ofNames names).isAbsolute := by
  cases names with
  | nil => decide
  | cons name names =>
    have longer (texts : List String) {p : Path} (h : p.isAbsolute) :
        (⟨texts.foldl (· ++ ·) p.text⟩ : Path).isAbsolute := by
      induction texts generalizing p with
      | nil => exact h
      | cons text texts ih => exact ih (isAbsolute_append h text)
    exact longer (names.map ("/" ++ ·)) (p := ⟨"" ++ ("/" ++ name)⟩) (by simp [isAbsolute_iff])

end Path

namespace Config

theorem exists_of_createEmpty {site site' : Site} {path : Path} {file : OpenFile}
    (h : createEmpty site path = .ok (file, site')) :
    file = ⟨path, site.nextIdentity⟩ ∧ site.create path [] temporaryMode = .ok site' := by
  unfold createEmpty at h
  cases created : site.create path [] temporaryMode with
  | error cause => simp [created, Except.map] at h
  | ok site'' =>
    rw [created] at h
    obtain ⟨rfl, rfl⟩ := Prod.mk.inj (Except.ok.inj h)
    exact ⟨rfl, rfl⟩

theorem exists_of_createFree {site site' : Site} {directory : Path} {name : Nat → String}
    {attempts next : Nat} {file : OpenFile}
    (h : createFree site directory name attempts next = .ok (file, site')) :
    ∃ n, createEmpty site (directory.child (name n)) = .ok (file, site') := by
  induction attempts generalizing next with
  | zero =>
    unfold createFree at h
    simp at h
  | succ attempts ih =>
    unfold createFree at h
    split at h
    · next made => exact ⟨next, made.trans h⟩
    · exact ih h
    · simp at h

theorem createFree_of_free {site created : Site} {directory : Path} {name : Nat → String}
    {attempts next : Nat} (left : 0 < attempts)
    (free : site.create (directory.child (name next)) [] temporaryMode = .ok created) :
    createFree site directory name attempts next =
      .ok (⟨directory.child (name next), site.nextIdentity⟩, created) := by
  obtain ⟨attempts, rfl⟩ := Nat.exists_eq_add_one_of_ne_zero left.ne'
  unfold createFree
  simp only [createEmpty, free, Except.map]

theorem isAbsolute_absolute {site : Site} {directory path : Path}
    (h : absolute site directory = .ok path) : path.isAbsolute := by
  unfold absolute at h
  split_ifs at h with given
  · obtain rfl := Except.ok.inj h
    exact given
  · unfold Site.directoryPath at h
    cases hd : site.directory with
    | none => simp [hd, Except.map] at h
    | some place =>
      obtain rfl : (Path.ofNames place).join directory = path := by
        simpa [hd, Except.map] using h
      exact Path.isAbsolute_join (Path.isAbsolute_ofNames place) directory

theorem eq_notFound_of_absolute {site : Site} {directory : Path} {cause : Fault}
    (failed : absolute site directory = .error cause) : cause = .notFound := by
  rw [absolute] at failed
  split_ifs at failed
  rw [Site.directoryPath] at failed
  cases h : site.directory <;> simp [h, Except.map] at failed
  exact failed.symm

/-- A temporary file is created under one of the names, in the directory as an absolute path. -/
theorem exists_of_createTemporary {config : Config} {site site' : Site} {suffixes : Nat → Suffix}
    {directory : Path} {file : OpenFile}
    (h : config.createTemporary site suffixes directory = .ok (file, site')) :
    ∃ above n path, absolute site directory = .ok above ∧
      path = above.child (config.temporaryName (suffixes n)) ∧ file = ⟨path, site.nextIdentity⟩ ∧
      path.isAbsolute ∧ site.create path [] temporaryMode = .ok site' := by
  rw [createTemporary] at h
  obtain ⟨above, habove, hfree⟩ := exists_of_bind_eq_ok h
  obtain ⟨n, hcreated⟩ := exists_of_createFree hfree
  obtain ⟨rfl, created⟩ := exists_of_createEmpty hcreated
  have joined : (above.child (config.temporaryName (suffixes n))).isAbsolute :=
    Path.isAbsolute_join (isAbsolute_absolute habove) _
  exact ⟨above, n, _, habove, rfl, rfl, joined, created⟩

/-- The guard of a temporary config is a new one on an absolute path. -/
theorem guard_of_writeTemporary {config : Config} {site site' : Site} {trouble : Trouble}
    {suffixes : Nat → Suffix} {directory : Path} {members : Json.Members} {guard : Guard}
    (h : config.writeTemporary site trouble suffixes directory members = (.ok guard, site')) :
    guard = .new guard.path ∧ guard.path.isAbsolute := by
  rw [writeTemporary] at h
  cases hcreated : config.createTemporary site suffixes directory with
  | error cause => simp [hcreated] at h
  | ok result =>
    obtain ⟨file, created⟩ := result
    obtain ⟨above, n, path, -, -, rfl, absolute, -⟩ := exists_of_createTemporary hcreated
    rw [hcreated] at h
    dsimp only at h
    generalize fill created trouble _ (Utf8.encode members.text) = filled at h
    obtain ⟨_ | _, _⟩ := filled
    · simp at h
    · obtain ⟨rfl, -⟩ : Guard.new path = guard ∧ _ := by simpa using h
      exact ⟨rfl, absolute⟩

/-- A temporary config gets the first name if that is free. -/
theorem writeTemporary_of_free {config : Config} {site created site' : Site}
    {suffixes : Nat → Suffix} {directory path : Path} {members : Json.Members}
    (given : directory.isAbsolute)
    (named : directory.child (config.temporaryName (suffixes 0)) = path)
    (free : site.create path [] temporaryMode = .ok created)
    (filled : created.writeOpen site.nextIdentity (Utf8.encode members.text) = site') :
    config.writeTemporary site {} suffixes directory members = (.ok (.new path), site') := by
  have hfree : createFree site directory (fun n => config.temporaryName (suffixes n)) maxAttempts 0 =
      .ok (⟨path, site.nextIdentity⟩, created) := by
    subst named
    exact createFree_of_free (by decide) free
  have hcreated : config.createTemporary site suffixes directory =
      .ok (⟨path, site.nextIdentity⟩, created) := by
    rw [createTemporary, absolute, if_pos given]
    simp only [bind, Except.bind, hfree]
  simp [writeTemporary, hcreated, fill, Trouble.first?, filled]

end Config

end ScopedCheck
