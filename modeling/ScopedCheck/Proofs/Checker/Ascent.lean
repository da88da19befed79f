import ScopedCheck.Proofs.Checker.Precedence
import ScopedCheck.Proofs.FileSystem.Direct

namespace ScopedCheck

namespace Path

variable {p q r : Path} {m n : Nat}

/-- What is above the last component is nothing, or it has fewer steps. -/
theorem steps_of_above {reversed first : List String} {more : List (List String)}
    (there : above reversed = first :: more) :
    first = [] ∨ (first.filter isStep).length < (reversed.filter isStep).length := by
  induction reversed with
  | nil => simp [above] at there
  | cons segment rest ih =>
    rw [above] at there
    split_ifs at there with component
    · obtain ⟨rfl, -⟩ := List.cons.inj there
      obtain rfl | some := eq_or_ne rest []
      · exact .inl rfl
      · have step : isStep segment := by simpa [isComponent, some, isStep] using component
        have kept := ((skipIdle_suffix rest).sublist.filter isStep).length_le
        rw [List.filter_cons_of_pos step, List.length_cons]
        exact .inr (by omega)
    · have longer := ((List.sublist_cons_self segment rest).filter isStep).length_le
      exact (ih there).imp_right fun less => less.trans_le longer

theorem isAbsolute_ofUpward_nil (absolute : Bool) : (ofUpward absolute []).isAbsolute = absolute := by
  cases absolute <;> decide

theorem names_ofUpward_nil (absolute : Bool) : (ofUpward absolute []).names = [] := by
  cases absolute <;> decide

/-- The parent starts where the path does and makes the first of its steps, and fewer of them if it has
a parent itself. -/
theorem parent?_spec (up : p.parent? = some q) :
    q.isAbsolute = p.isAbsolute ∧ q.names <+: p.names ∧
      (q.parent? = none ∨ q.names.length < p.names.length) := by
  obtain ⟨first, there, rfl⟩ := Option.map_eq_some_iff.1 up
  obtain ⟨more, there⟩ := List.head?_eq_some_iff.1 there
  obtain ⟨suffix, named, -⟩ := above_eq_cons there
  obtain rfl | some := eq_or_ne first []
  · rw [isAbsolute_ofUpward_nil, names_ofUpward_nil, parent?, above_upward_ofUpward_nil]
    exact ⟨rfl, List.nil_prefix, .inl rfl⟩
  · have names : (ofUpward p.isAbsolute first).names = first.reverse.filter isStep := by
      rw [Path.names, segments_ofUpward some (uncut_of_suffix suffix)]
    have names' : p.names = p.upward.reverse.filter isStep := by
      rw [upward, List.reverse_reverse, Path.names]
    have fewer := (steps_of_above there).resolve_left some
    rw [isAbsolute_ofUpward some named suffix, names, names']
    refine ⟨rfl, (List.reverse_prefix.2 suffix).filter isStep, .inr ?_⟩
    rwa [List.filter_reverse, List.filter_reverse, List.length_reverse, List.length_reverse]

theorem up?_add (m n : Nat) (p : Path) : p.up? (m + n) = (p.up? m).bind (up? n) := by
  induction m generalizing p with
  | zero => rw [Nat.zero_add]; rfl
  | succ m ih =>
    rw [Nat.succ_add, up?, up?]
    cases p.parent? with
    | none => rfl
    | some q => exact ih q

theorem prefix_of_up? (up : p.up? n = some q) : q.isAbsolute = p.isAbsolute ∧ q.names <+: p.names := by
  induction n generalizing p with
  | zero =>
    obtain rfl := Option.some.inj up
    exact ⟨rfl, List.prefix_rfl⟩
  | succ n ih =>
    obtain ⟨r, above, up⟩ := Option.bind_eq_some_iff.1 up
    obtain ⟨absolute, names, -⟩ := parent?_spec above
    obtain ⟨absolute', names'⟩ := ih up
    exact ⟨absolute'.trans absolute, names'.trans names⟩

/-- Only the last parent may make as many steps as the path, since a dot in front is no step. -/
theorem length_names_lt (up : p.up? (n + 2) = some q) : q.names.length < p.names.length := by
  obtain ⟨r, above, up⟩ := Option.bind_eq_some_iff.1 up
  have fewer := (parent?_spec above).2.2.resolve_left fun last => by simp [up?, last] at up
  exact (prefix_of_up? up).2.length_le.trans_lt fewer

theorem length_ancestors_of_up? (up : p.up? n = some q) :
    p.ancestors.length = n + q.ancestors.length := by
  induction n generalizing p with
  | zero =>
    obtain rfl := Option.some.inj up
    rw [Nat.zero_add]
  | succ n ih =>
    obtain ⟨r, above, up⟩ := Option.bind_eq_some_iff.1 up
    rw [ancestors_eq, above, Option.map_some, Option.getD_some, List.length_cons, ih up]
    omega

theorem length_above_le (reversed : List String) : (above reversed).length ≤ reversed.length := by
  induction reversed with
  | nil => exact Nat.le_refl 0
  | cons segment rest ih =>
    rw [above]
    split_ifs <;> simp only [List.length_cons] <;> omega

theorem length_ancestors_le (p : Path) : p.ancestors.length ≤ p.segments.length + 1 := by
  have levels := length_above_le p.upward
  rw [upward, List.length_reverse] at levels
  simpa [ancestors, upward] using levels

/-- Whether one passes a directory on the way up from one to another. -/
def IsOnWay (start top directory : Path) : Prop :=
  ∃ m n, start.up? m = some directory ∧ directory.up? n = some top

theorem IsOnWay.exists_up? (way : IsOnWay p q r) (other : r ≠ q) : ∃ n, r.up? (n + 1) = some q := by
  obtain ⟨m, n, -, above⟩ := way
  cases n with
  | zero => exact absurd (Option.some.inj above) other
  | succ n => exact ⟨n, above⟩

/-- Between a path and its parent there is nothing. -/
theorem IsOnWay.eq_or_eq (up : p.parent? = some q) (way : IsOnWay p q r) : r = p ∨ r = q := by
  obtain ⟨m, n, below, above⟩ := way
  have step : p.up? 1 = some q := by rw [up?, up]; rfl
  have levels := length_ancestors_of_up? step
  have levels' := length_ancestors_of_up? below
  have levels'' := length_ancestors_of_up? above
  obtain rfl | rfl : m = 0 ∨ n = 0 := by omega
  · exact .inl (Option.some.inj below).symm
  · exact .inr (Option.some.inj above)

end Path

namespace Checker

variable {site site' : Site} {name : String} {start directory nearer farther : Path} {n : Nat}

/-- The search for a package as it goes on, one directory in each round; it may not end in so many
rounds. -/
def ascend (site : Site) (name : String) : Nat → Option Path → Option (Option Path)
  | _, none => some none
  | 0, some _ => none
  | rounds + 1, some directory =>
    if isPackage site (packageIn directory name) then some (some (packageIn directory name))
    else ascend site name rounds directory.parent?

theorem findPackage_eq (site : Site) (name : String) (start : Path) : findPackage site name start =
    if isPackage site (packageIn start name) then some (packageIn start name)
    else start.parent?.bind (findPackage site name) := by
  rw [findPackage, Path.ancestors_eq, List.map_cons, List.find?_cons]
  cases isPackage site (packageIn start name) with
  | true => rfl
  | false => cases start.parent? <;> rfl

theorem ascend_eq (site : Site) (name : String) {rounds : Nat} {start : Path}
    (enough : start.ancestors.length ≤ rounds) :
    ascend site name rounds (some start) = some (findPackage site name start) := by
  induction rounds generalizing start with
  | zero => simp [Path.ancestors] at enough
  | succ rounds ih =>
    rw [ascend, findPackage_eq]
    split_ifs
    · rfl
    · rw [Path.ancestors_eq] at enough
      cases above : start.parent? with
      | none => cases rounds <;> rfl
      | some directory =>
        rw [above] at enough
        exact ih (by simpa using enough)

theorem findPackage_eq_none_iff : findPackage site name start = none ↔
    ∀ n directory, start.up? n = some directory →
      isPackage site (packageIn directory name) = false := by
  rw [findPackage, List.find?_eq_none, List.forall_mem_map]
  simp only [List.mem_iff_getElem?, Path.getElem?_ancestors, forall_exists_index, Bool.not_eq_true]
  exact forall_comm

/-- A directory below the nearest one that has the package does not have it. -/
theorem IsNearest.not_isPackage (nearest : IsNearest site name start directory)
    (way : Path.IsOnWay start directory nearer) (other : nearer ≠ directory) :
    isPackage site (packageIn nearer name) = false := by
  obtain ⟨n, there, -, without⟩ := nearest
  obtain ⟨k, further⟩ := way.exists_up? other
  obtain ⟨m, -, here, -⟩ := way
  have levels := Path.length_ancestors_of_up? there
  have levels' := Path.length_ancestors_of_up? here
  have levels'' := Path.length_ancestors_of_up? further
  exact without m (by omega) nearer here

theorem IsNearest.isPackage (nearest : IsNearest site name start directory) :
    isPackage site (packageIn directory name) := by
  obtain ⟨n, -, package, -⟩ := nearest
  exact package

theorem isNearest_parent (above : start.parent? = some directory)
    (package : isPackage site (packageIn directory name))
    (bare : isPackage site (packageIn start name) = false) :
    IsNearest site name start directory := by
  refine ⟨1, by rw [Path.up?, above]; rfl, package, fun m less nearer here => ?_⟩
  obtain rfl : m = 0 := by omega
  obtain rfl := Option.some.inj here
  exact bare

/-- Nothing counts but which of the directories up to the nearest one have the package. -/
theorem findPackage_of_same (nearest : IsNearest site name start directory)
    (same : ∀ nearer, Path.IsOnWay start directory nearer →
      isPackage site' (packageIn nearer name) = isPackage site (packageIn nearer name)) :
    findPackage site' name start = findPackage site name start := by
  have nearest' : IsNearest site' name start directory := by
    obtain ⟨n, there, package, without⟩ := nearest
    refine ⟨n, there, ?_, fun m less nearer here => ?_⟩
    · rwa [same directory ⟨n, 0, there, rfl⟩]
    · have further : start.up? (m + (n - m)) = some directory := by
        rwa [Nat.add_sub_cancel' less.le]
      rw [Path.up?_add, here, Option.bind_some] at further
      rw [same nearer ⟨m, n - m, here, further⟩]
      exact without m less nearer here
  rw [findPackage_eq_some_iff.2 ⟨directory, nearest, rfl⟩,
    findPackage_eq_some_iff.2 ⟨directory, nearest', rfl⟩]

/-- What makes a directory have a package. -/
def manifest (directory : Path) (name : String) : Path :=
  (packageIn directory name).child "package.json"

/-- The steps from a directory to the manifest of a package in it. -/
def manifestNames (name : String) : List String :=
  "node_modules" :: ((⟨name⟩ : Path).names ++ ["package.json"])

/-- Whether two sites look the same but for what is beside the way to a directory. -/
structure SameAround (site site' : Site) (directory : Path) : Prop where
  here : site'.directory = site.directory
  domain : site'.domain = site.domain
  same : ∀ here, site.origin? directory = some here → ∀ place,
    place <+: here ++ directory.names ∨ here ++ directory.names <+: place →
      site'.root.faceAt? place = site.root.faceAt? place

/-- Whether a package is added in a directory. All that was there is still there, a current directory that
was removed does not come back, and no other package of that name comes with the one. -/
structure AddsPackage (site site' : Site) (directory : Path) (name : String) : Prop where
  here : site'.directory = site.directory
  domain : site'.domain = site.domain
  kept : site.root.IsWithin site'.root
  still : ∀ here ∈ site.directory, Node.SameAlong site.root site'.root [] here
  added : isPackage site' (packageIn directory name)
  only : ∀ place, site.root.faceAt? place = none → (site'.root.faceAt? place).isSome →
    manifestNames name <:+ place → ∃ here, site.origin? directory = some here ∧
      place = here ++ directory.names ++ manifestNames name

section Relative

variable (relative : (⟨name⟩ : Path).isAbsolute = false)

include relative

theorem names_manifest (directory : Path) :
    (manifest directory name).names = directory.names ++ manifestNames name := by
  have first : (⟨"node_modules"⟩ : Path).names = ["node_modules"] := by decide
  have last : (⟨"package.json"⟩ : Path).names = ["package.json"] := by decide
  rw [manifest, packageIn, Path.child, Path.child, Path.names_join _ (by decide),
    Path.names_join _ relative, Path.names_join _ (by decide), first, last]
  simp [manifestNames]

theorem origin?_manifest (site : Site) (directory : Path) :
    site.origin? (manifest directory name) = site.origin? directory := by
  rw [Site.origin?, manifest, packageIn, Path.child, Path.child,
    Path.isAbsolute_join_of_relative _ (by decide), Path.isAbsolute_join_of_relative _ relative,
    Path.isAbsolute_join_of_relative _ (by decide), Site.origin?]

/-- What is beside the way to a directory has no part in what is found there and below. -/
theorem isPackage_of_sameAround (around : SameAround site site' directory)
    (way : Path.IsOnWay start directory nearer) (direct : site.IsDirect (manifest nearer name)) :
    isPackage site' (packageIn nearer name) = isPackage site (packageIn nearer name) := by
  obtain ⟨m, n, -, further⟩ := way
  obtain ⟨absolute, ⟨below, names⟩⟩ := Path.prefix_of_up? further
  refine Site.isFile_of_sameAlong direct around.here around.domain fun here origin => ?_
  intro down shorter
  have origin' : site.origin? directory = some here := by
    rwa [← manifest, origin?_manifest relative, Site.origin?, ← absolute] at origin
  apply around.same here origin'
  rw [← manifest, names_manifest relative, ← names, List.append_assoc] at shorter
  rw [List.prefix_append_right_inj, List.prefix_append_right_inj]
  exact List.prefix_or_prefix_of_prefix shorter (List.prefix_append _ _)

/-- Where there is a manifest of another directory there was one before. -/
theorem isSome_of_addsPackage (adds : AddsPackage site site' farther name)
    (absolute : farther.isAbsolute = nearer.isAbsolute) (other : farther.names ≠ nearer.names)
    {here : Place} (origin : site'.origin? (manifest nearer name) = some here)
    (seen : (site'.root.faceAt? (here ++ (manifest nearer name).names)).isSome) :
    (site.root.faceAt? (here ++ (manifest nearer name).names)).isSome := by
  rw [Option.isSome_iff_ne_none]
  intro fresh
  rw [names_manifest relative, ← List.append_assoc] at fresh seen
  obtain ⟨here', origin', same⟩ := adds.only _ fresh seen (List.suffix_append _ _)
  rw [origin?_manifest relative, Site.origin?, adds.here, ← absolute] at origin
  obtain rfl : here = here' := Option.some.inj (origin.symm.trans origin')
  rw [List.append_cancel_right_eq, List.append_cancel_left_eq] at same
  exact other same.symm

/-- A package that is added farther up is not found below the nearest one. -/
theorem isPackage_of_addsPackage (up : directory.up? (n + 1) = some farther)
    (adds : AddsPackage site site' farther name) (nearest : IsNearest site name start directory)
    (way : Path.IsOnWay start directory nearer) (other : nearer ≠ directory)
    (direct : site'.IsDirect (manifest nearer name)) :
    isPackage site' (packageIn nearer name) = false := by
  have without : site.isFile (manifest nearer name) = false := nearest.not_isPackage way other
  obtain ⟨k, further⟩ := way.exists_up? other
  have whole : nearer.up? (k + n + 2) = some farther := by
    have sum : k + n + 2 = k + 1 + (n + 1) := by omega
    rw [sum, Path.up?_add, further, Option.bind_some, up]
  have names : farther.names ≠ nearer.names := by
    intro same
    have fewer := Path.length_names_lt whole
    simp [same] at fewer
  rw [Bool.eq_false_iff]
  intro package
  obtain ⟨here, origin, seen⟩ := Site.exists_of_isFile direct package
  have before := isSome_of_addsPackage relative adds (Path.prefix_of_up? whole).1 names origin seen
  have same := Site.isFile_of_sameAlong direct adds.here.symm adds.domain.symm fun here' origin' => by
    obtain rfl : here = here' := Option.some.inj (origin.symm.trans origin')
    exact (Node.sameAlong_of_isWithin adds.kept before).symm
  rw [without] at same
  exact Bool.false_ne_true (same.trans package)

end Relative

theorem AddsPackage.isPackage (adds : AddsPackage site site' farther name)
    (package : Checker.isPackage site (packageIn directory name)) :
    Checker.isPackage site' (packageIn directory name) := by
  refine Site.isFile_of_isWithin adds.kept adds.here adds.domain (fun here origin => ?_) package
  rw [Site.origin?] at origin
  split_ifs at origin
  · obtain rfl : [] = here := Option.some.inj origin
    exact Node.sameAlong_of_isWithin adds.kept rfl
  · exact adds.still here origin

theorem packageIn_of_isAbsolute (absolute : (⟨name⟩ : Path).isAbsolute) (directory : Path) :
    packageIn directory name = ⟨name⟩ := by
  rw [packageIn, Path.join, absolute, Bool.true_or, if_pos rfl]

theorem findPackage_of_addsPackage (up : directory.up? (n + 1) = some farther)
    (adds : AddsPackage site site' farther name) (nearest : IsNearest site name start directory)
    (direct : ∀ nearer, Path.IsOnWay start directory nearer → nearer ≠ directory →
      site'.IsDirect (manifest nearer name)) :
    findPackage site' name start = findPackage site name start := by
  refine findPackage_of_same nearest fun nearer way => ?_
  have package := nearest.isPackage
  obtain rfl | other := eq_or_ne nearer directory
  · rw [package, adds.isPackage package]
  have without := nearest.not_isPackage way other
  cases absolute : (⟨name⟩ : Path).isAbsolute with
  | true =>
    rw [packageIn_of_isAbsolute absolute] at package without
    exact absurd package (by simp [without])
  | false =>
    rw [without, isPackage_of_addsPackage absolute up adds nearest way other (direct nearer way other)]

/-- The search ends, and it gives the package of the nearest directory or nothing if there is no such
directory. What is found depends on nothing but which directories up to the nearest one have the package;
what is farther up makes no difference to it unless one comes there by a link or a step up. -/
theorem findPackage_nearest (site : Site) (name : String) (start : Path) :
    (∀ rounds, start.segments.length < rounds →
      ascend site name rounds (some start) = some (findPackage site name start)) ∧
    (∀ package, findPackage site name start = some package ↔
      ∃ directory, IsNearest site name start directory ∧ packageIn directory name = package) ∧
    (findPackage site name start = none ↔ ∀ n directory, start.up? n = some directory →
      isPackage site (packageIn directory name) = false) ∧
    ∀ directory, IsNearest site name start directory → ∀ site' : Site,
      ((∀ nearer, Path.IsOnWay start directory nearer →
          isPackage site' (packageIn nearer name) = isPackage site (packageIn nearer name)) →
        findPackage site' name start = findPackage site name start) ∧
      ((⟨name⟩ : Path).isAbsolute = false → SameAround site site' directory →
          (∀ nearer, Path.IsOnWay start directory nearer → site.IsDirect (manifest nearer name)) →
        findPackage site' name start = findPackage site name start) ∧
      ∀ n farther, directory.up? (n + 1) = some farther → AddsPackage site site' farther name →
          (∀ nearer, Path.IsOnWay start directory nearer → nearer ≠ directory →
            site'.IsDirect (manifest nearer name)) →
        findPackage site' name start = findPackage site name start := by
  refine ⟨?_, fun package => findPackage_eq_some_iff, findPackage_eq_none_iff, ?_⟩
  · intro rounds more
    have levels := start.length_ancestors_le
    exact ascend_eq site name (by omega)
  intro directory nearest site'
  refine ⟨findPackage_of_same nearest, ?_, ?_⟩
  · intro relative around direct
    exact findPackage_of_same nearest fun nearer way =>
      isPackage_of_sameAround relative around way (direct nearer way)
  · intro n farther up adds direct
    exact findPackage_of_addsPackage up adds nearest direct

/-- A directory in which there is room for a package, one below it that has the package, and one below
that with these entries. -/
def nestedFolders (inner : Entries) : Site where
  root := .directory [("w", .directory [
    ("node_modules", .directory [("x", .directory [])]),
    ("a", .directory [("node_modules", .directory [("x", .directory [("package.json", .file [] {})])]),
      ("b", .directory inner)])])]
  directory := some ["w"]

/-- The same with a manifest in the first of these directories. -/
def filledFolders (inner : Entries) : Site :=
  (nestedFolders inner).alter ["w", "node_modules", "x"] (Entries.insert "package.json" (.file [] {}))

theorem faceAt?_filledFolders (inner : Entries) (place : Place) :
    (filledFolders inner).root.faceAt? place =
      if place = ["w", "node_modules", "x", "package.json"] then some (.file [] {})
      else (nestedFolders inner).root.faceAt? place := by
  have room : (nestedFolders inner).root.at? ["w", "node_modules", "x"] =
      some (.directory [] 0o755) := rfl
  exact Node.faceAt?_alter_insert room (by simp [Entries.get?]) rfl place

theorem addsPackage_filledFolders (inner : Entries)
    (added : isPackage (filledFolders inner) (packageIn ⟨"/w"⟩ "x")) :
    AddsPackage (nestedFolders inner) (filledFolders inner) ⟨"/w"⟩ "x" := by
  have free : (nestedFolders inner).root.faceAt? ["w", "node_modules", "x", "package.json"] =
      none := rfl
  have kept : (nestedFolders inner).root.IsWithin (filledFolders inner).root := by
    refine Node.isWithin_iff.2 fun place there => ?_
    rw [faceAt?_filledFolders, if_neg]
    rintro rfl
    simp [free] at there
  refine ⟨rfl, rfl, kept, fun here current => ?_, added, fun place fresh made _ => ?_⟩
  · obtain rfl : ["w"] = here := Option.some.inj current
    exact Node.sameAlong_of_isWithin kept rfl
  · rw [faceAt?_filledFolders] at made
    split_ifs at made with spot
    · exact ⟨[], rfl, spot⟩
    · simp [fresh] at made

theorem sameAround_filledFolders (inner : Entries) :
    SameAround (nestedFolders inner) (filledFolders inner) ⟨"a"⟩ := by
  refine ⟨rfl, rfl, fun here origin place beside => ?_⟩
  obtain rfl : ["w"] = here := Option.some.inj origin
  have names : (⟨"a"⟩ : Path).names = ["a"] := by decide
  rw [faceAt?_filledFolders, if_neg]
  rintro rfl
  simp [names] at beside

/-- What is added beside the way to the package that is found, and so farther up, does not change it. -/
theorem findPackage_nearest_folders :
    (SameAround (nestedFolders []) (filledFolders []) ⟨"a"⟩ ∧
      findPackage (filledFolders []) "x" ⟨"a/./b/"⟩ = some ⟨"a/node_modules/x"⟩) ∧
    AddsPackage (nestedFolders []) (filledFolders []) ⟨"/w"⟩ "x" ∧
      findPackage (filledFolders []) "x" ⟨"/w/a/b"⟩ = some ⟨"/w/a/node_modules/x"⟩ := by
  refine ⟨⟨sameAround_filledFolders [], ?_⟩, addsPackage_filledFolders [] (by decide +kernel), ?_⟩
  · have above : (⟨"a/./b/"⟩ : Path).parent? = some ⟨"a"⟩ := by decide +kernel
    have nearest : IsNearest (nestedFolders []) "x" ⟨"a/./b/"⟩ ⟨"a"⟩ :=
      isNearest_parent above (by decide +kernel) (by decide +kernel)
    obtain ⟨-, found, -, unchanged⟩ := findPackage_nearest (nestedFolders []) "x" ⟨"a/./b/"⟩
    refine Eq.trans ?_ ((found _).2 ⟨_, nearest, by decide⟩)
    refine (unchanged _ nearest _).2.1 (by decide) (sameAround_filledFolders []) fun nearer way => ?_
    obtain rfl | rfl := way.eq_or_eq above <;> decide +kernel
  · have above : (⟨"/w/a/b"⟩ : Path).parent? = some ⟨"/w/a"⟩ := by decide +kernel
    have nearest : IsNearest (nestedFolders []) "x" ⟨"/w/a/b"⟩ ⟨"/w/a"⟩ :=
      isNearest_parent above (by decide +kernel) (by decide +kernel)
    obtain ⟨-, found, -, unchanged⟩ := findPackage_nearest (nestedFolders []) "x" ⟨"/w/a/b"⟩
    refine Eq.trans ?_ ((found _).2 ⟨_, nearest, by decide⟩)
    refine (unchanged _ nearest _).2.2 0 ⟨"/w"⟩ (by decide +kernel)
      (addsPackage_filledFolders [] (by decide +kernel)) fun nearer way other => ?_
    obtain rfl := (way.eq_or_eq above).resolve_right other
    decide +kernel

/-- Entries with a link to the packages that are two directories farther up. -/
def linkedPackages : Entries :=
  [("node_modules", .link ⟨"../../node_modules"⟩)]

/-- By such a link a package that is added farther up is found nearer than the nearest one. -/
theorem findPackage_through_link :
    IsNearest (nestedFolders linkedPackages) "x" ⟨"/w/a/b"⟩ ⟨"/w/a"⟩ ∧
    (⟨"/w/a"⟩ : Path).up? 1 = some ⟨"/w"⟩ ∧
    AddsPackage (nestedFolders linkedPackages) (filledFolders linkedPackages) ⟨"/w"⟩ "x" ∧
    findPackage (nestedFolders linkedPackages) "x" ⟨"/w/a/b"⟩ = some ⟨"/w/a/node_modules/x"⟩ ∧
    findPackage (filledFolders linkedPackages) "x" ⟨"/w/a/b"⟩ =
      some ⟨"/w/a/b/node_modules/x"⟩ := by
  have above : (⟨"/w/a/b"⟩ : Path).parent? = some ⟨"/w/a"⟩ := by decide +kernel
  have nearest : IsNearest (nestedFolders linkedPackages) "x" ⟨"/w/a/b"⟩ ⟨"/w/a"⟩ :=
    isNearest_parent above (by decide +kernel) (by decide +kernel)
  have adds := addsPackage_filledFolders linkedPackages (by decide +kernel)
  exact ⟨nearest, by decide +kernel, adds, by decide +kernel, by decide +kernel⟩

end Checker

end ScopedCheck
