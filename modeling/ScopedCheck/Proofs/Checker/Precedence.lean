import Mathlib.Data.List.TakeWhile
import ScopedCheck.Checker.Locate
import ScopedCheck.Proofs.Ancestry
import ScopedCheck.Proofs.Text.Utf8

namespace ScopedCheck

namespace Text

/-- Whether the second characters are the first ones without the blanks at both ends. -/
structure IsTrimmed (cs trimmed : List Char) : Prop where
  split : ∃ before after, cs = before ++ trimmed ++ after ∧ (∀ c ∈ before, isBlank c) ∧
    ∀ c ∈ after, isBlank c
  first : ∀ c ∈ trimmed.head?, isBlank c = false
  last : ∀ c ∈ trimmed.getLast?, isBlank c = false

theorem head?_dropWhile_isBlank {cs : List Char} {c : Char} (first : c ∈ (cs.dropWhile isBlank).head?) :
    isBlank c = false := by
  have bare := List.head?_dropWhile_not isBlank cs
  rw [Option.mem_def.1 first] at bare
  exact bare

theorem dropWhile_of_head? {cs : List Char} (first : ∀ c ∈ cs.head?, isBlank c = false) :
    cs.dropWhile isBlank = cs := by
  cases cs with
  | nil => rfl
  | cons c cs => rw [List.dropWhile_cons, if_neg (by simp [first c rfl])]

theorem isTrimmed_trim (cs : List Char) : IsTrimmed cs (trim cs) := by
  have front := List.takeWhile_append_dropWhile (p := isBlank) (l := cs)
  have back := List.takeWhile_append_dropWhile (p := isBlank) (l := (cs.dropWhile isBlank).reverse)
  have kept : cs.dropWhile isBlank =
      trim cs ++ ((cs.dropWhile isBlank).reverse.takeWhile isBlank).reverse := by
    rw [trim, ← List.reverse_append, back, List.reverse_reverse]
  constructor
  · refine ⟨cs.takeWhile isBlank, ((cs.dropWhile isBlank).reverse.takeWhile isBlank).reverse, ?_, ?_, ?_⟩
    · rw [List.append_assoc, ← kept, front]
    · exact fun c => List.mem_takeWhile_imp
    · exact fun c mem => List.mem_takeWhile_imp (List.mem_reverse.1 mem)
  · intro c first
    have first' : c ∈ (cs.dropWhile isBlank).head? := by
      rw [kept, List.head?_append, Option.mem_def.1 first]
      rfl
    exact head?_dropWhile_isBlank first'
  · intro c last
    rw [trim, List.getLast?_reverse] at last
    exact head?_dropWhile_isBlank last

theorem IsTrimmed.trim_eq {cs trimmed : List Char} (h : IsTrimmed cs trimmed) : trim cs = trimmed := by
  obtain ⟨⟨before, after, rfl, blank, blank'⟩, first, last⟩ := h
  obtain rfl | some := eq_or_ne trimmed []
  · have all : ∀ c ∈ before ++ [] ++ after, isBlank c := by
      rw [List.append_nil]
      exact List.forall_mem_append.2 ⟨blank, blank'⟩
    rw [trim, List.dropWhile_eq_nil_iff.2 all]
    rfl
  · have first' : ∀ c ∈ (trimmed ++ after).head?, isBlank c = false := by
      rwa [List.head?_append_of_ne_nil _ some]
    have last' : ∀ c ∈ trimmed.reverse.head?, isBlank c = false := by
      rwa [List.head?_reverse]
    rw [trim, List.append_assoc, List.dropWhile_append_of_pos blank, dropWhile_of_head? first',
      List.reverse_append, List.dropWhile_append_of_pos (by simpa using blank'),
      dropWhile_of_head? last', List.reverse_reverse]

end Text

namespace Checker

open Text (IsTrimmed)
open Node (IsName)

theorem asked?_encode (value : Option String) : asked? (value.map Utf8.encode) = requested? value := by
  cases value with
  | none => rfl
  | some text => rw [asked?, Option.map_some, Option.bind_some, Utf8.decode?_encode]

namespace SearchPath

/-- Variables that are texts give the search path that these write. -/
theorem ofValues_encode (path home : Option String) :
    ofValues (path.map Utf8.encode) (home.map Utf8.encode) = ⟨path, home⟩ := by
  have read (text? : Option String) : (text?.map Utf8.encode).bind Utf8.decode? = text? := by
    cases text? with
    | none => rfl
    | some text => exact Utf8.decode?_encode text
  have isText : (home.map Utf8.encode).all fun home => (Utf8.decode? home).isSome := by
    cases home with
    | none => rfl
    | some text => simp [Utf8.decode?_encode]
  rw [ofValues, if_pos isText, read]
  cases path with
  | none => rfl
  | some text =>
    have bytes : Text.split separator.toUInt8 (Utf8.encode text) =
        (Text.split separator text.toList).map Utf8.encodeChars :=
      Text.split_encodeChars (by decide) text.toList
    have pieces : ((Text.split separator text.toList).map Utf8.encodeChars).filterMap Utf8.decode? =
        (Text.split separator text.toList).map String.ofList := by
      have decoded : Utf8.decode? ∘ Utf8.encodeChars = some ∘ String.ofList :=
        funext Utf8.decode?_encodeChars
      rw [List.filterMap_map, decoded, List.filterMap_eq_map]
    have full : (Text.split separator text.toList).map String.ofList ≠ [] := by
      simpa using Text.split_ne_nil separator text.toList
    simp only [Option.map_some, Option.getD_some, bytes, pieces, if_neg full, Text.intercalate_split]

end SearchPath

/-- Whether a variable asks for nothing. -/
inductive IsAbsent : Option Utf8.Bytes → Prop where
  | unset : IsAbsent none
  | notText {bytes : Utf8.Bytes} (damaged : ¬Utf8.IsText bytes) : IsAbsent (some bytes)
  | blank {text : String} (trimmed : IsTrimmed text.toList []) : IsAbsent (some (Utf8.encode text))

theorem asked?_of_isTrimmed {text path : String} (trimmed : IsTrimmed text.toList path.toList)
    (full : path ≠ "") : asked? (some (Utf8.encode text)) = some ⟨path⟩ := by
  have chars : path.toList ≠ [] := by simpa using full
  have read : asked? (some (Utf8.encode text)) = requested? (some text) := asked?_encode (some text)
  simp [read, requested?, trimmed.trim_eq, chars]

theorem asked?_of_isAbsent {value : Option Utf8.Bytes} (absent : IsAbsent value) :
    asked? value = none := by
  cases absent with
  | unset => rfl
  | notText damaged =>
    rw [asked?, Option.bind_some, Utf8.decode?_eq_none_iff.2 damaged]
    rfl
  | @blank text trimmed =>
    have read : asked? (some (Utf8.encode text)) = requested? (some text) := asked?_encode (some text)
    simp [read, requested?, trimmed.trim_eq]

theorem isAbsent_or (value : Option Utf8.Bytes) :
    IsAbsent value ∨ ∃ text path : String, value = some (Utf8.encode text) ∧
      IsTrimmed text.toList path.toList ∧ path ≠ "" := by
  cases value with
  | none => exact .inl .unset
  | some bytes =>
    by_cases isText : Utf8.IsText bytes
    · obtain ⟨text, rfl⟩ := isText
      have trimmed := Text.isTrimmed_trim text.toList
      by_cases full : Text.trim text.toList = []
      · rw [full] at trimmed
        exact .inl (.blank trimmed)
      · refine .inr ⟨text, String.ofList (Text.trim text.toList), rfl, ?_, ?_⟩
        · rwa [String.toList_ofList]
        · intro empty
          exact full (by simpa using congrArg String.toList empty)
    · exact .inl (.notText isText)

/-- Whether a directory is the first one, from another upwards, that has a package. -/
def IsNearest (site : Site) (name : String) (start directory : Path) : Prop :=
  ∃ n, start.up? n = some directory ∧ isPackage site (packageIn directory name) ∧
    ∀ m < n, ∀ nearer, start.up? m = some nearer → isPackage site (packageIn nearer name) = false

variable {site : Site} {name : String} {start : Path}

theorem isNearest_iff_find? {directory : Path} : IsNearest site name start directory ↔
    start.ancestors.find? (fun directory => isPackage site (packageIn directory name)) =
      some directory := by
  rw [List.find?_eq_some_iff_getElem]
  constructor
  · rintro ⟨n, there, package, nearer⟩
    rw [← Path.getElem?_ancestors] at there
    obtain ⟨inside, rfl⟩ := List.getElem?_eq_some_iff.1 there
    refine ⟨package, n, inside, rfl, fun m less => ?_⟩
    rw [nearer m less _ (by rw [← Path.getElem?_ancestors, List.getElem?_eq_getElem])]
    rfl
  · rintro ⟨package, n, inside, rfl, nearer⟩
    refine ⟨n, by rw [← Path.getElem?_ancestors, List.getElem?_eq_getElem], package, ?_⟩
    intro m less directory there
    rw [← Path.getElem?_ancestors] at there
    obtain ⟨inside', rfl⟩ := List.getElem?_eq_some_iff.1 there
    simpa using nearer m less

theorem findPackage_eq_some_iff {package : Path} : findPackage site name start = some package ↔
    ∃ directory, IsNearest site name start directory ∧ packageIn directory name = package := by
  rw [findPackage, List.find?_map, Option.map_eq_some_iff]
  simp only [isNearest_iff_find?]
  rfl

/-- The checker that is installed with the packages of a directory. -/
def installedIn (directory : Path) : Path :=
  ((directory.child "node_modules").child ".bin").child programName

theorem parent?_packageIn (directory : Path) :
    (packageIn directory anchorPackage).parent? = some (directory.child "node_modules") :=
  directory.parent?_child_child (by simp [IsName]) (by simp [IsName, anchorPackage])

theorem installed?_eq_some_iff {path : Path} : installed? site start = some path ↔
    ∃ directory, IsNearest site anchorPackage start directory ∧
      site.exists? (installedIn directory) ∧ installedIn directory = path := by
  simp only [installed?, Option.bind_eq_bind, Option.bind_eq_some_iff, findPackage_eq_some_iff]
  constructor
  · rintro ⟨_, ⟨directory, nearest, rfl⟩, packages, above, there⟩
    obtain rfl : directory.child "node_modules" = packages :=
      Option.some.inj ((parent?_packageIn directory).symm.trans above)
    rw [Option.ite_none_right_eq_some] at there
    exact ⟨directory, nearest, there.1, Option.some.inj there.2⟩
  · rintro ⟨directory, nearest, there, rfl⟩
    exact ⟨_, ⟨directory, nearest, rfl⟩, _, parent?_packageIn directory, if_pos there⟩

/-- There is no checker beside the nearest package, be it that there is no such package. -/
theorem installed?_eq_none_iff : installed? site start = none ↔
    ∀ directory, IsNearest site anchorPackage start directory →
      site.exists? (installedIn directory) = false := by
  rw [Option.eq_none_iff_forall_ne_some]
  constructor
  · intro nothing directory nearest
    by_contra there
    exact nothing _ (installed?_eq_some_iff.2 ⟨directory, nearest, by simpa using there, rfl⟩)
  · intro bare path found
    obtain ⟨directory, nearest, there, -⟩ := installed?_eq_some_iff.1 found
    simp [bare directory nearest] at there

/-- Where a path leads that is asked for in a directory. -/
def seenFrom (start path : Path) : Path :=
  if path.isAbsolute then path else start.join path

theorem join_eq_seenFrom (start path : Path) : start.join path = seenFrom start path := by
  rw [seenFrom, Path.join]
  split_ifs <;> simp_all

/-- What the search for the checker has to give for the value of the variable, when this is found on
the search path. -/
inductive Gives (site : Site) (start : Path) (found : Option Path) :
    Option Utf8.Bytes → Except Failure Path → Prop where
  | asked {text path : String} (trimmed : IsTrimmed text.toList path.toList) (full : path ≠ "")
      (there : site.exists? (seenFrom start ⟨path⟩)) :
      Gives site start found (some (Utf8.encode text)) (.ok (seenFrom start ⟨path⟩))
  | askedMissing {text path : String} (trimmed : IsTrimmed text.toList path.toList) (full : path ≠ "")
      (missing : site.exists? (seenFrom start ⟨path⟩) = false) :
      Gives site start found (some (Utf8.encode text))
        (.error (.checkerNotFound (seenFrom start ⟨path⟩)))
  | installed {value : Option Utf8.Bytes} {directory : Path} (absent : IsAbsent value)
      (nearest : IsNearest site anchorPackage start directory)
      (there : site.exists? (installedIn directory)) :
      Gives site start found value (.ok (installedIn directory))
  | onSearchPath {value : Option Utf8.Bytes} {path : Path} (absent : IsAbsent value)
      (bare : ∀ directory, IsNearest site anchorPackage start directory →
        site.exists? (installedIn directory) = false)
      (first : found = some path) : Gives site start found value (.ok path)
  | nowhere {value : Option Utf8.Bytes} (absent : IsAbsent value)
      (bare : ∀ directory, IsNearest site anchorPackage start directory →
        site.exists? (installedIn directory) = false)
      (nothing : found = none) : Gives site start found value (.error (.checkerNotFound start))

theorem locate_of_asked {requested : Path} (search : SearchPath) :
    locate site start (some requested) search =
      if site.exists? (seenFrom start requested) then .ok (seenFrom start requested)
      else .error (.checkerNotFound (seenFrom start requested)) := by
  rw [← join_eq_seenFrom]
  rfl

theorem locate_of_unasked (search : SearchPath) :
    locate site start none search =
      ((installed? site start).or (search.find? site programName)).elim
        (.error (.checkerNotFound start)) .ok := by
  unfold locate
  rw [Option.orElse_eq_orElse, Option.orElse_eq_or]
  cases (installed? site start).or (search.find? site programName) <;> rfl

theorem gives_locate (site : Site) (start : Path) (value : Option Utf8.Bytes) (search : SearchPath) :
    Gives site start (search.find? site programName) value
      (locate site start (asked? value) search) := by
  obtain absent | ⟨text, path, rfl, trimmed, full⟩ := isAbsent_or value
  · rw [asked?_of_isAbsent absent, locate_of_unasked]
    cases beside : installed? site start with
    | some path =>
      obtain ⟨directory, nearest, there, rfl⟩ := installed?_eq_some_iff.1 beside
      exact .installed absent nearest there
    | none =>
      have bare := installed?_eq_none_iff.1 beside
      cases found : search.find? site programName with
      | some path => exact .onSearchPath absent bare rfl
      | none => exact .nowhere absent bare rfl
  · rw [asked?_of_isTrimmed trimmed full, locate_of_asked]
    cases there : site.exists? (seenFrom start ⟨path⟩) with
    | true => exact .asked trimmed full there
    | false => exact .askedMissing trimmed full there

theorem locate_of_gives {value : Option Utf8.Bytes} {search : SearchPath} {result : Except Failure Path}
    (gives : Gives site start (search.find? site programName) value result) :
    locate site start (asked? value) search = result := by
  cases gives with
  | asked trimmed full there =>
    rw [asked?_of_isTrimmed trimmed full, locate_of_asked, if_pos there]
  | askedMissing trimmed full missing =>
    rw [asked?_of_isTrimmed trimmed full, locate_of_asked, if_neg (by simp [missing])]
  | installed absent nearest there =>
    rw [asked?_of_isAbsent absent, locate_of_unasked,
      installed?_eq_some_iff.2 ⟨_, nearest, there, rfl⟩]
    rfl
  | onSearchPath absent bare first =>
    rw [asked?_of_isAbsent absent, locate_of_unasked, installed?_eq_none_iff.2 bare, first]
    rfl
  | nowhere absent bare nothing =>
    rw [asked?_of_isAbsent absent, locate_of_unasked, installed?_eq_none_iff.2 bare, nothing]
    rfl

theorem isProgram_of_find? {search : SearchPath} {path : Path}
    (found : search.find? site name = some path) : site.isProgram path := by
  obtain ⟨directories, -, found⟩ := Option.bind_eq_some_iff.1 found
  exact List.find?_some found

theorem exists?_of_isProgram {path : Path} (program : site.isProgram path) : site.exists? path := by
  have file : site.isFile path := (Bool.and_eq_true_iff.1 program).1
  rw [Site.isFile] at file
  rw [Site.exists?]
  cases node : site.node path with
  | error cause => simp [node] at file
  | ok node => rfl

/-- The search for the checker gives exactly what the order of its sources says; the search path gives
a program or nothing, so that all that is given exists. -/
theorem locate_gives (site : Site) (start : Path) (value : Option Utf8.Bytes) (search : SearchPath) :
    (∀ path, search.find? site programName = some path → site.isProgram path) ∧
    (∀ result, locate site start (asked? value) search = result ↔
      Gives site start (search.find? site programName) value result) ∧
    ∀ path, locate site start (asked? value) search = .ok path → site.exists? path := by
  refine ⟨fun path => isProgram_of_find?, fun result => ⟨?_, locate_of_gives⟩, ?_⟩
  · rintro rfl
    exact gives_locate site start value search
  · intro path located
    have gives := gives_locate site start value search
    rw [located] at gives
    cases gives with
    | asked trimmed full there => exact there
    | installed absent nearest there => exact there
    | onSearchPath absent bare first => exact exists?_of_isProgram (isProgram_of_find? first)

/-- A package in each of two directories, of which only the farther one has a checker. -/
def nestedPackages : Site where
  root := .directory [("w", .directory [
    ("node_modules", .directory [(".bin", .directory [("vue-tsc", .file [] {})]),
      ("typescript", .directory [("package.json", .file [] {})])]),
    ("a", .directory [("node_modules", .directory [
      ("typescript", .directory [("package.json", .file [] {})])])])])]
  directory := some ["w"]

/-- The checker of a farther package does not count. -/
theorem locate_gives_nothing :
    nestedPackages.exists? (installedIn ⟨"/w"⟩) ∧
    locate nestedPackages ⟨"/w/a"⟩ (asked? (some (Utf8.encode " "))) ⟨none, none⟩ =
      .error (.checkerNotFound ⟨"/w/a"⟩) := by
  have absent : IsAbsent (some (Utf8.encode " ")) :=
    .blank ⟨⟨[' '], [], by decide, List.forall_mem_singleton.2 rfl, by simp⟩, by simp, by simp⟩
  have first : IsNearest nestedPackages anchorPackage ⟨"/w/a"⟩ ⟨"/w/a"⟩ :=
    ⟨0, rfl, by decide +kernel, by simp⟩
  refine ⟨by decide +kernel, ((locate_gives _ _ _ _).2.1 _).2 (.nowhere absent ?_ rfl)⟩
  intro directory nearest
  obtain rfl : directory = ⟨"/w/a"⟩ :=
    Option.some.inj ((isNearest_iff_find?.1 nearest).symm.trans (isNearest_iff_find?.1 first))
  decide +kernel

end Checker

end ScopedCheck
