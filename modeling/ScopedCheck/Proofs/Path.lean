import Mathlib.Tactic
import ScopedCheck.Proofs.Config.Temporary
import ScopedCheck.Proofs.FileSystem.Face
import ScopedCheck.Proofs.Text.Utf8

namespace ScopedCheck

namespace Text

variable {α : Type} [DecidableEq α] {separator : α}

theorem not_mem_of_mem_split {cs piece : List α} (mem : piece ∈ split separator cs) :
    separator ∉ piece := by
  induction cs generalizing piece with
  | nil =>
    obtain rfl : piece = [] := by simpa [split] using mem
    simp
  | cons c cs ih =>
    rw [split] at mem
    split_ifs at mem with cut
    · obtain rfl | mem := List.mem_cons.1 mem
      · simp
      · exact ih mem
    · cases rest : split separator cs with
      | nil => exact absurd rest (split_ne_nil separator cs)
      | cons first pieces =>
        simp only [rest] at mem ih
        obtain rfl | mem := List.mem_cons.1 mem
        · simpa [Ne.symm cut] using ih List.mem_cons_self
        · exact ih (List.mem_cons_of_mem _ mem)

/-- What comes before the first separator belongs to the first piece. -/
theorem split_append {piece first : List α} (uncut : separator ∉ piece) {cs : List α}
    {pieces : List (List α)} (rest : split separator cs = first :: pieces) :
    split separator (piece ++ cs) = (piece ++ first) :: pieces := by
  induction piece with
  | nil => exact rest
  | cons c piece ih =>
    have ne : c ≠ separator := fun same => uncut (same ▸ List.mem_cons_self)
    have uncut' : separator ∉ piece := fun mem => uncut (List.mem_cons_of_mem _ mem)
    rw [List.cons_append, split, if_neg ne, ih uncut']
    rfl

theorem split_flatMap {pieces : List (List α)} (uncut : ∀ piece ∈ pieces, separator ∉ piece) :
    split separator (pieces.flatMap fun piece => separator :: piece) = [] :: pieces := by
  induction pieces with
  | nil => rfl
  | cons piece pieces ih =>
    obtain ⟨uncut', rest⟩ := List.forall_mem_cons.1 uncut
    rw [List.flatMap_cons, List.cons_append, split, if_pos rfl, split_append uncut' (ih rest),
      List.append_nil]

theorem split_uncut {piece : List α} (uncut : separator ∉ piece) : split separator piece = [piece] := by
  have last : split separator [] = [[]] := rfl
  simpa using split_append uncut last

theorem split_cut (cs ds : List α) :
    split separator (cs ++ separator :: ds) = split separator cs ++ split separator ds := by
  induction cs with
  | nil => simp [split]
  | cons c cs ih =>
    rw [List.cons_append, split, split, ih]
    split_ifs
    · rfl
    · cases rest : split separator cs with
      | nil => exact absurd rest (split_ne_nil separator cs)
      | cons first pieces => rfl

theorem split_join {pieces : List (List α)} (some : pieces ≠ [])
    (uncut : ∀ piece ∈ pieces, separator ∉ piece) : split separator (join separator pieces) = pieces := by
  induction pieces with
  | nil => exact absurd rfl some
  | cons piece pieces ih =>
    obtain ⟨uncut', rest⟩ := List.forall_mem_cons.1 uncut
    cases pieces with
    | nil => simpa [join, List.intercalate] using split_uncut uncut'
    | cons next pieces =>
      have step : join separator (piece :: next :: pieces) =
          piece ++ separator :: join separator (next :: pieces) := by
        simp [join, List.intercalate]
      rw [step, split_cut, split_uncut uncut', ih (by simp) rest]
      rfl

theorem intercalate_split (mark : Char) (text : String) :
    mark.toString.intercalate ((split mark text.toList).map String.ofList) = text := by
  have chars := join_split mark text.toList
  rw [join] at chars
  apply String.toList_injective
  rw [String.toList_intercalate, List.map_map]
  simpa [Function.comp_def] using chars

/-- The bytes of a text can be cut at a character of one byte as the text itself is. -/
theorem split_encodeChars {mark : Char} (small : mark.toNat < 0x80) (cs : List Char) :
    split (UInt8.ofNat mark.toNat) (Utf8.encodeChars cs) =
      (split mark cs).map Utf8.encodeChars := by
  induction cs with
  | nil => rfl
  | cons c cs ih =>
    have first : Utf8.encodeChars (c :: cs) = String.utf8EncodeChar c ++ Utf8.encodeChars cs :=
      List.flatMap_cons
    rw [first, split]
    split_ifs with cut
    · rw [cut, Utf8.encode_small small, List.singleton_append, split, if_pos rfl, ih]
      rfl
    · cases rest : split mark cs with
      | nil => exact absurd rest (split_ne_nil mark cs)
      | cons piece pieces =>
        rw [rest, List.map_cons] at ih
        rw [split_append (Utf8.small_not_mem small cut) ih]
        rfl

end Text

namespace Path

open Node (IsName)

/-- The path that leads through these names from wherever one is. -/
def relative (names : List String) : Path :=
  ⟨String.ofList (Text.join '/' (names.map String.toList))⟩

/-- What a path stands for in front of a relative one. -/
def front (path : Path) : List Char :=
  if path.text = "" then []
  else if path.text.toList.getLast? = some '/' then path.text.toList
  else path.text.toList ++ ['/']

theorem toList_join (path : Path) {below : Path} (relative : below.isAbsolute = false) :
    (path.join below).text.toList = path.front ++ below.text.toList := by
  by_cases empty : path.text = ""
  · simp [join, front, relative, empty]
  · rw [join, front, if_neg empty, if_neg (by simp [relative, empty])]
    split_ifs <;> simp

theorem front_cases (path : Path) : path.front = [] ∨ ∃ cs, path.front = cs ++ ['/'] := by
  unfold front
  split_ifs with empty last
  · exact .inl rfl
  · obtain ⟨cs, h⟩ := List.getLast?_eq_some_iff.1 last
    exact .inr ⟨cs, h⟩
  · exact .inr ⟨_, rfl⟩

theorem isAbsolute_name {name : String} (isName : IsName name) : (⟨name⟩ : Path).isAbsolute = false := by
  cases h : name.toList with
  | nil => simp [isAbsolute, h]
  | cons c cs =>
    have ne : c ≠ '/' := fun same => isName.2.2.2 (by simp [h, same])
    simp [isAbsolute, h, ne]

theorem eq_of_toList {p q : Path} (same : p.text.toList = q.text.toList) : p = q := by
  cases p
  cases q
  exact congrArg mk (String.toList_inj.1 same)

section

variable {names : List String} {name : String}

theorem toList_relative (names : List String) :
    (relative names).text.toList = Text.join '/' (names.map String.toList) :=
  String.toList_ofList

theorem relative_singleton (name : String) : relative [name] = ⟨name⟩ := by
  apply eq_of_toList
  simp [toList_relative, Text.join, List.intercalate]

theorem toList_relative_concat (some : names ≠ []) (name : String) :
    (relative (names ++ [name])).text.toList = (relative names).text.toList ++ '/' :: name.toList := by
  rw [toList_relative, toList_relative]
  induction names with
  | nil => exact absurd rfl some
  | cons first names ih =>
    cases names with
    | nil => simp [Text.join, List.intercalate]
    | cons second names =>
      have rest := ih (by simp)
      simp only [Text.join, List.intercalate, List.map_cons, List.cons_append, List.intersperse_cons_cons,
        List.flatten_cons, List.append_assoc] at rest ⊢
      rw [rest]

theorem getLast?_relative (some : names ≠ []) (named : ∀ name ∈ names, IsName name) :
    ∃ c, (relative names).text.toList.getLast? = Option.some c ∧ c ≠ '/' := by
  obtain ⟨above, name, rfl⟩ := (List.eq_nil_or_concat names).resolve_left some
  obtain ⟨full, -, -, uncut⟩ := named name (by simp)
  have chars : name.toList ≠ [] := by simpa using full
  have last := List.getLast?_eq_some_getLast chars
  refine ⟨_, ?_, fun same => uncut (same ▸ List.getLast_mem chars)⟩
  rw [List.concat_eq_append]
  cases above with
  | nil => rwa [List.nil_append, relative_singleton]
  | cons first above =>
    rw [toList_relative_concat (by simp), List.getLast?_append_of_ne_nil _ (by simp),
      List.getLast?_cons_of_ne_nil chars, last]

theorem isAbsolute_relative (named : ∀ name ∈ names, IsName name) : (relative names).isAbsolute = false := by
  cases names with
  | nil => decide
  | cons name names =>
    have first := isAbsolute_name (named name (by simp))
    obtain ⟨full, -⟩ := named name (by simp)
    have chars : name.toList ≠ [] := by simpa using full
    obtain ⟨c, cs, split⟩ := List.exists_cons_of_ne_nil chars
    have head : (relative (name :: names)).text.toList.head? = some c := by
      rw [toList_relative]
      cases names <;> simp [Text.join, List.intercalate, split]
    simpa [isAbsolute, head, split] using first

/-- An entry of a directory below a path. -/
theorem child_join (path : Path) (some : names ≠ []) (named : ∀ name ∈ names, IsName name)
    (isName : IsName name) :
    (path.join (relative names)).child name = path.join (relative (names ++ [name])) := by
  have named' : ∀ name' ∈ names ++ [name], IsName name' :=
    List.forall_mem_append.2 ⟨named, by simpa using isName⟩
  obtain ⟨c, last, other⟩ := getLast?_relative some named
  have chars : (relative names).text.toList ≠ [] := by
    intro empty
    simp [empty] at last
  have text := toList_join path (isAbsolute_relative named)
  have ahead : (path.join (relative names)).front = path.front ++ (relative names).text.toList ++ ['/'] := by
    have full : (path.join (relative names)).text ≠ "" := by
      intro empty
      have := congrArg String.toList empty
      simp [text, chars] at this
    rw [front, if_neg full, text, List.getLast?_append_of_ne_nil _ chars, last,
      if_neg (by simpa using other)]
  apply eq_of_toList
  rw [child, toList_join _ (isAbsolute_name isName), ahead, toList_join path (isAbsolute_relative named'),
    toList_relative_concat some]
  simp

/-- The segments of a path below another one are those of the one and then the names. -/
theorem exists_segments_join (path : Path) : ∃ above : List String, ∀ names, names ≠ [] →
    (∀ name ∈ names, IsName name) → (path.join (relative names)).segments = above ++ names := by
  have below (names : List String) (some : names ≠ []) (named : ∀ name ∈ names, IsName name) :
      Text.split '/' (relative names).text.toList = names.map String.toList := by
    rw [toList_relative]
    apply Text.split_join (by simpa using some)
    intro piece mem
    obtain ⟨name, among, rfl⟩ := List.mem_map.1 mem
    exact (named name among).2.2.2
  obtain nothing | ⟨cs, ahead⟩ := front_cases path
  · refine ⟨[], fun names some named => ?_⟩
    rw [segments, toList_join path (isAbsolute_relative named), nothing, List.nil_append,
      below names some named]
    simp
  · refine ⟨(Text.split '/' cs).map String.ofList, fun names some named => ?_⟩
    rw [segments, toList_join path (isAbsolute_relative named), ahead, List.append_assoc,
      List.singleton_append, Text.split_cut, below names some named]
    simp

end

theorem toList_ofNames {names : List String} (some : names ≠ []) :
    (ofNames names).text.toList = names.flatMap fun name => '/' :: name.toList := by
  cases names with
  | nil => exact absurd rfl some
  | cons name names => simp [ofNames, String.toList_join, List.flatMap_map]

theorem segments_ofNames {names : List String} (some : names ≠ [])
    (named : ∀ name ∈ names, IsName name) : (ofNames names).segments = "" :: names := by
  have uncut : ∀ piece ∈ names.map String.toList, '/' ∉ piece := by
    intro piece mem
    obtain ⟨name, among, rfl⟩ := List.mem_map.1 mem
    exact (named name among).2.2.2
  have text : (ofNames names).text.toList = (names.map String.toList).flatMap ('/' :: ·) := by
    rw [toList_ofNames some, List.flatMap_map]
  rw [segments, text, Text.split_flatMap uncut]
  simp

theorem getLast?_ofNames {names : List String} (some : names ≠ [])
    (named : ∀ name ∈ names, IsName name) :
    (ofNames names).text.toList.getLast? ≠ Option.some '/' := by
  obtain ⟨above, name, rfl⟩ := (List.eq_nil_or_concat names).resolve_left some
  obtain ⟨full, -, -, uncut⟩ := named name (by simp)
  have chars : name.toList ≠ [] := by simpa using full
  rw [List.concat_eq_append, toList_ofNames (by simp), List.flatMap_append, List.flatMap_singleton,
    List.getLast?_append_of_ne_nil _ (by simp), List.getLast?_cons_of_ne_nil chars]
  exact fun last => uncut (List.mem_of_getLast? last)

theorem child_ofNames {names : List String} {name : String}
    (named : ∀ name ∈ names, IsName name) (isName : IsName name) :
    (ofNames names).child name = ofNames (names ++ [name]) := by
  have relative := isAbsolute_name isName
  have same : ((ofNames names).child name).text.toList = (ofNames (names ++ [name])).text.toList := by
    rw [toList_ofNames (by simp)]
    obtain rfl | some := eq_or_ne names []
    · simp [child, join, relative, ofNames]
    · have last := getLast?_ofNames some named
      have full : (ofNames names).text ≠ "" := by
        intro empty
        have absolute := isAbsolute_ofNames names
        simp [isAbsolute, empty] at absolute
      have text := toList_ofNames some
      rw [child, join, if_neg (by simp [relative, full]), if_neg last]
      simp [text]
  have text := String.toList_inj.1 same
  cases h : (ofNames names).child name
  cases h' : ofNames (names ++ [name])
  simpa [h, h'] using text

theorem uncut_of_mem_segments {path : Path} {segment : String} (mem : segment ∈ path.segments) :
    '/' ∉ segment.toList := by
  obtain ⟨piece, among, rfl⟩ := List.mem_map.1 mem
  rw [String.toList_ofList]
  exact Text.not_mem_of_mem_split among

theorem skipIdle_suffix (upward : List String) : skipIdle upward <:+ upward := by
  induction upward with
  | nil => exact List.suffix_rfl
  | cons segment above ih =>
    rw [skipIdle]
    split_ifs
    · exact List.suffix_rfl
    · exact ih.trans (List.suffix_cons _ _)

theorem uncut_of_fileName? {path : Path} {name : String} (named : path.fileName? = some name) :
    '/' ∉ name.toList := by
  unfold fileName? at named
  split at named
  · simp at named
  · next segment above skipped =>
    split_ifs at named
    obtain rfl := Option.some.inj named
    have mem : segment ∈ path.upward := by
      refine (skipIdle_suffix path.upward).subset ?_
      rw [skipped]
      exact List.mem_cons_self
    exact uncut_of_mem_segments (List.mem_reverse.1 mem)

theorem mem_of_mem_stemOf {name : String} {c : Char} (mem : c ∈ (stemOf name).toList) :
    c ∈ name.toList := by
  unfold stemOf at mem
  dsimp only at mem
  split_ifs at mem
  · exact mem
  · rw [String.toList_ofList, List.mem_reverse] at mem
    exact List.mem_reverse.1 ((List.dropWhile_sublist _).subset (List.mem_of_mem_drop mem))

end Path

namespace Config

theorem uncut_stem (config : Config) : '/' ∉ config.stem.toList := by
  rw [stem, Path.stem?]
  cases named : config.path.fileName? with
  | none => decide
  | some name => exact fun mem => Path.uncut_of_fileName? named (Path.mem_of_mem_stemOf mem)

/-- A temporary config has a name that an entry of a directory can have. -/
theorem isName_temporaryName (config : Config) (suffix : Suffix) :
    Node.IsName (config.temporaryName suffix) := by
  have text : (config.temporaryName suffix).toList =
      config.stem.toList ++ '.' :: (suffix.chars ++ ".json".toList) := by
    simp [temporaryName]
  have long : 3 ≤ (config.temporaryName suffix).toList.length := by
    simp [text, suffix.length_eq, Suffix.size]
  refine ⟨?_, ?_, ?_, ?_⟩
  · intro same
    simp [same] at long
  · intro same
    simp [same] at long
  · intro same
    simp [same] at long
  · have drawn : '/' ∉ suffix.chars := fun mem =>
      absurd (suffix.isAlphanum_of_mem _ mem) (by decide)
    rw [text]
    simp [uncut_stem config, drawn]

end Config

end ScopedCheck
