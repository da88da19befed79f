import ScopedCheck.Proofs.Path

namespace ScopedCheck.Path

open Node (IsName)

variable {segment : String} {reversed : List String}

theorem isComponent_of_isName (isName : IsName segment) (opens : Bool) :
    isComponent segment opens = true := by
  simp [isComponent, isName.1, isName.2.1]

theorem above_skipIdle (reversed : List String) : above (skipIdle reversed) = above reversed := by
  induction reversed with
  | nil => rfl
  | cons segment rest ih =>
    cases component : isComponent segment rest.isEmpty with
    | true => rw [skipIdle, if_pos component]
    | false => rw [skipIdle, above, if_neg (by simp [component]), if_neg (by simp [component]), ih]

theorem head?_skipIdle (reversed : List String) : (skipIdle reversed).head? ≠ some "" := by
  induction reversed with
  | nil => simp [skipIdle]
  | cons segment rest ih =>
    rw [skipIdle]
    split_ifs with component
    · have full : segment ≠ "" := by
        rintro rfl
        simp [isComponent] at component
      simpa using full
    · exact ih

/-- What is above the last component is what stands before it, and then what is above that. -/
theorem above_eq_cons {first : List String} {more : List (List String)}
    (there : above reversed = first :: more) :
    first <:+ reversed ∧ first.head? ≠ some "" ∧ more = above first := by
  induction reversed with
  | nil => simp [above] at there
  | cons segment rest ih =>
    rw [above] at there
    split_ifs at there with component
    · obtain ⟨rfl, rfl⟩ := List.cons.inj there
      exact ⟨(skipIdle_suffix rest).trans (List.suffix_cons _ _), head?_skipIdle rest,
        (above_skipIdle rest).symm⟩
    · obtain ⟨suffix, head, below⟩ := ih there
      exact ⟨suffix.trans (List.suffix_cons _ _), head, below⟩

theorem segments_ne_nil (p : Path) : p.segments ≠ [] := by
  simp [segments, Text.split_ne_nil]

theorem ofUpward_upward (p : Path) (absolute : Bool) : ofUpward absolute p.upward = p := by
  have some : p.upward ≠ [] := by simp [Path.upward, segments_ne_nil]
  have pieces : p.upward.reverse.map String.toList = Text.split '/' p.text.toList := by
    simp [Path.upward, segments, Function.comp_def]
  apply eq_of_toList
  rw [ofUpward, if_neg some, pieces, Text.join_split, String.toList_ofList]

theorem segments_ofUpward {absolute : Bool} (some : reversed ≠ [])
    (uncut : ∀ segment ∈ reversed, '/' ∉ segment.toList) :
    (ofUpward absolute reversed).segments = reversed.reverse := by
  have split : Text.split '/' (Text.join '/' (reversed.reverse.map String.toList)) =
      reversed.reverse.map String.toList := by
    refine Text.split_join (by simpa using some) fun piece mem => ?_
    obtain ⟨segment, among, rfl⟩ := List.mem_map.1 mem
    exact uncut segment (List.mem_reverse.1 among)
  rw [ofUpward, if_neg some, segments, String.toList_ofList, split]
  simp

/-- An absolute path is one with nothing before its first slash. -/
theorem isAbsolute_iff_segments {p : Path} :
    p.isAbsolute ↔ ∃ rest, rest ≠ [] ∧ p.segments = "" :: rest := by
  rw [isAbsolute_iff, segments]
  cases p.text.toList with
  | nil => simp [Text.split]
  | cons c cs =>
    have pieces := Text.split_ne_nil '/' cs
    rw [Text.split, List.head?_cons, Option.some_inj]
    by_cases slash : c = '/'
    · simpa [slash] using pieces
    · rw [if_neg slash]
      obtain ⟨piece, more, split⟩ := List.exists_cons_of_ne_nil pieces
      simp [split, slash]

theorem uncut_of_suffix {p : Path} (suffix : reversed <:+ p.upward) :
    ∀ segment ∈ reversed, '/' ∉ segment.toList :=
  fun _ mem => uncut_of_mem_segments (List.mem_reverse.1 (suffix.subset mem))

/-- The beginning of a path is absolute if the path is. -/
theorem isAbsolute_ofUpward {p : Path} (some : reversed ≠ []) (named : reversed.head? ≠ Option.some "")
    (suffix : reversed <:+ p.upward) : (ofUpward p.isAbsolute reversed).isAbsolute = p.isAbsolute := by
  obtain ⟨below, split⟩ : reversed.reverse <+: p.segments := by
    simpa [Path.upward] using List.reverse_prefix.2 suffix
  rw [Bool.eq_iff_iff, isAbsolute_iff_segments, isAbsolute_iff_segments,
    segments_ofUpward some (uncut_of_suffix suffix), ← split]
  constructor
  · rintro ⟨rest, full, first⟩
    exact ⟨rest ++ below, by simp [full], by rw [first, List.cons_append]⟩
  · rintro ⟨rest, -, first⟩
    obtain ⟨segment, more, start⟩ := List.exists_cons_of_ne_nil (List.reverse_ne_nil_iff.2 some)
    rw [start, List.cons_append] at first
    obtain ⟨rfl, -⟩ := List.cons.inj first
    refine ⟨more, ?_, start⟩
    rintro rfl
    obtain rfl : reversed = [""] := by simpa using congrArg List.reverse start
    exact named rfl

theorem above_upward_ofUpward_nil (absolute : Bool) : above (ofUpward absolute []).upward = [] := by
  cases absolute <;> decide

/-- The ancestors of a path are the path and those of its parent. -/
theorem ancestors_eq (p : Path) : p.ancestors = p :: (p.parent?.map ancestors).getD [] := by
  rw [ancestors, parent?]
  cases there : above p.upward with
  | nil => rfl
  | cons first more =>
    obtain ⟨suffix, named, rfl⟩ := above_eq_cons there
    simp only [List.map_cons, List.head?_cons, Option.map_some, Option.getD_some, ancestors]
    obtain rfl | some := eq_or_ne first []
    · rw [above_upward_ofUpward_nil]
      rfl
    · rw [isAbsolute_ofUpward some named suffix, Path.upward,
        segments_ofUpward some (uncut_of_suffix suffix), List.reverse_reverse]

/-- What one comes to by going up so many times. -/
def up? : Nat → Path → Option Path
  | 0, p => some p
  | n + 1, p => p.parent?.bind (up? n)

theorem getElem?_ancestors (n : Nat) (p : Path) : p.ancestors[n]? = p.up? n := by
  induction n generalizing p with
  | zero => rw [ancestors_eq]; rfl
  | succ n ih =>
    rw [ancestors_eq, List.getElem?_cons_succ, up?]
    cases p.parent? with
    | none => rfl
    | some q => exact ih q

/-- The parent of an entry of a directory that is itself an entry is that directory. -/
theorem parent?_child_child (p : Path) {holder name : String} (isHolder : IsName holder)
    (isName : IsName name) : ((p.child holder).child name).parent? = some (p.child holder) := by
  obtain ⟨before, segments⟩ := exists_segments_join p
  have outer : (p.child holder).upward = holder :: before.reverse := by
    have named := segments [holder] (by simp) (by simpa using isHolder)
    rw [relative_singleton] at named
    rw [Path.upward, child, named]
    simp
  have inner : ((p.child holder).child name).upward = name :: (p.child holder).upward := by
    have named := segments [holder, name] (by simp) (by simpa using ⟨isHolder, isName⟩)
    have joined : (p.join (relative [holder])).child name = p.join (relative ([holder] ++ [name])) :=
      child_join p (by simp) (by simpa using isHolder) isName
    rw [relative_singleton, ← child] at joined
    rw [outer, Path.upward, joined, List.singleton_append, named]
    simp
  have first : skipIdle (p.child holder).upward = (p.child holder).upward := by
    rw [outer, skipIdle, if_pos (isComponent_of_isName isHolder _)]
  rw [parent?, inner, above, if_pos (isComponent_of_isName isName _), first, List.head?_cons,
    Option.map_some, ofUpward_upward]

end ScopedCheck.Path
