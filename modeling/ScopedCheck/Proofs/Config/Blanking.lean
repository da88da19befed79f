import Mathlib.Tactic
import ScopedCheck.Proofs.Config.Segment

namespace ScopedCheck.Lenient

/-- Whether a character is skipped in the search for a closing bracket. -/
def isIdle (m : Mode × Char) : Bool :=
  m.1.isComment || Text.isBlank m.2

/-- Whether a closing bracket is the next that is not idle. -/
def closesAhead (ms : List (Mode × Char)) : Bool :=
  match ms.dropWhile isIdle with
  | m :: _ => m.2 = ']' || m.2 = '}'
  | [] => false

/-- What is left of labelled characters. -/
def blanked : List (Mode × Char) → List Char
  | [] => []
  | m :: ms => (if m = (.code, ',') && closesAhead ms then ' ' else uncommented m) :: blanked ms

theorem isBlank_uncommented (m : Mode × Char) : Text.isBlank (uncommented m) = isIdle m := by
  unfold uncommented isIdle keepLineEnd
  cases m.1.isComment with
  | false => simp
  | true =>
    by_cases h : m.2 = '\n'
    · simp [h, show Text.isBlank '\n' = true from rfl]
    · simp [h, show Text.isBlank ' ' = true from rfl]

theorem closesNext_blankComments (mode : Mode) (cs : List Char) :
    closesNext (blankComments mode cs) = closesAhead (label mode cs) := by
  have idle : Text.isBlank ∘ uncommented = isIdle := funext isBlank_uncommented
  rw [closesNext, closesAhead, blankComments_eq, List.dropWhile_map, idle]
  cases h : (label mode cs).dropWhile isIdle with
  | nil => rfl
  | cons m ms =>
    have busy : isIdle m = false := by
      have stop := List.head?_dropWhile_not isIdle (label mode cs)
      simpa [h] using stop
    have same : uncommented m = m.2 := by
      simp only [isIdle, Bool.or_eq_false_iff] at busy
      simp [uncommented, busy.1]
    simp [same]

theorem blankCommas_inner {c : Char} (quote : c ≠ '"') {cs : List Char}
    (alone : c = '\\' → cs = []) : blankCommas true (c :: cs) = c :: blankCommas true cs := by
  rw [blankCommas]
  · simp [quote]
  · rintro d ds same rfl
    simpa using alone same

/-- The scanner for commas is in the same literals, though it does not see the comments. -/
theorem blankCommas_blankComments (mode : Mode) (cs : List Char) :
    blankCommas (mode = .literal) (blankComments mode cs) = blanked (label mode cs) := by
  fun_induction label mode cs with
  -- A backslash at the end of the text, which the scanner for commas reads as any other character.
  | case8 c cs quote escape ih =>
    have alone : c = '\\' → blankComments .literal cs = [] := by
      intro backslash
      cases cs with
      | nil => rfl
      | cons d ds => exact absurd rfl (escape d ds backslash)
    have step : blankComments .literal (c :: cs) = c :: blankComments .literal cs := by
      rw [blankComments] <;> assumption
    have inside : blankCommas true (blankComments .literal cs) = blanked (label .literal cs) := ih
    rw [decide_eq_true rfl, step, blankCommas_inner quote alone, inside]
    rfl
  | case12 c cs _ ih =>
    by_cases line_end : c = '\n'
    · simp_all [blankComments, blankCommas, blanked, uncommented, Mode.isComment, keepLineEnd]
    · simp_all [blankComments, blankCommas, blanked, uncommented, Mode.isComment, keepLineEnd]
  | _ =>
    simp_all [blankComments, blankCommas, blanked, uncommented, Mode.isComment, keepLineEnd,
      closesNext_blankComments]

theorem strip_eq (cs : List Char) : strip cs = blanked (label .code cs) :=
  blankCommas_blankComments .code cs

theorem length_blanked (ms : List (Mode × Char)) : (blanked ms).length = ms.length := by
  induction ms with
  | nil => rfl
  | cons m ms ih => simp [blanked, ih]

theorem length_strip (cs : List Char) : (strip cs).length = cs.length := by
  have labels := congrArg List.length (map_snd_label .code cs)
  rw [strip_eq, length_blanked, ← labels, List.length_map]

/-- Whether a character is a comma outside of literals and comments, and the next one that is neither
blank nor in a comment is a closing bracket. -/
def IsTrailing (ms : List (Mode × Char)) (i : Nat) : Prop :=
  ms[i]? = some (.code, ',') ∧ ∃ j m, i < j ∧ ms[j]? = some m ∧ isIdle m = false ∧
    (m.2 = ']' ∨ m.2 = '}') ∧ ∀ k m', i < k → k < j → ms[k]? = some m' → isIdle m'

theorem closesAhead_iff (ms : List (Mode × Char)) :
    closesAhead ms ↔ ∃ (j : Nat) (m : Mode × Char), ms[j]? = some m ∧ isIdle m = false ∧ (m.2 = ']' ∨ m.2 = '}') ∧
      ∀ (k : Nat) (m' : Mode × Char), k < j → ms[k]? = some m' → isIdle m' := by
  induction ms with
  | nil => simp [closesAhead]
  | cons m ms ih =>
    cases idle : isIdle m with
    | false =>
      have here : closesAhead (m :: ms) = (m.2 = ']' || m.2 = '}') := by
        simp [closesAhead, idle]
      rw [here]
      constructor
      · intro closes
        exact ⟨0, m, rfl, idle, by simpa using closes, by simp⟩
      · rintro ⟨j, m', found, -, closes, before⟩
        cases j with
        | zero =>
          obtain rfl : m = m' := by simpa using found
          simpa using closes
        | succ j => simp [before 0 m (by omega) rfl] at idle
    | true =>
      have later : closesAhead (m :: ms) = closesAhead ms := by
        simp [closesAhead, idle]
      rw [later, ih]
      constructor
      · rintro ⟨j, m', found, busy, closes, before⟩
        refine ⟨j + 1, m', by simpa using found, busy, closes, fun k m'' hk h => ?_⟩
        cases k with
        | zero =>
          obtain rfl : m = m'' := by simpa using h
          exact idle
        | succ k => exact before k m'' (by omega) (by simpa using h)
      · rintro ⟨j, m', found, busy, closes, before⟩
        cases j with
        | zero =>
          obtain rfl : m = m' := by simpa using found
          simp [idle] at busy
        | succ j =>
          exact ⟨j, m', by simpa using found, busy, closes, fun k m'' hk h =>
            before (k + 1) m'' (by omega) (by simpa using h)⟩

theorem getElem?_blanked (ms : List (Mode × Char)) (i : Nat) :
    (blanked ms)[i]? = ms[i]?.map fun m =>
      if m = (.code, ',') && closesAhead (ms.drop (i + 1)) then ' ' else uncommented m := by
  induction ms generalizing i with
  | nil => simp [blanked]
  | cons m ms ih =>
    cases i with
    | zero => simp [blanked]
    | succ i => simpa [blanked] using ih i

theorem isTrailing_iff (ms : List (Mode × Char)) (i : Nat) :
    IsTrailing ms i ↔ ms[i]? = some (.code, ',') ∧ closesAhead (ms.drop (i + 1)) := by
  rw [closesAhead_iff]
  refine and_congr_right fun _ => ⟨?_, ?_⟩
  · rintro ⟨j, m, later, found, busy, closes, before⟩
    obtain ⟨n, rfl⟩ : ∃ n, j = i + 1 + n := ⟨j - (i + 1), by omega⟩
    refine ⟨n, m, by rwa [List.getElem?_drop], busy, closes, fun k m' hk h => ?_⟩
    rw [List.getElem?_drop] at h
    exact before (i + 1 + k) m' (by omega) (by omega) h
  · rintro ⟨n, m, found, busy, closes, before⟩
    rw [List.getElem?_drop] at found
    refine ⟨i + 1 + n, m, by omega, found, busy, closes, fun k m' hk hk' h => ?_⟩
    obtain ⟨l, rfl⟩ : ∃ l, k = i + 1 + l := ⟨k - (i + 1), by omega⟩
    exact before l m' (by omega) (by rwa [List.getElem?_drop])

/-- Whether a character is replaced by a blank. -/
def IsBlanked (ms : List (Mode × Char)) (i : Nat) : Prop :=
  (∃ m, ms[i]? = some m ∧ m.1.isComment ∧ m.2 ≠ '\n') ∨ IsTrailing ms i

theorem getElem?_strip {cs : List Char} {i : Nat} {mode : Mode} {c : Char}
    (there : (label .code cs)[i]? = some (mode, c)) :
    (IsBlanked (label .code cs) i → (strip cs)[i]? = some ' ') ∧
      (¬IsBlanked (label .code cs) i → (strip cs)[i]? = some c) := by
  rw [strip_eq, getElem?_blanked, there, Option.map_some]
  by_cases trailing : IsTrailing (label .code cs) i
  · obtain ⟨comma, closes⟩ := (isTrailing_iff _ _).1 trailing
    obtain ⟨rfl, rfl⟩ : mode = .code ∧ c = ',' := by simpa [there] using comma
    exact ⟨fun _ => by simp [closes], fun kept => absurd (.inr trailing) kept⟩
  · have kept : ((mode, c) = (.code, ',') && closesAhead ((label .code cs).drop (i + 1))) = false := by
      rw [isTrailing_iff, there] at trailing
      simpa using trailing
    rw [kept, if_neg (by simp)]
    constructor
    · rintro (⟨m, h, comment, line_end⟩ | h)
      · obtain rfl : (mode, c) = m := by simpa [there] using h
        simp [uncommented, keepLineEnd, comment, line_end]
      · exact absurd h trailing
    · intro kept
      have plain : mode.isComment → c = '\n' := fun comment =>
        by_contra fun line_end => kept (.inl ⟨_, there, comment, line_end⟩)
      cases comment : mode.isComment with
      | false => simp [uncommented, comment]
      | true => simp [uncommented, keepLineEnd, comment, plain comment]

theorem isBlanked_of_eq {ms : List (Mode × Char)} {i : Nat} {m : Mode × Char} (there : ms[i]? = some m)
    (h : IsBlanked ms i) : m.1 ≠ .literal ∧ m.2 ≠ '\n' := by
  obtain ⟨m', there', comment, line_end⟩ | ⟨comma, -⟩ := h
  · obtain rfl : m = m' := by simpa [there] using there'
    exact ⟨fun literal => by simp [literal, Mode.isComment] at comment, line_end⟩
  · obtain rfl : m = (.code, ',') := by simpa [there] using comma
    exact ⟨by simp, by simp⟩

/-- Stripping works in place. However a text is cut into segments, a character becomes a blank if it is
in a comment and no line end, or a comma before a closing bracket, and every other one stays. -/
theorem strip_in_place (cs : List Char) :
    (∃ segments, Segmented segments cs) ∧
    ∀ segments, Segmented segments cs →
      let labels := segments.flatMap Segment.labels
      labels.map Prod.snd = cs ∧ (strip cs).length = cs.length ∧
      ∀ i mode c, labels[i]? = some (mode, c) →
        (IsBlanked labels i → (strip cs)[i]? = some ' ') ∧
        (¬IsBlanked labels i → (strip cs)[i]? = some c) ∧
        ((strip cs)[i]? = some '\n' ↔ c = '\n') ∧
        (mode = .literal → (strip cs)[i]? = some c) := by
  refine ⟨exists_segmented cs, fun segments segmented => ?_⟩
  rw [← label_segmented segmented]
  refine ⟨map_snd_label .code cs, length_strip cs, fun i mode c there => ?_⟩
  obtain ⟨blanked, kept⟩ := getElem?_strip there
  refine ⟨blanked, kept, ?_, ?_⟩
  · by_cases h : IsBlanked (label .code cs) i
    · have := (isBlanked_of_eq there h).2
      simp_all
    · simp [kept h]
  · rintro rfl
    exact kept fun h => (isBlanked_of_eq there h).1 rfl

example : strip "[1,/*]*/ ] \",]\" , // ,]".toList = "[1       ] \",]\" ,      ".toList := by decide

end ScopedCheck.Lenient
