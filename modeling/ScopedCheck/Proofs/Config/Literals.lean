import ScopedCheck.Proofs.Config.Blanking

namespace ScopedCheck.Lenient

/-- Whether the scanner for comments is inside of a literal, before each character and after the last
one. -/
def commentFlags : Mode → List Char → List Bool
  | mode, [] => [mode = .literal]
  | .code, '"' :: cs => false :: commentFlags .literal cs
  | .code, '/' :: '/' :: cs => false :: false :: commentFlags .lineComment cs
  | .code, '/' :: '*' :: cs => false :: false :: commentFlags .blockComment cs
  | .code, _ :: cs => false :: commentFlags .code cs
  | .literal, '"' :: cs => true :: commentFlags .code cs
  | .literal, '\\' :: _ :: cs => true :: true :: commentFlags .literal cs
  | .literal, _ :: cs => true :: commentFlags .literal cs
  | .lineComment, '\n' :: cs => false :: commentFlags .code cs
  | .lineComment, _ :: cs => false :: commentFlags .lineComment cs
  | .blockComment, '*' :: '/' :: cs => false :: false :: commentFlags .code cs
  | .blockComment, _ :: cs => false :: commentFlags .blockComment cs

/-- Whether the scanner for commas is inside of a literal, before each character and after the last
one. -/
def commaFlags : (inLiteral : Bool) → List Char → List Bool
  | inLiteral, [] => [inLiteral]
  | true, '\\' :: _ :: cs => true :: true :: commaFlags true cs
  | true, c :: cs => true :: commaFlags (c ≠ '"') cs
  | false, c :: cs => false :: commaFlags (c = '"') cs

/-- A backslash that stands alone at the end is still alone when the comments are blanked. -/
theorem alone_blankComments {c : Char} {cs : List Char}
    (alone : ∀ d ds, c = '\\' → cs = d :: ds → False) (backslash : c = '\\') :
    blankComments .literal cs = [] := by
  cases cs with
  | nil => rfl
  | cons d ds => exact (alone d ds backslash rfl).elim

theorem commaFlags_outside (c : Char) (cs : List Char) :
    commaFlags false (c :: cs) = false :: commaFlags (c = '"') cs := by
  rw [commaFlags]

theorem commaFlags_inside {c : Char} {cs : List Char} (alone : ∀ d ds, c = '\\' → cs ≠ d :: ds) :
    commaFlags true (c :: cs) = true :: commaFlags (c ≠ '"') cs := by
  rw [commaFlags]
  exact alone

/-- Both scanners are inside of a literal at the same places. -/
theorem commaFlags_blankComments (mode : Mode) (cs : List Char) :
    commaFlags (mode = .literal) (blankComments mode cs) = commentFlags mode cs := by
  fun_induction commentFlags mode cs with
  -- A backslash at the end of the text.
  | case8 c cs quote escape ih =>
    have step : blankComments .literal (c :: cs) = c :: blankComments .literal cs := by
      rw [blankComments] <;> assumption
    have inside : commaFlags true (blankComments .literal cs) = commentFlags .literal cs := ih
    have other : decide (c ≠ '"') = true := decide_eq_true quote
    rw [decide_eq_true rfl, step, commaFlags_inside, other, inside]
    intro d ds backslash
    simp [alone_blankComments escape backslash]
  | case12 c cs _ ih =>
    by_cases line_end : c = '\n'
    · simp_all [blankComments, commaFlags]
    · simp_all [blankComments, commaFlags]
  | _ => simp_all [blankComments, commaFlags]

theorem getElem?_zero_commentFlags (mode : Mode) (cs : List Char) :
    (commentFlags mode cs)[0]? = some (decide (mode = .literal)) := by
  fun_cases commentFlags mode cs <;> simp

/-- A character belongs to a literal, of which the quotes are part, if the scanner is inside of it before
or after the character. -/
theorem label_literal_iff (mode : Mode) (cs : List Char) (i : Nat) :
    (∃ c, (label mode cs)[i]? = some (.literal, c)) ↔ i < cs.length ∧
      ((commentFlags mode cs)[i]? = some true ∨ (commentFlags mode cs)[i + 1]? = some true) := by
  fun_induction label mode cs generalizing i with
  | case1 => simp
  | case3 cs ih | case4 cs ih | case7 c cs ih | case11 cs ih =>
    rcases i with _ | _ | i
    · simp [commentFlags]
    · simp [commentFlags, getElem?_zero_commentFlags]
    · simpa [commentFlags] using ih i
  | case2 cs ih | case6 cs ih | case9 cs ih | case5 c cs _ _ _ ih | case8 c cs _ _ ih
    | case10 c cs _ ih | case12 c cs _ ih =>
    cases i with
    | zero => simp_all [commentFlags, getElem?_zero_commentFlags]
    | succ i => simpa [commentFlags] using ih i

/-- Whether no comment begins outside of the literals that the scanner for commas sees. -/
def Bare (inLiteral : Bool) (cs : List Char) : Prop :=
  ∀ i : Nat, (commaFlags inLiteral cs)[i]? = some false → cs[i]? = some '/' →
    cs[i + 1]? ≠ some '/' ∧ cs[i + 1]? ≠ some '*'

theorem bare_nil (inLiteral : Bool) : Bare inLiteral [] := by
  intro i _ slash
  simp at slash

theorem bare_outside {c : Char} {cs : List Char} : Bare false (c :: cs) ↔
    (c = '/' → cs.head? ≠ some '/' ∧ cs.head? ≠ some '*') ∧ Bare (c = '"') cs := by
  have step := commaFlags_outside c cs
  constructor
  · intro bare
    refine ⟨fun slash => ?_, fun i outside slash => ?_⟩
    · simpa [List.head?_eq_getElem?] using bare 0 (by simp [step]) (by simp [slash])
    · exact bare (i + 1) (by simpa [step] using outside) slash
  · rintro ⟨first, others⟩ i outside slash
    cases i with
    | zero => simpa [List.head?_eq_getElem?] using first (by simpa using slash)
    | succ i => exact others i (by simpa [step] using outside) slash

theorem bare_inside {c : Char} {cs : List Char} (alone : ∀ d ds, c = '\\' → cs ≠ d :: ds) :
    Bare true (c :: cs) ↔ Bare (c ≠ '"') cs := by
  have step := commaFlags_inside alone
  constructor
  · intro bare i outside slash
    exact bare (i + 1) (by simpa [step] using outside) slash
  · intro bare i outside slash
    cases i with
    | zero => simp [step] at outside
    | succ i => exact bare i (by simpa [step] using outside) slash

theorem bare_escape {c : Char} {cs : List Char} : Bare true ('\\' :: c :: cs) ↔ Bare true cs := by
  have step : commaFlags true ('\\' :: c :: cs) = true :: true :: commaFlags true cs := by
    rw [commaFlags]
  constructor
  · intro bare i outside slash
    exact bare (i + 2) (by simpa [step] using outside) slash
  · intro bare i outside slash
    match i with
    | 0 => simp [step] at outside
    | 1 => simp [step] at outside
    | i + 2 => exact bare i (by simpa [step] using outside) slash

theorem getElem?_blankComments {mode : Mode} {cs : List Char} {i : Nat} {d : Char}
    (there : (blankComments mode cs)[i]? = some d) : d = ' ' ∨ cs[i]? = some d := by
  rw [blankComments_eq, List.getElem?_map, Option.map_eq_some_iff] at there
  obtain ⟨m, labelled, rfl⟩ := there
  have same : cs[i]? = some m.2 := by
    have labels := congrArg (·[i]?) (map_snd_label mode cs)
    simpa [labelled] using labels.symm
  unfold uncommented keepLineEnd
  split_ifs with comment line_end
  · exact .inr (by rw [same, line_end])
  · exact .inl rfl
  · exact .inr same

theorem bare_plain {c : Char} {cs : List Char} (slash : c ≠ '/') (quote : c ≠ '"') :
    Bare false (c :: cs) ↔ Bare false cs := by
  rw [bare_outside, decide_eq_false quote]
  exact and_iff_right fun same => absurd same slash

/-- No comment is left outside of the literals. -/
theorem bare_blankComments (mode : Mode) (cs : List Char) :
    Bare (mode = .literal) (blankComments mode cs) := by
  have blank (cs : List Char) : Bare false (' ' :: cs) ↔ Bare false cs :=
    bare_plain (by decide) (by decide)
  have line_end (cs : List Char) : Bare false ('\n' :: cs) ↔ Bare false cs :=
    bare_plain (by decide) (by decide)
  fun_induction blankComments mode cs with
  | case1 => exact bare_nil _
  | case2 cs ih => exact bare_outside.2 ⟨by simp, ih⟩
  | case3 cs ih => exact (blank _).2 ((blank _).2 ih)
  | case4 cs ih => exact (blank _).2 ((blank _).2 ih)
  | case5 c cs quote line block ih =>
    -- What stands behind a slash is copied or becomes a space, so no second mark comes to stand there.
    have first (d : Char) (closed : d ≠ ' ') (other : cs.head? ≠ some d) :
        (blankComments .code cs).head? ≠ some d := by
      intro there
      rw [List.head?_eq_getElem?] at there other
      exact (getElem?_blankComments there).elim closed other
    refine bare_outside.2 ⟨fun slash => ⟨first '/' (by decide) ?_, first '*' (by decide) ?_⟩, ?_⟩
    · intro there
      obtain ⟨rest, split⟩ := List.head?_eq_some_iff.1 there
      exact line rest slash split
    · intro there
      obtain ⟨rest, split⟩ := List.head?_eq_some_iff.1 there
      exact block rest slash split
    · rwa [decide_eq_false quote]
  | case6 cs ih => exact (bare_inside (by simp)).2 ih
  | case7 c cs ih => exact bare_escape.2 ih
  | case8 c cs quote escape ih =>
    have other : decide (c ≠ '"') = true := decide_eq_true quote
    refine (bare_inside fun d ds backslash => ?_).2 ?_
    · simp [alone_blankComments escape backslash]
    · rwa [other]
  | case9 cs ih => exact (line_end _).2 ih
  | case10 c cs _ ih => exact (blank _).2 ih
  | case11 cs ih => exact (blank _).2 ((blank _).2 ih)
  | case12 c cs _ ih =>
    split_ifs
    · exact (line_end _).2 ih
    · exact (blank _).2 ih

/-- Blanking the comments changes nothing where there are none. -/
theorem blankComments_of_bare {inLiteral : Bool} {cs : List Char} (bare : Bare inLiteral cs) :
    blankComments (if inLiteral then .literal else .code) cs = cs := by
  fun_induction commaFlags inLiteral cs with
  | case1 inLiteral => cases inLiteral <;> rfl
  | case2 c cs ih =>
    have rest := ih (bare_escape.1 bare)
    rw [if_pos rfl] at rest ⊢
    rw [blankComments, rest]
  | case3 c cs escape ih =>
    have rest := ih ((bare_inside escape).1 bare)
    by_cases quote : c = '"'
    · subst quote
      simpa [blankComments] using rest
    · have step : blankComments .literal (c :: cs) = c :: blankComments .literal cs := by
        rw [blankComments] <;> assumption
      simp only [if_pos, decide_eq_true quote] at rest ⊢
      rw [step, rest]
  | case4 c cs ih =>
    obtain ⟨first, others⟩ := bare_outside.1 bare
    have rest := ih others
    by_cases quote : c = '"'
    · subst quote
      simpa [blankComments] using rest
    · have step : blankComments .code (c :: cs) = c :: blankComments .code cs := by
        rw [blankComments]
        · exact quote
        · rintro ds slash rfl
          exact (first slash).1 rfl
        · rintro ds slash rfl
          exact (first slash).2 rfl
      simp only [decide_eq_false quote] at rest ⊢
      rw [if_neg (by simp)] at rest ⊢
      rw [step, rest]

theorem bare_withoutComments (cs : List Char) : Bare false (withoutComments cs) :=
  bare_blankComments .code cs

theorem withoutComments_of_bare {cs : List Char} (bare : Bare false cs) : withoutComments cs = cs :=
  blankComments_of_bare bare

/-- The scanner for commas would be in the same literals again. -/
theorem commaFlags_blankCommas (inLiteral : Bool) (cs : List Char) :
    commaFlags inLiteral (blankCommas inLiteral cs) = commaFlags inLiteral cs := by
  fun_induction commaFlags inLiteral cs with
  | case1 inLiteral => cases inLiteral <;> rfl
  | case2 c cs ih => rw [blankCommas, commaFlags, ih]
  | case3 c cs escape ih =>
    have step : blankCommas true (c :: cs) = c :: blankCommas (c ≠ '"') cs := by
      rw [blankCommas]
      exact escape
    rw [step, commaFlags_inside, ih]
    intro d ds backslash more
    cases cs with
    | nil => simp [blankCommas] at more
    | cons d ds => exact escape d ds backslash rfl
  | case4 c cs ih =>
    have kept : ((if c = ',' && closesNext cs then ' ' else c) = '"') = (c = '"') := by
      by_cases comma : c = ','
      · subst comma
        cases closesNext cs <;> simp
      · simp [comma]
    rw [blankCommas, commaFlags_outside]
    simp only [kept, ih]

/-- A comma is looked at where the scanner is not inside of a literal. -/
theorem getElem?_blankCommas (inLiteral : Bool) (cs : List Char) (i : Nat) :
    (blankCommas inLiteral cs)[i]? = cs[i]?.map fun c =>
      if (commaFlags inLiteral cs)[i]? = some false ∧ c = ',' ∧ closesNext (cs.drop (i + 1)) then ' '
      else c := by
  fun_induction blankCommas inLiteral cs generalizing i with
  | case1 => simp
  | case2 c cs ih =>
    match i with
    | 0 => simp
    | 1 => simp [commaFlags]
    | i + 2 => simpa [commaFlags] using ih i
  | case3 c cs escape ih =>
    have step := commaFlags_inside escape
    cases i with
    | zero => simp [step]
    | succ i => simpa [step] using ih i
  | case4 c cs ih =>
    have step := commaFlags_outside c cs
    cases i with
    | zero => simp [step]
    | succ i => simpa [step] using ih i

theorem bare_withoutTrailingCommas {cs : List Char} (bare : Bare false cs) :
    Bare false (withoutTrailingCommas cs) := by
  intro i outside slash
  have kept {j : Nat} {d : Char} (closed : d ≠ ' ') (there : (withoutTrailingCommas cs)[j]? = some d) :
      cs[j]? = some d := by
    rw [withoutTrailingCommas, getElem?_blankCommas, Option.map_eq_some_iff] at there
    obtain ⟨c, same, rfl⟩ := there
    split_ifs at closed with comma
    · exact absurd rfl closed
    · rw [if_neg comma, same]
  rw [withoutTrailingCommas, commaFlags_blankCommas] at outside
  obtain ⟨line, block⟩ := bare i outside (kept (by decide) slash)
  exact ⟨fun there => line (kept (by decide) there), fun there => block (kept (by decide) there)⟩

/-- The two scanners agree on the literals, no comment is left outside of them, and so comments that are
blanked stay so. The first two parts say what the scanners do to a character by where they are: the one
for comments blanks what belongs to a comment, and the one for commas looks at those outside of a
literal. -/
theorem withoutComments_agrees (cs : List Char) :
    (withoutComments cs = (label .code cs).map uncommented ∧ (label .code cs).map (·.2) = cs) ∧
    (∀ i : Nat, (strip cs)[i]? = (withoutComments cs)[i]?.map fun c =>
      if (commaFlags false (withoutComments cs))[i]? = some false ∧ c = ',' ∧
        closesNext ((withoutComments cs).drop (i + 1)) then ' ' else c) ∧
    (∀ i : Nat, (commentFlags .code cs)[i]? = (commaFlags false (withoutComments cs))[i]?) ∧
    (∀ i : Nat, (∃ c, (label .code cs)[i]? = some (.literal, c)) ↔ i < cs.length ∧
      ((commaFlags false (withoutComments cs))[i]? = some true ∨
        (commaFlags false (withoutComments cs))[i + 1]? = some true)) ∧
    (∀ i : Nat, (commaFlags false (withoutComments cs))[i]? = some false →
      (withoutComments cs)[i]? = some '/' →
        (withoutComments cs)[i + 1]? ≠ some '/' ∧ (withoutComments cs)[i + 1]? ≠ some '*') ∧
    withoutComments (withoutComments cs) = withoutComments cs ∧
    withoutComments (strip cs) = strip cs := by
  have flags : commaFlags false (withoutComments cs) = commentFlags .code cs :=
    commaFlags_blankComments .code cs
  have bare := bare_withoutComments cs
  have blanked : withoutComments cs = (label .code cs).map uncommented := blankComments_eq .code cs
  refine ⟨⟨blanked, map_snd_label .code cs⟩, getElem?_blankCommas false _, fun i => by rw [flags],
    fun i => ?_, bare, withoutComments_of_bare bare, ?_⟩
  · rw [flags]
    exact label_literal_iff .code cs i
  · exact withoutComments_of_bare (bare_withoutTrailingCommas bare)

/-- A slash behind a comment, which a quote in that comment does not make part of a literal. -/
theorem withoutComments_agrees_slash :
    let stripped := withoutComments "/*\"*// \"//\" ,/".toList
    (commaFlags false stripped)[5]? = some false ∧ stripped[5]? = some '/' ∧
      stripped[6]? ≠ some '/' ∧ stripped[6]? ≠ some '*' := by
  have outside : (commaFlags false (withoutComments "/*\"*// \"//\" ,/".toList))[5]? = some false := by
    decide
  have slash : (withoutComments "/*\"*// \"//\" ,/".toList)[5]? = some '/' := by decide
  obtain ⟨-, -, -, -, bare, -⟩ := withoutComments_agrees "/*\"*// \"//\" ,/".toList
  exact ⟨outside, slash, bare 5 outside slash⟩

end ScopedCheck.Lenient
