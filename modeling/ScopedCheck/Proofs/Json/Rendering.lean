import ScopedCheck.Json.Printer
import ScopedCheck.Proofs.Json.Grammar
import ScopedCheck.Proofs.Json.Part

namespace ScopedCheck.Json

namespace Literal

/-- A character is written as a letter after a backslash, as two hexadecimal digits, or as itself. -/
theorem writeChar_cases (c : Char) :
    (∃ letter, escaped? letter = some c ∧ writeChar c = ['\\', letter]) ∨
    (c.toNat < 0x20 ∧ writeChar c =
      ['\\', 'u', '0', '0', Nat.digitChar (c.toNat / 16), Nat.digitChar (c.toNat % 16)]) ∨
    ((c ≠ '"' ∧ c ≠ '\\' ∧ 0x20 ≤ c.toNat) ∧ writeChar c = [c]) := by
  unfold writeChar
  split_ifs with quote backslash b f n r t control
  · exact .inl ⟨'"', by simp [escaped?, quote], rfl⟩
  · exact .inl ⟨'\\', by simp [escaped?, backslash], rfl⟩
  · exact .inl ⟨'b', by simp [escaped?, b], rfl⟩
  · exact .inl ⟨'f', by simp [escaped?, f], rfl⟩
  · exact .inl ⟨'n', by simp [escaped?, n], rfl⟩
  · exact .inl ⟨'r', by simp [escaped?, r], rfl⟩
  · exact .inl ⟨'t', by simp [escaped?, t], rfl⟩
  · exact .inr (.inl ⟨control, rfl⟩)
  · exact .inr (.inr ⟨⟨quote, backslash, Nat.not_lt.1 control⟩, rfl⟩)

theorem hex4_control {n : Nat} (h : n < 0x20) :
    hex4? '0' '0' (Nat.digitChar (n / 16)) (Nat.digitChar (n % 16)) = some n := by
  have all : ∀ n < 0x20,
      hex4? '0' '0' (Nat.digitChar (n / 16)) (Nat.digitChar (n % 16)) = some n := by decide
  exact all n h

theorem read_writeChar (c : Char) (cs : List Char) : read (writeChar c ++ cs) = push c (read cs) := by
  obtain ⟨letter, hl, hw⟩ | ⟨control, hw⟩ | ⟨⟨quote, backslash, not_control⟩, hw⟩ :=
    writeChar_cases c
  · rw [hw, List.cons_append, List.cons_append, List.nil_append, read_escape hl]
  · have low : ¬isLowSurrogate c.toNat := by simp [isLowSurrogate]; omega
    have high : ¬isHighSurrogate c.toNat := by simp [isHighSurrogate]; omega
    rw [hw]
    simp only [List.cons_append, List.nil_append]
    rw [read_unicode_plain (hex4_control control) low high, Char.ofNat_toNat]
  · rw [hw, List.cons_append, List.nil_append, read_plain quote backslash not_control]

theorem isBody_writeChar (c : Char) {cs : List Char} (h : IsBody cs) : IsBody (writeChar c ++ cs) := by
  obtain ⟨letter, hl, hw⟩ | ⟨control, hw⟩ | ⟨⟨quote, backslash, not_control⟩, hw⟩ :=
    writeChar_cases c
  · rw [hw]
    exact .escape (mem_of_escaped hl) h
  · rw [hw]
    exact .unicode (isHexDigit_of_hex4 (hex4_control control)) h
  · rw [hw]
    exact .plain quote backslash not_control h

theorem isBody_write (s : List Char) : IsBody (s.flatMap writeChar) := by
  induction s with
  | nil => exact .nil
  | cons c s ih => exact isBody_writeChar c ih

theorem chars?_write (s : List Char) : chars? (s.flatMap writeChar) = some s := by
  induction s with
  | nil => rfl
  | cons c s ih =>
    simp only [chars?, Option.map_eq_some_iff] at ih ⊢
    obtain ⟨p, hp, rfl⟩ := ih
    rw [List.flatMap_cons, List.append_assoc, read_writeChar, toOption_push, hp]
    exact ⟨_, rfl, rfl⟩

end Literal

namespace Numeral

theorem head_toDigits {n : Nat} (h : 0 < n) : (Nat.toDigits 10 n).head? ≠ some '0' := by
  induction n using Nat.base_induction 10 (by decide) with
  | single n hn =>
    have small : ∀ n < 10, 0 < n → Nat.digitChar n ≠ '0' := by decide
    simpa [Nat.toDigits_of_lt_base hn] using small n hn h
  | digit m k hk hm ih =>
    rw [← Nat.toDigits_append_toDigits (by decide) hm hk, List.head?_append_of_ne_nil _ Nat.toDigits_ne_nil]
    exact ih hm

theorem isWhole_toDigits (n : Nat) : IsWhole (Nat.toDigits 10 n) := by
  obtain rfl | h := Nat.eq_zero_or_pos n
  · exact .inl rfl
  · refine .inr ⟨⟨Nat.toDigits_ne_nil, fun c hc => ?_⟩, head_toDigits h⟩
    exact Nat.isDigit_of_mem_toDigits (by decide) (by decide) hc

theorem le_ofDigitChars (ds : List Char) (n : Nat) : n ≤ Nat.ofDigitChars 10 ds n := by
  rw [Nat.ofDigitChars_eq_ofDigitChars_zero]
  have : n ≤ 10 ^ ds.length * n := Nat.le_mul_of_pos_left n (by positivity)
  omega

theorem absorb_of_lt {bound : Nat} (ds : List Char) (n : Nat)
    (h : Nat.ofDigitChars 10 ds n < bound) :
    absorb bound n (ds.map digitValue) = (Nat.ofDigitChars 10 ds n, []) := by
  induction ds generalizing n with
  | nil => rfl
  | cons d ds ih =>
    rw [Nat.ofDigitChars_cons] at h ⊢
    have room : 10 * n + digitValue d < bound :=
      Nat.lt_of_le_of_lt (le_ofDigitChars ds _) h
    rw [List.map_cons, absorb, if_pos room]
    exact ih _ h

/-- What a whole number within bounds denotes: itself, with no digits left over. -/
theorem toNumber_whole {n : Int} (fits : -0x8000000000000000 ≤ n ∧ n < 0x10000000000000000) :
    toNumber ⟨decide (n < 0), (Nat.toDigits 10 n.natAbs).map digitValue, none, none⟩ =
      .ok (.whole n fits) := by
  have small : n.natAbs < significandBound := by
    simp only [significandBound]
    omega
  have absorbed : absorb significandBound 0 ((Nat.toDigits 10 n.natAbs).map digitValue) =
      (n.natAbs, []) := by
    have := absorb_of_lt (Nat.toDigits 10 n.natAbs) 0
      (by rwa [Nat.ofDigitChars_ten_toDigits])
    rwa [Nat.ofDigitChars_ten_toDigits] at this
  have value : (if decide (n < 0) = true then -(n.natAbs : Int) else n.natAbs) = n := by
    by_cases negative : n < 0
    · rw [decide_eq_true negative, if_pos rfl]
      omega
    · rw [decide_eq_false negative, if_neg (by decide)]
      omega
  have not_zero : (decide (n < 0) && decide (n.natAbs = 0)) = false := by
    rw [← Bool.decide_and, decide_eq_false_iff_not]
    omega
  simp only [toNumber, mantissa, absorbed, Option.getD_none, absorb, Option.isSome_none,
    List.isEmpty_nil, Bool.not_true, Bool.or_false, not_zero, value, dif_pos fits]
  rfl

end Numeral

section

variable {n : Int} (fits : -0x8000000000000000 ≤ n ∧ n < 0x10000000000000000)

theorem isText_render : Numeral.IsText (Number.whole n fits).render := by
  refine ⟨if n < 0 then ['-'] else [], Nat.toDigits 10 n.natAbs, [], [], ?_,
    Numeral.isWhole_toDigits _, .inl rfl, .inl rfl, by simp [Number.render]⟩
  split_ifs
  · exact .inr rfl
  · exact .inl rfl

/-- A whole number is read back from its digits. -/
theorem wordValue_render :
    wordValue? (Number.whole n fits).render = some (.number (.whole n fits)) := by
  obtain ⟨c, cs, hcs, hc⟩ := Numeral.exists_cons_of_isText (isText_render fits)
  have sign : decide ((if n < 0 then ['-'] else []) = ['-']) = decide (n < 0) := by
    split_ifs <;> simp_all
  have read : Numeral.read (Number.whole n fits).render =
      .ok (⟨decide (n < 0), (Nat.toDigits 10 n.natAbs).map Numeral.digitValue, none, none⟩, []) := by
    have isSign : Numeral.IsSign (if n < 0 then ['-'] else []) := by
      split_ifs
      · exact .inr rfl
      · exact .inl rfl
    have := @Numeral.read_parts _ _ [] [] [] none none isSign
      (Numeral.isWhole_toDigits n.natAbs) (by simp) rfl rfl
    rwa [sign, List.append_nil] at this
  rw [hcs] at read ⊢
  rw [wordValue?, readNode_number hc, readNumber, read]
  simp only [bind, Except.bind, Numeral.toNumber_whole fits]
  rfl

end

namespace Begins

theorem of_text (t : Token) (rest : List Char) : Begins [t] (t.text ++ rest) rest :=
  token (skipBlank_text t rest)

theorem blanks {us : List Token} {g cs rest : List Char} (hg : IsBlanks g) (h : Begins us cs rest) :
    Begins us (g ++ cs) rest :=
  fun ts hts => spaced_append hg (h ts hts)

end Begins

theorem isBlanks_lineStart (level : Nat) : IsBlanks (lineStart level) :=
  isBlanks_cons.2 ⟨rfl, isBlanks_replicate _⟩

theorem isBlanks_lastLine (empty : Bool) (level : Nat) :
    IsBlanks (if empty then [] else lineStart level) := by
  cases empty with
  | true => exact isBlanks_nil
  | false => exact isBlanks_lineStart level

theorem begins_comma (first : Bool) (cs : List Char) :
    Begins (commaIf (!first)) ((if first then [] else [',']) ++ cs) cs := by
  cases first with
  | true => exact fun ts hts => hts
  | false => exact .of_text (.mark .comma) cs

/-- Whether a form stands for a value, and every written form of the value is a text of it. -/
def IsForm (n : Nat) (v : Value) (form : Form) : Prop :=
  form.value? n = some v ∧ ∀ level rest, Begins (form.tokens false) (render level v ++ rest) rest

theorem exists_items {n : Nat} {items : List Value} (h : ∀ v ∈ items, ∃ form, IsForm n v form) :
    ∃ forms, itemValues? n forms = some items ∧ ∀ level first rest,
      Begins (itemTokens false first forms) (renderItems level first items ++ rest) rest := by
  induction items with
  | nil => exact ⟨[], rfl, fun _ _ _ _ hts => hts⟩
  | cons v vs ih =>
    simp only [List.forall_mem_cons] at h
    obtain ⟨⟨form, hv, hform⟩, h⟩ := h
    obtain ⟨forms, hvs, hforms⟩ := ih h
    refine ⟨form :: forms, by simp [itemValues?, hv, hvs], fun level first rest => ?_⟩
    simp only [itemTokens, renderItems, List.append_assoc]
    exact (begins_comma first _).append ((Begins.blanks (isBlanks_lineStart level)
      (hform level _)).append (hforms level false rest))

/-- The body of a literal as it is written. -/
def writtenBody (s : String) : Body :=
  ⟨s.toList.flatMap Literal.writeChar, Literal.isBody_write s.toList⟩

theorem begins_write (s : String) (rest : List Char) :
    Begins [.literal (writtenBody s)] (Literal.write s ++ rest) rest :=
  .of_text (.literal (writtenBody s)) rest

theorem exists_members {n : Nat} {members : Members}
    (h : ∀ m ∈ members, ∃ form, IsForm n m.2 form) :
    ∃ forms, memberValues? n forms = some members ∧ ∀ level first rest,
      Begins (memberTokens false first forms) (renderMembers level first members ++ rest) rest := by
  induction members with
  | nil => exact ⟨[], rfl, fun _ _ _ _ hts => hts⟩
  | cons m ms ih =>
    obtain ⟨key, v⟩ := m
    simp only [List.forall_mem_cons] at h
    obtain ⟨⟨form, hv, hform⟩, h⟩ := h
    obtain ⟨forms, hms, hforms⟩ := ih h
    refine ⟨(writtenBody key, form) :: forms, ?_, fun level first rest => ?_⟩
    · simp [memberValues?, writtenBody, Literal.chars?_write, hv, hms]
    · simp only [memberTokens, renderMembers, List.append_assoc, List.cons_append]
      have colon (cs : List Char) : Begins [.mark .colon] (':' :: cs) cs :=
        .of_text (.mark .colon) cs
      have value : Begins (form.tokens false) (' ' :: (render level v ++ _)) _ :=
        Begins.blanks (g := [' ']) (by simp [isBlank]) (hform level (renderMembers level false ms ++ rest))
      exact (begins_comma first _).append ((Begins.blanks (isBlanks_lineStart level)
        (begins_write key _)).append ((colon _).append (value.append (hforms level false rest))))

/-- A value without fractions that has distinct keys is a form, however it is written. -/
theorem exists_isForm {v : Value} (whole : v.Whole) (distinct : v.Distinct) {n : Nat}
    (hn : v.levels ≤ n) : ∃ form, IsForm n v form := by
  induction v using Value.induction generalizing n with
  | null => exact ⟨.word ⟨_, .null⟩, rfl, fun _ => .of_text (.word ⟨_, .null⟩)⟩
  | bool b =>
    cases b with
    | true => exact ⟨.word ⟨_, .true⟩, rfl, fun _ => .of_text (.word ⟨_, .true⟩)⟩
    | false => exact ⟨.word ⟨_, .false⟩, rfl, fun _ => .of_text (.word ⟨_, .false⟩)⟩
  | number x =>
    cases x with
    | whole x fits =>
      exact ⟨.word ⟨_, .numeral (isText_render fits)⟩, wordValue_render fits, fun _ =>
        .of_text (.word ⟨_, .numeral (isText_render fits)⟩)⟩
    | real x => exact absurd .self (whole x)
  | string s =>
    refine ⟨.literal (writtenBody s), ?_, fun _ => begins_write s⟩
    simp [Form.value?, writtenBody, Literal.chars?_write]
  | array items ih =>
    cases n with
    | zero => simp [Value.levels] at hn
    | succ n =>
      obtain ⟨forms, hforms, hbegins⟩ := exists_items fun v hv =>
        ih v hv (Value.whole_array_iff.1 whole v hv) (Value.distinct_array_iff.1 distinct v hv)
          (Value.levels_array_le.1 hn v hv)
      refine ⟨.array forms false, by simp [Form.value?, hforms], fun level rest => ?_⟩
      simp only [Form.tokens, render, List.cons_append, List.append_assoc]
      exact (Begins.of_text (.mark .openArray) _).append ((hbegins (level + 1) true _).append
        (Begins.blanks (isBlanks_lastLine _ level) (.of_text (.mark .closeArray) rest)))
  | object members ih =>
    cases n with
    | zero => simp [Value.levels] at hn
    | succ n =>
      obtain ⟨keys, inner⟩ := Value.distinct_object_iff.1 distinct
      obtain ⟨forms, hforms, hbegins⟩ := exists_members fun m hm =>
        ih m hm (Value.whole_object_iff.1 whole m hm) (inner m hm)
          (Value.levels_object_le.1 hn m hm)
      have same := Members.ofPairs_of_nodup keys
      refine ⟨.object forms false, by simp [Form.value?, hforms, same], fun level rest => ?_⟩
      simp only [Form.tokens, render, List.cons_append, List.append_assoc]
      exact (Begins.of_text (.mark .openObject) _).append ((hbegins (level + 1) true _).append
        (Begins.blanks (isBlanks_lastLine _ level) (.of_text (.mark .closeObject) rest)))

/-- The text of a value is a strict text that is read back as the value. -/
theorem exists_spaced_render {v : Value} (whole : v.Whole) (distinct : v.Distinct)
    (hn : v.levels ≤ maxLevels) (level : Nat) :
    ∃ form : Form, Spaced (form.tokens false) (render level v) ∧ form.value? maxLevels = some v := by
  obtain ⟨form, value, begins⟩ := exists_isForm whole distinct hn
  have := begins level [] [] (.nil isBlanks_nil)
  rw [List.append_nil, List.append_nil] at this
  exact ⟨form, this, value⟩

end ScopedCheck.Json
