import Mathlib.Tactic
import ScopedCheck.Json.Reader

namespace ScopedCheck.Json

namespace Literal

def IsHexDigit (c : Char) : Prop :=
  c.isDigit ∨ ('a' ≤ c ∧ c ≤ 'f') ∨ ('A' ≤ c ∧ c ≤ 'F')

/-- What may stand between the two quotes of a literal. -/
inductive IsBody : List Char → Prop where
  | nil : IsBody []
  | plain {c : Char} {cs : List Char} (not_quote : c ≠ '"') (not_backslash : c ≠ '\\')
      (not_control : 0x20 ≤ c.toNat) (rest : IsBody cs) : IsBody (c :: cs)
  | escape {c : Char} {cs : List Char} (letter : c ∈ ['"', '\\', '/', 'b', 'f', 'n', 'r', 't'])
      (rest : IsBody cs) : IsBody ('\\' :: c :: cs)
  | unicode {a b c d : Char} {cs : List Char} (digits : ∀ x ∈ [a, b, c, d], IsHexDigit x)
      (rest : IsBody cs) : IsBody ('\\' :: 'u' :: a :: b :: c :: d :: cs)

theorem exists_hexValue {c : Char} (h : IsHexDigit c) : ∃ n, hexValue? c = some n := by
  unfold hexValue?
  split_ifs with digit small capital
  · exact ⟨_, rfl⟩
  · exact ⟨_, rfl⟩
  · exact ⟨_, rfl⟩
  · simp [IsHexDigit, digit, small, capital] at h

theorem exists_hex4 {a b c d : Char} (h : ∀ x ∈ [a, b, c, d], IsHexDigit x) :
    ∃ n, hex4? a b c d = some n := by
  obtain ⟨i, hi⟩ := exists_hexValue (h a (by simp))
  obtain ⟨j, hj⟩ := exists_hexValue (h b (by simp))
  obtain ⟨k, hk⟩ := exists_hexValue (h c (by simp))
  obtain ⟨l, hl⟩ := exists_hexValue (h d (by simp))
  exact ⟨((i * 16 + j) * 16 + k) * 16 + l, by simp [hex4?, hi, hj, hk, hl]⟩

theorem exists_escaped {c : Char} (h : c ∈ ['"', '\\', '/', 'b', 'f', 'n', 'r', 't']) :
    ∃ e, escaped? c = some e := by
  simp only [List.mem_cons, List.not_mem_nil, or_false] at h
  obtain rfl | rfl | rfl | rfl | rfl | rfl | rfl | rfl := h <;> exact ⟨_, rfl⟩

theorem toOption_push (c : Char) (result : Except Refusal (List Char × List Char)) :
    (push c result).toOption = result.toOption.map fun p => (c :: p.1, p.2) := by
  cases result <;> rfl

theorem read_plain {c : Char} (not_quote : c ≠ '"') (not_backslash : c ≠ '\\')
    (not_control : 0x20 ≤ c.toNat) (cs : List Char) : read (c :: cs) = push c (read cs) := by
  have h : ¬c.toNat < 0x20 := Nat.not_lt.mpr not_control
  rw [read]
  · rw [if_neg h]
  all_goals simp_all

theorem read_escape {c e : Char} (h : escaped? c = some e) (cs : List Char) :
    read ('\\' :: c :: cs) = push e (read cs) := by
  have hu : c ≠ 'u' := by rintro rfl; simp [escaped?] at h
  rw [read]
  · rw [h]
  all_goals simp_all

/-- What the reader makes of a body that a quote closes. -/
def chars? (body : List Char) : Option (List Char) :=
  (read (body ++ ['"'])).toOption.map Prod.fst

theorem read_unicode_low {a b c d : Char} {n : Nat} (hn : hex4? a b c d = some n)
    (low : isLowSurrogate n) (cs : List Char) :
    (read ('\\' :: 'u' :: a :: b :: c :: d :: cs)).toOption = none := by
  simp [read, hn, low, Except.toOption]

theorem read_unicode_plain {a b c d : Char} {n : Nat} (hn : hex4? a b c d = some n)
    (low : ¬isLowSurrogate n) (high : ¬isHighSurrogate n) (cs : List Char) :
    read ('\\' :: 'u' :: a :: b :: c :: d :: cs) = push (Char.ofNat n) (read cs) := by
  simp [read, hn, low, high]

theorem read_unicode_pair {a b c d a' b' c' d' : Char} {n m : Nat} (hn : hex4? a b c d = some n)
    (low : ¬isLowSurrogate n) (high : isHighSurrogate n) (hm : hex4? a' b' c' d' = some m)
    (low' : isLowSurrogate m) (cs : List Char) :
    read ('\\' :: 'u' :: a :: b :: c :: d :: '\\' :: 'u' :: a' :: b' :: c' :: d' :: cs) =
      push (joinSurrogates n m) (read cs) := by
  rw [read]
  simp [hn, low, high, hm, low']

theorem read_unicode_unpaired {a b c d a' b' c' d' : Char} {n m : Nat}
    (hn : hex4? a b c d = some n) (low : ¬isLowSurrogate n) (high : isHighSurrogate n)
    (hm : hex4? a' b' c' d' = some m) (low' : ¬isLowSurrogate m) (cs : List Char) :
    (read ('\\' :: 'u' :: a :: b :: c :: d :: '\\' :: 'u' :: a' :: b' :: c' :: d' :: cs)).toOption =
      none := by
  rw [read]
  simp [hn, low, high, hm, low', Except.toOption]

/-- A first half that no second half follows. -/
theorem read_unicode_half {a b c d : Char} {n : Nat} (hn : hex4? a b c d = some n)
    (low : ¬isLowSurrogate n) (high : isHighSurrogate n) {cs : List Char}
    (other : ∀ rest, cs ≠ '\\' :: 'u' :: rest) :
    (read ('\\' :: 'u' :: a :: b :: c :: d :: cs)).toOption = none := by
  rw [read]
  simp only [hn, low, high, if_true, Bool.false_eq_true, if_false]
  split
  · exact absurd rfl (other _)
  · rfl

/-- What comes after the closing quote has no influence on a literal. -/
theorem read_body {body : List Char} (h : IsBody body) (rest : List Char) :
    (read (body ++ '"' :: rest)).toOption = (chars? body).map fun cs => (cs, rest) := by
  unfold chars?
  induction len : body.length using Nat.strong_induction_on generalizing body with
  | _ size ih =>
    subst len
    -- The tail of a body is a body, and after a surrogate pair so is the tail of its second half.
    have tail {cs : List Char} (shorter : cs.length < body.length) (hcs : IsBody cs) (e : Char) :
        (push e (read (cs ++ '"' :: rest))).toOption =
          ((push e (read (cs ++ ['"']))).toOption.map Prod.fst).map fun x => (x, rest) := by
      rw [toOption_push, toOption_push, ih _ shorter hcs rfl]
      cases (read (cs ++ ['"'])).toOption <;> rfl
    cases h with
    | nil => rfl
    | @plain c cs not_quote not_backslash not_control hcs =>
      simp only [List.cons_append, read_plain not_quote not_backslash not_control]
      exact tail (by simp) hcs c
    | @escape c cs letter hcs =>
      obtain ⟨e, he⟩ := exists_escaped letter
      simp only [List.cons_append, read_escape he]
      exact tail (by simp) hcs e
    | @unicode a b c d cs digits hcs =>
      obtain ⟨n, hn⟩ := exists_hex4 digits
      simp only [List.cons_append]
      by_cases low : isLowSurrogate n
      · simp only [read_unicode_low hn low, Option.map_none]
      by_cases high : isHighSurrogate n
      · have alone (other : ∀ r t, cs ++ '"' :: r ≠ '\\' :: 'u' :: t) :
            (read ('\\' :: 'u' :: a :: b :: c :: d :: (cs ++ '"' :: rest))).toOption =
              ((read ('\\' :: 'u' :: a :: b :: c :: d :: (cs ++ ['"']))).toOption.map
                Prod.fst).map fun x => (x, rest) := by
          rw [read_unicode_half hn low high (other rest), read_unicode_half hn low high (other [])]
          rfl
        cases hcs with
        | nil => exact alone (by simp)
        | plain _ not_backslash => exact alone (by simp [not_backslash])
        | escape letter => exact alone (by rintro r t h; simp_all)
        | @unicode a' b' c' d' cs digits' hcs =>
          obtain ⟨m, hm⟩ := exists_hex4 digits'
          simp only [List.cons_append]
          by_cases low' : isLowSurrogate m
          · simp only [read_unicode_pair hn low high hm low']
            exact tail (by simp; omega) hcs _
          · simp only [read_unicode_unpaired hn low high hm low', Option.map_none]
      · simp only [read_unicode_plain hn low high]
        exact tail (by simp; omega) hcs _

end Literal

namespace Numeral

def IsDigits (cs : List Char) : Prop :=
  cs ≠ [] ∧ ∀ c ∈ cs, c.isDigit

def IsSign (cs : List Char) : Prop :=
  cs = [] ∨ cs = ['-']

/-- A zero alone, or digits that do not open with one. -/
def IsWhole (cs : List Char) : Prop :=
  cs = ['0'] ∨ (IsDigits cs ∧ cs.head? ≠ some '0')

def IsFraction (cs : List Char) : Prop :=
  cs = [] ∨ ∃ digits, IsDigits digits ∧ cs = '.' :: digits

def IsExponent (cs : List Char) : Prop :=
  cs = [] ∨ ∃ mark ∈ ['e', 'E'], ∃ sign ∈ [[], ['+'], ['-']], ∃ digits, IsDigits digits ∧
    cs = mark :: (sign ++ digits)

/-- How a number is written. -/
def IsText (cs : List Char) : Prop :=
  ∃ sign whole fraction exponent, IsSign sign ∧ IsWhole whole ∧ IsFraction fraction ∧
    IsExponent exponent ∧ cs = sign ++ (whole ++ (fraction ++ exponent))

/-- Whether a numeral could go on with this character. -/
def continues (c : Char) : Bool :=
  c.isDigit || c = '.' || c = 'e' || c = 'E'

/-- Whether a numeral ends before this text. -/
def EndsBefore (cs : List Char) : Prop :=
  ∀ c ∈ cs.head?, continues c = false

theorem splitDigits_append {digits rest : List Char} (hd : ∀ c ∈ digits, c.isDigit)
    (hr : ∀ c ∈ rest.head?, c.isDigit = false) :
    splitDigits (digits ++ rest) = (digits.map digitValue, rest) := by
  have taken : rest.takeWhile Char.isDigit = [] := by
    cases rest with
    | nil => rfl
    | cons c rest => simp [hr c (by simp)]
  have dropped : rest.dropWhile Char.isDigit = rest := by
    cases rest with
    | nil => rfl
    | cons c rest => simp [hr c (by simp)]
  simp [splitDigits, List.takeWhile_append_of_pos hd, List.dropWhile_append_of_pos hd, taken,
    dropped]

theorem head_not_digit {cs : List Char} (h : EndsBefore cs) : ∀ c ∈ cs.head?, c.isDigit = false := by
  intro c hc
  have := h c hc
  simp only [continues, Bool.or_eq_false_iff] at this
  exact this.1.1.1

theorem readWhole_append {whole rest : List Char} (h : IsWhole whole)
    (hr : ∀ c ∈ rest.head?, c.isDigit = false) :
    readWhole (whole ++ rest) = .ok (whole.map digitValue, rest) := by
  have digits : IsDigits whole := by
    obtain rfl | h := h
    · exact ⟨by simp, by simp⟩
    · exact h.1
  have split := splitDigits_append digits.2 hr
  cases whole with
  | nil => exact absurd rfl digits.1
  | cons c cs =>
    have hc : c.isDigit := digits.2 c (by simp)
    have alone : (c = '0' && (cs ++ rest).head?.any Char.isDigit) = false := by
      obtain h | h := h
      · obtain ⟨rfl, rfl⟩ : c = '0' ∧ cs = [] := by simpa using h
        cases rest with
        | nil => rfl
        | cons d rest => simpa using hr d (by simp)
      · have : c ≠ '0' := by simpa using h.2
        simp [this]
    simp only [List.cons_append, readWhole, hc, alone] at split ⊢
    simp [split]

theorem readFraction_append {fraction : List Char} (h : IsFraction fraction) :
    ∃ digits, ∀ rest : List Char, (∀ c ∈ rest.head?, c.isDigit = false ∧ c ≠ '.') →
      readFraction (fraction ++ rest) = .ok (digits, rest) := by
  obtain rfl | ⟨digits, hd, rfl⟩ := h
  · refine ⟨none, fun rest hr => ?_⟩
    cases rest with
    | nil => rfl
    | cons c rest =>
      have point : c ≠ '.' := (hr c (by simp)).2
      simp [readFraction, point]
  · refine ⟨some (digits.map digitValue), fun rest hr => ?_⟩
    have split := splitDigits_append hd.2 fun c hc => (hr c hc).1
    have some_digit : digits.map digitValue ≠ [] := by simpa using hd.1
    simp only [List.cons_append, readFraction, split]

theorem readExponent_append {exponent : List Char} (h : IsExponent exponent) :
    ∃ digits, ∀ rest, EndsBefore rest →
      readExponent (exponent ++ rest) = .ok (digits, rest) := by
  obtain rfl | ⟨mark, hm, sign, hs, digits, hd, rfl⟩ := h
  · refine ⟨none, fun rest hr => ?_⟩
    cases rest with
    | nil => rfl
    | cons c rest =>
      have hc : continues c = false := hr c (by simp)
      simp only [continues, Bool.or_eq_false_iff] at hc
      simp [readExponent, hc]
  · refine ⟨some (decide (sign = ['-']), digits.map digitValue), fun rest hr => ?_⟩
    have split := splitDigits_append hd.2 (head_not_digit hr)
    have marked : (decide (mark = 'e') || decide (mark = 'E')) = true := by simpa using hm
    obtain ⟨d, ds, rfl⟩ := List.exists_cons_of_ne_nil hd.1
    have minus : d ≠ '-' := by rintro rfl; simpa using hd.2 '-'
    have plus : d ≠ '+' := by rintro rfl; simpa using hd.2 '+'
    simp only [List.cons_append, List.map_cons] at split
    simp only [List.cons_append, List.append_assoc, readExponent, marked, if_true]
    simp only [List.mem_cons, List.not_mem_nil, or_false] at hs
    obtain rfl | rfl | rfl := hs <;> simp [minus, plus, split]

theorem head_exponent {exponent rest : List Char} (h : IsExponent exponent)
    (hr : EndsBefore rest) : ∀ c ∈ (exponent ++ rest).head?, c.isDigit = false ∧ c ≠ '.' := by
  intro c hc
  obtain rfl | ⟨mark, hm, sign, -, digits, -, rfl⟩ := h
  · have := hr c hc
    simp only [continues, Bool.or_eq_false_iff, decide_eq_false_iff_not] at this
    exact ⟨this.1.1.1, this.1.1.2⟩
  · obtain rfl : mark = c := by simpa using hc
    simp only [List.mem_cons, List.not_mem_nil, or_false] at hm
    obtain rfl | rfl := hm <;> simp

theorem head_fraction {fraction rest : List Char} (h : IsFraction fraction)
    (hr : ∀ c ∈ rest.head?, c.isDigit = false) :
    ∀ c ∈ (fraction ++ rest).head?, c.isDigit = false := by
  intro c hc
  obtain rfl | ⟨digits, -, rfl⟩ := h
  · exact hr c hc
  · obtain rfl : '.' = c := by simpa using hc
    rfl

/-- The parts of a numeral are read one after the other. -/
theorem read_parts {sign whole after_whole after_fraction rest : List Char}
    {f : Option (List Nat)} {e : Option (Bool × List Nat)} (hs : IsSign sign) (hw : IsWhole whole)
    (stop : ∀ c ∈ after_whole.head?, c.isDigit = false)
    (hf : readFraction after_whole = .ok (f, after_fraction))
    (he : readExponent after_fraction = .ok (e, rest)) :
    read (sign ++ (whole ++ after_whole)) =
      .ok (⟨decide (sign = ['-']), whole.map digitValue, f, e⟩, rest) := by
  have hw' := readWhole_append hw stop
  have unsigned : (whole ++ after_whole).head? ≠ some '-' := by
    obtain rfl | ⟨hd, -⟩ := hw
    · simp
    · obtain ⟨d, ds, rfl⟩ := List.exists_cons_of_ne_nil hd.1
      have : d ≠ '-' := by rintro rfl; simpa using hd.2 '-'
      simpa using this
  obtain rfl | rfl := hs
  · simp only [read, List.nil_append, unsigned, decide_false, if_false, hw', hf, he, bind,
      Except.bind, pure, Except.pure, reduceCtorEq]
  · simp only [read, List.cons_append, List.nil_append, List.head?_cons, decide_true, if_true,
      List.tail_cons, hw', hf, he, bind, Except.bind, pure, Except.pure]

theorem read_append {cs : List Char} (h : IsText cs) :
    ∃ numeral, ∀ rest, EndsBefore rest → read (cs ++ rest) = .ok (numeral, rest) := by
  obtain ⟨sign, whole, fraction, exponent, hs, hw, hf, he, rfl⟩ := h
  obtain ⟨f, hf'⟩ := readFraction_append hf
  obtain ⟨e, he'⟩ := readExponent_append he
  refine ⟨⟨decide (sign = ['-']), whole.map digitValue, f, e⟩, fun rest hr => ?_⟩
  have after_whole := head_exponent he hr
  simp only [List.append_assoc]
  exact read_parts hs hw (head_fraction hf fun c hc => (after_whole c hc).1) (hf' _ after_whole)
    (he' rest hr)

theorem exists_cons_of_isText {cs : List Char} (h : IsText cs) :
    ∃ c rest, cs = c :: rest ∧ (c = '-' ∨ c.isDigit) := by
  obtain ⟨sign, whole, fraction, exponent, rfl | rfl, hw, -, -, rfl⟩ := h
  · obtain rfl | ⟨hd, -⟩ := hw
    · exact ⟨'0', _, rfl, .inr rfl⟩
    · obtain ⟨d, ds, rfl⟩ := List.exists_cons_of_ne_nil hd.1
      exact ⟨d, _, rfl, .inr (hd.2 d (by simp))⟩
  · exact ⟨'-', _, rfl, .inl rfl⟩

end Numeral

theorem readNode_number {c : Char} (hc : c = '-' ∨ c.isDigit) (inner : Option (Reader Value))
    (cs : List Char) :
    readNode inner (c :: cs) = (readNumber (c :: cs)).map fun p => (.number p.1, p.2) := by
  have blank : isBlank c = false := by
    obtain rfl | hc := hc
    · rfl
    · simp only [isBlank, Bool.or_eq_false_iff, decide_eq_false_iff_not]
      refine ⟨⟨⟨?_, ?_⟩, ?_⟩, ?_⟩ <;> rintro rfl <;> simp at hc
  have skipped : skipBlank (c :: cs) = c :: cs := by simp [skipBlank, blank]
  rw [readNode, skipped]
  split
  case h_8 h =>
    obtain ⟨rfl, rfl⟩ := List.cons.inj h
    have number : (decide (c = '-') || c.isDigit) = true := by simpa using hc
    rw [if_pos number]
    cases readNumber (c :: cs) <;> rfl
  all_goals simp_all

/-- What is written without quotes: a keyword or a number. -/
inductive IsWord : List Char → Prop where
  | null : IsWord ['n', 'u', 'l', 'l']
  | true : IsWord ['t', 'r', 'u', 'e']
  | false : IsWord ['f', 'a', 'l', 's', 'e']
  | numeral {cs : List Char} (text : Numeral.IsText cs) : IsWord cs

/-- What the reader makes of a word. -/
def wordValue? (word : List Char) : Option Value :=
  (readNode none word).toOption.map Prod.fst

theorem readNode_word {word : List Char} (h : IsWord word) (inner : Option (Reader Value))
    {rest : List Char} (hr : Numeral.EndsBefore rest) :
    (readNode inner (word ++ rest)).toOption = (wordValue? word).map fun v => (v, rest) := by
  cases h with
  | null => rfl
  | true => rfl
  | false => rfl
  | numeral text =>
    obtain ⟨c, cs, rfl, hc⟩ := Numeral.exists_cons_of_isText text
    obtain ⟨numeral, hn⟩ := Numeral.read_append text
    have before := hn rest hr
    have alone := hn [] (by simp [Numeral.EndsBefore])
    rw [List.append_nil] at alone
    simp only [wordValue?, List.cons_append, readNode_number hc, readNumber] at before alone ⊢
    simp only [before, alone, bind, Except.bind]
    cases numeral.toNumber <;> rfl

end ScopedCheck.Json
