import ScopedCheck.Proofs.Except
import ScopedCheck.Proofs.Json.Reading

namespace ScopedCheck.Json

namespace Literal

theorem isHexDigit_of_hexValue {c : Char} {n : Nat} (h : hexValue? c = some n) : IsHexDigit c := by
  unfold hexValue? at h
  split_ifs at h with digit small capital
  · exact .inl digit
  · exact .inr (.inl small)
  · exact .inr (.inr capital)

theorem isHexDigit_of_hex4 {a b c d : Char} {n : Nat} (h : hex4? a b c d = some n) :
    ∀ x ∈ [a, b, c, d], IsHexDigit x := by
  simp only [hex4?, Option.bind_eq_bind, Option.bind_eq_some_iff] at h
  obtain ⟨i, hi, j, hj, k, hk, l, hl, -⟩ := h
  simp [isHexDigit_of_hexValue hi, isHexDigit_of_hexValue hj, isHexDigit_of_hexValue hk,
    isHexDigit_of_hexValue hl]

theorem mem_of_escaped {c e : Char} (h : escaped? c = some e) :
    c ∈ ['"', '\\', '/', 'b', 'f', 'n', 'r', 't'] := by
  unfold escaped? at h
  split at h <;> simp_all

theorem push_eq_ok {c : Char} {result : Except Refusal (List Char × List Char)}
    {p : List Char × List Char} (h : push c result = .ok p) : ∃ s, result = .ok (s, p.2) := by
  cases result with
  | error refusal => simp [push, Except.map] at h
  | ok q =>
    obtain rfl : (c :: q.1, q.2) = p := by simpa [push, Except.map] using h
    exact ⟨q.1, rfl⟩

/-- What is read up to the closing quote is a body. -/
theorem exists_body {cs s rest : List Char} (h : read cs = .ok (s, rest)) :
    ∃ body, IsBody body ∧ cs = body ++ '"' :: rest := by
  fun_induction read cs generalizing s with
  | case2 cs =>
    obtain ⟨-, rfl⟩ : [] = s ∧ cs = rest := by simpa using h
    exact ⟨[], .nil, rfl⟩
  | case6 a b c d n hn low high a' b' c' d' cs m hm low' ih =>
    obtain ⟨s', h'⟩ := push_eq_ok h
    obtain ⟨body, hb, rfl⟩ := ih h'
    exact ⟨_, .unicode (isHexDigit_of_hex4 hn) (.unicode (isHexDigit_of_hex4 hm) hb), rfl⟩
  | case9 a b c d cs n hn low high ih =>
    obtain ⟨s', h'⟩ := push_eq_ok h
    obtain ⟨body, hb, rfl⟩ := ih h'
    exact ⟨_, .unicode (isHexDigit_of_hex4 hn) hb, rfl⟩
  | case11 c cs _ _ e he ih =>
    obtain ⟨s', h'⟩ := push_eq_ok h
    obtain ⟨body, hb, rfl⟩ := ih h'
    exact ⟨_, .escape (mem_of_escaped he) hb, rfl⟩
  | case15 c cs quote _ _ escape alone not_control ih =>
    obtain ⟨s', h'⟩ := push_eq_ok h
    obtain ⟨body, hb, rfl⟩ := ih h'
    have backslash : c ≠ '\\' := by
      rintro rfl
      cases body with
      | nil => exact escape _ _ rfl rfl
      | cons d body => exact escape _ _ rfl rfl
    exact ⟨_, .plain quote backslash (Nat.not_lt.1 not_control) hb, rfl⟩
  | _ => simp at h

end Literal

namespace Numeral

theorem exists_digits {cs rest : List Char} {digits : List Nat}
    (h : splitDigits cs = (digits, rest)) (some_digit : digits ≠ []) :
    ∃ text, IsDigits text ∧ cs = text ++ rest := by
  obtain ⟨rfl, rfl⟩ := Prod.mk.inj h
  refine ⟨cs.takeWhile Char.isDigit, ⟨by simpa using some_digit, fun c hc => ?_⟩, ?_⟩
  · exact List.mem_takeWhile_imp hc
  · exact List.takeWhile_append_dropWhile.symm

theorem exists_whole {cs rest : List Char} {digits : List Nat}
    (h : readWhole cs = .ok (digits, rest)) : ∃ text, IsWhole text ∧ cs = text ++ rest := by
  cases cs with
  | nil => simp [readWhole] at h
  | cons c cs =>
    simp only [readWhole] at h
    split_ifs at h with digit zero
    have digit : c.isDigit := by simpa using digit
    have split : splitDigits (c :: cs) = (digits, rest) := by simpa using h
    by_cases hc : c = '0'
    · -- A zero that no digit follows is the whole part.
      have stop : cs.takeWhile Char.isDigit = [] ∧ cs.dropWhile Char.isDigit = cs := by
        cases cs with
        | nil => simp
        | cons d cs =>
          have : d.isDigit = false := by simpa [hc] using zero
          simp [this]
      obtain ⟨-, rfl⟩ : [digitValue c] = digits ∧ cs = rest := by
        simpa [splitDigits, digit, stop] using split
      exact ⟨['0'], .inl rfl, by rw [hc]; rfl⟩
    · have some_digit : digits ≠ [] := by
        rintro rfl
        simp [splitDigits, digit] at split
      obtain ⟨text, htext, happ⟩ := exists_digits split some_digit
      obtain ⟨d, ds, rfl⟩ := List.exists_cons_of_ne_nil htext.1
      obtain ⟨rfl, -⟩ := List.cons.inj happ
      exact ⟨_, .inr ⟨htext, by simpa using hc⟩, happ⟩

theorem exists_fraction {cs rest : List Char} {digits : Option (List Nat)}
    (h : readFraction cs = .ok (digits, rest)) : ∃ text, IsFraction text ∧ cs = text ++ rest := by
  unfold readFraction at h
  split at h
  · split at h
    · simp at h
    next some_digit split =>
      obtain ⟨text, htext, rfl⟩ := exists_digits split some_digit
      obtain ⟨-, rfl⟩ := Prod.mk.inj (Except.ok.inj h)
      exact ⟨'.' :: text, .inr ⟨text, htext, rfl⟩, rfl⟩
  · obtain ⟨-, rfl⟩ := Prod.mk.inj (Except.ok.inj h)
    exact ⟨[], .inl rfl, rfl⟩

/-- A sign before the digits of an exponent, and what it is before. -/
theorem exists_exponentSign (cs : List Char) :
    ∃ sign ∈ [[], ['+'], ['-']], cs = sign ++
      (if decide (cs.head? = some '-') || decide (cs.head? = some '+') then cs.tail else cs) := by
  cases cs with
  | nil => exact ⟨[], by simp, rfl⟩
  | cons c cs =>
    by_cases minus : c = '-'
    · exact ⟨['-'], by simp, by simp [minus]⟩
    by_cases plus : c = '+'
    · exact ⟨['+'], by simp, by simp [plus]⟩
    · exact ⟨[], by simp, by simp [minus, plus]⟩

theorem exists_exponent {cs rest : List Char} {digits : Option (Bool × List Nat)}
    (h : readExponent cs = .ok (digits, rest)) : ∃ text, IsExponent text ∧ cs = text ++ rest := by
  unfold readExponent at h
  split at h
  next c cs =>
    split at h
    next mark =>
      obtain ⟨sign, hs, hcs⟩ := exists_exponentSign cs
      dsimp only at h
      split at h
      · simp at h
      next some_digit split =>
        obtain ⟨text, htext, happ⟩ := exists_digits split some_digit
        obtain ⟨-, rfl⟩ := Prod.mk.inj (Except.ok.inj h)
        rw [happ] at hcs
        refine ⟨c :: (sign ++ text), .inr ⟨c, by simpa using mark, sign, hs, text, htext, rfl⟩, ?_⟩
        rw [hcs, List.cons_append, List.append_assoc]
    next =>
      obtain ⟨-, rfl⟩ := Prod.mk.inj (Except.ok.inj h)
      exact ⟨[], .inl rfl, rfl⟩
  next =>
    obtain ⟨-, rfl⟩ := Prod.mk.inj (Except.ok.inj h)
    exact ⟨[], .inl rfl, rfl⟩

theorem exists_text {cs rest : List Char} {numeral : Numeral}
    (h : read cs = .ok (numeral, rest)) : ∃ text, IsText text ∧ cs = text ++ rest := by
  obtain ⟨⟨digits, after_whole⟩, hwhole, h⟩ := exists_of_bind_eq_ok h
  obtain ⟨⟨fraction, after_fraction⟩, hfraction, h⟩ := exists_of_bind_eq_ok h
  obtain ⟨⟨exponent, after⟩, hexponent, h⟩ := exists_of_bind_eq_ok h
  obtain ⟨-, rfl⟩ := Prod.mk.inj (Except.ok.inj h)
  obtain ⟨w, hw, happ⟩ := exists_whole hwhole
  obtain ⟨f, hf, rfl⟩ := exists_fraction hfraction
  obtain ⟨e, he, rfl⟩ := exists_exponent hexponent
  obtain ⟨sign, hs, hcs⟩ : ∃ sign, IsSign sign ∧
      cs = sign ++ (if cs.head? = some '-' then cs.tail else cs) := by
    cases cs with
    | nil => exact ⟨[], .inl rfl, rfl⟩
    | cons c cs =>
      by_cases minus : c = '-'
      · exact ⟨['-'], .inr rfl, by simp [minus]⟩
      · exact ⟨[], .inl rfl, by simp [minus]⟩
  have whole : (if cs.head? = some '-' then cs.tail else cs) = w ++ (f ++ (e ++ after)) := by
    simpa using happ
  rw [whole] at hcs
  exact ⟨_, ⟨sign, w, f, e, hs, hw, hf, he, rfl⟩, by simpa only [List.append_assoc] using hcs⟩

end Numeral

theorem readKeyword_eq_ok {value v : Value} {keyword cs rest : List Char}
    (h : readKeyword value keyword cs = .ok (v, rest)) : cs = keyword ++ rest := by
  induction keyword generalizing cs with
  | nil => exact congrArg Prod.snd (Except.ok.inj h)
  | cons k ks ih =>
    cases cs with
    | nil => simp [readKeyword] at h
    | cons c cs =>
      simp only [readKeyword] at h
      split at h
      next hc => rw [hc, ih h, List.cons_append]
      next => simp at h

/-- Whether a text holds some tokens and after them this rest. -/
def Begins (us : List Token) (cs rest : List Char) : Prop :=
  ∀ ts, Spaced ts rest → Spaced (us ++ ts) cs

namespace Begins

variable {us vs : List Token} {cs mid rest : List Char}

theorem token {t : Token} (h : skipBlank cs = t.text ++ rest) : Begins [t] cs rest := by
  intro ts hts
  have blanks : IsBlanks (cs.takeWhile isBlank) := fun c hc => List.mem_takeWhile_imp hc
  have split : cs = cs.takeWhile isBlank ++ (t.text ++ rest) := by
    rw [← h, skipBlank, List.takeWhile_append_dropWhile]
  rw [split]
  exact .cons blanks hts

theorem mark (m : Mark) (h : skipBlank cs = m.char :: rest) : Begins [.mark m] cs rest :=
  token h

theorem append (h : Begins us cs mid) (h' : Begins vs mid rest) : Begins (us ++ vs) cs rest := by
  intro ts hts
  rw [List.append_assoc]
  exact h _ (h' _ hts)

theorem skipped (h : Begins us (skipBlank cs) rest) : Begins us cs rest := by
  intro ts hts
  have blanks : IsBlanks (cs.takeWhile isBlank) := fun c hc => List.mem_takeWhile_imp hc
  have := spaced_append blanks (h ts hts)
  rwa [skipBlank, List.takeWhile_append_dropWhile] at this

end Begins

/-- Whether a reader reads nothing but forms. -/
def OnlyForms (item : Reader Value) : Prop :=
  ∀ cs v rest, item cs = .ok (v, rest) → ∃ form : Form, Begins (form.tokens false) cs rest

section

variable {item : Reader Value} {cs rest : List Char}

/-- The bracket that closes an array, or an item with the comma that stands before it. -/
theorem readItems_cases {steps : Nat} {first : Bool} {vs : List Value}
    (h : readItems item (steps + 1) first cs = .ok (vs, rest)) :
    skipBlank cs = ']' :: rest ∨ ∃ cs', Begins (commaIf (!first)) cs cs' ∧
      readItemThen item steps (skipBlank cs') = .ok (vs, rest) := by
  match skipped : skipBlank cs with
  | [] => simp [readItems, skipped] at h
  | c :: cs' =>
    by_cases hc : c = ']'
    · subst hc
      rw [readItems_close first skipped] at h
      obtain ⟨-, rfl⟩ := Prod.mk.inj (Except.ok.inj h)
      exact .inl rfl
    refine .inr ?_
    cases first with
    | true =>
      rw [readItems_first skipped hc, ← skipped] at h
      exact ⟨cs, fun ts hts => hts, h⟩
    | false =>
      have comma : c = ',' := by
        by_contra other
        simp [readItems, skipped, other] at h
      subst comma
      refine ⟨cs', .mark .comma skipped, ?_⟩
      match skipped' : skipBlank cs' with
      | [] => simp [readItems, skipped, skipped'] at h
      | d :: after =>
        have hd : d ≠ ']' := by
          rintro rfl
          simp [readItems, skipped, skipped'] at h
        rw [readItems_later skipped skipped' hd] at h
        exact h

theorem begins_items (hitem : OnlyForms item) {steps : Nat} {first : Bool} {vs : List Value}
    (h : readItems item steps first cs = .ok (vs, rest)) :
    ∃ forms, Begins (itemTokens false first forms ++ [.mark .closeArray]) cs rest := by
  induction steps generalizing first cs vs with
  | zero => simp [readItems] at h
  | succ steps ih =>
    obtain close | ⟨cs', hcs', h⟩ := readItems_cases h
    · exact ⟨[], .mark .closeArray close⟩
    · obtain ⟨⟨v, mid⟩, hv, h⟩ := exists_of_bind_eq_ok h
      obtain ⟨⟨vs', after⟩, hvs, h⟩ := exists_of_bind_eq_ok h
      obtain ⟨-, rfl⟩ := Prod.mk.inj (Except.ok.inj h)
      obtain ⟨form, hform⟩ := hitem _ _ _ hv
      obtain ⟨forms, hforms⟩ := ih hvs
      refine ⟨form :: forms, ?_⟩
      simpa [itemTokens] using hcs'.append (hform.skipped.append hforms)

theorem begins_member (hitem : OnlyForms item) {m : String × Value}
    (h : readMember item (skipBlank cs) = .ok (m, rest)) :
    ∃ (key : Body) (form : Form),
      Begins (.literal key :: .mark .colon :: form.tokens false) cs rest := by
  match skipped : skipBlank cs with
  | [] => simp [skipped, readMember] at h
  | c :: cs' =>
    have quote : c = '"' := by
      by_contra other
      simp [skipped, readMember, other] at h
    subst quote
    rw [skipped] at h
    obtain ⟨⟨key, mid⟩, hkey, after_key⟩ := exists_of_bind_eq_ok h
    obtain ⟨body, hbody, rfl⟩ := Literal.exists_body hkey
    have literal : Begins [.literal ⟨body, hbody⟩] cs mid :=
      .token (by simpa [Token.text] using skipped)
    match skipped' : skipBlank mid with
    | [] => simp [skipped'] at after_key
    | d :: after =>
      have colon : d = ':' := by
        by_contra other
        simp [skipped', other] at after_key
      subst colon
      simp only [skipped'] at after_key
      obtain ⟨⟨v, rest'⟩, hv, after_value⟩ := exists_of_bind_eq_ok after_key
      obtain ⟨-, rfl⟩ := Prod.mk.inj (Except.ok.inj after_value)
      obtain ⟨form, hform⟩ := hitem _ _ _ hv
      exact ⟨⟨body, hbody⟩, form, literal.append ((Begins.mark .colon skipped').append hform)⟩

/-- The brace that closes an object, or a member with the comma that stands before it. -/
theorem readMembers_cases {steps : Nat} {first : Bool} {ms : List (String × Value)}
    (h : readMembers item (steps + 1) first cs = .ok (ms, rest)) :
    skipBlank cs = '}' :: rest ∨ ∃ cs', Begins (commaIf (!first)) cs cs' ∧
      readMemberThen item steps (skipBlank cs') = .ok (ms, rest) := by
  match skipped : skipBlank cs with
  | [] => simp [readMembers, skipped] at h
  | c :: cs' =>
    by_cases hc : c = '}'
    · subst hc
      rw [readMembers_close first skipped] at h
      obtain ⟨-, rfl⟩ := Prod.mk.inj (Except.ok.inj h)
      exact .inl rfl
    refine .inr ?_
    cases first with
    | true =>
      rw [readMembers_first skipped hc, ← skipped] at h
      exact ⟨cs, fun ts hts => hts, h⟩
    | false =>
      have comma : c = ',' := by
        by_contra other
        simp [readMembers, skipped, other] at h
      subst comma
      refine ⟨cs', .mark .comma skipped, ?_⟩
      match skipped' : skipBlank cs' with
      | [] => simp [readMembers, skipped, skipped'] at h
      | d :: after =>
        have hd : d ≠ '}' := by
          rintro rfl
          simp [readMembers, skipped, skipped'] at h
        rw [readMembers_later skipped skipped' hd] at h
        exact h

theorem begins_members (hitem : OnlyForms item) {steps : Nat} {first : Bool}
    {ms : List (String × Value)} (h : readMembers item steps first cs = .ok (ms, rest)) :
    ∃ members, Begins (memberTokens false first members ++ [.mark .closeObject]) cs rest := by
  induction steps generalizing first cs ms with
  | zero => simp [readMembers] at h
  | succ steps ih =>
    obtain close | ⟨cs', hcs', h⟩ := readMembers_cases h
    · exact ⟨[], .mark .closeObject close⟩
    · obtain ⟨⟨m, mid⟩, hm, h⟩ := exists_of_bind_eq_ok h
      obtain ⟨⟨ms', after⟩, hms, h⟩ := exists_of_bind_eq_ok h
      obtain ⟨-, rfl⟩ := Prod.mk.inj (Except.ok.inj h)
      obtain ⟨key, form, hmember⟩ := begins_member hitem hm
      obtain ⟨members, hmembers⟩ := ih hms
      refine ⟨(key, form) :: members, ?_⟩
      simpa [memberTokens] using hcs'.append (hmember.append hmembers)

theorem begins_keyword {value v : Value} {c : Char} {keyword : List Char}
    (hword : IsWord (c :: keyword)) {cs' : List Char} (skipped : skipBlank cs = c :: cs')
    (h : readKeyword value keyword cs' = .ok (v, rest)) :
    ∃ form : Form, Begins (form.tokens false) cs rest := by
  refine ⟨.word ⟨c :: keyword, hword⟩, .token ?_⟩
  rw [skipped, readKeyword_eq_ok h]
  rfl

theorem onlyForms_readNode {inner : Option (Reader Value)}
    (hinner : ∀ item ∈ inner, OnlyForms item) : OnlyForms (readNode inner) := by
  intro cs v rest h
  unfold readNode at h
  split at h
  next => simp at h
  next skipped => exact begins_keyword .null skipped h
  next skipped => exact begins_keyword .true skipped h
  next skipped => exact begins_keyword .false skipped h
  next skipped =>
    obtain ⟨⟨s, mid⟩, hs, h⟩ := exists_of_bind_eq_ok h
    obtain ⟨-, rfl⟩ := Prod.mk.inj (Except.ok.inj h)
    obtain ⟨body, hbody, rfl⟩ := Literal.exists_body hs
    exact ⟨.literal ⟨body, hbody⟩, .token (by simpa [Token.text] using skipped)⟩
  next skipped =>
    split at h
    next => simp at h
    next item =>
      obtain ⟨⟨items, mid⟩, hitems, h⟩ := exists_of_bind_eq_ok h
      obtain ⟨-, rfl⟩ := Prod.mk.inj (Except.ok.inj h)
      obtain ⟨forms, hforms⟩ := begins_items (hinner item rfl) hitems
      exact ⟨.array forms false, by
        simpa [Form.tokens, commaIf] using (Begins.mark .openArray skipped).append hforms⟩
  next skipped =>
    split at h
    next => simp at h
    next item =>
      obtain ⟨⟨pairs, mid⟩, hpairs, h⟩ := exists_of_bind_eq_ok h
      obtain ⟨-, rfl⟩ := Prod.mk.inj (Except.ok.inj h)
      obtain ⟨members, hmembers⟩ := begins_members (hinner item rfl) hpairs
      exact ⟨.object members false, by
        simpa [Form.tokens, commaIf] using (Begins.mark .openObject skipped).append hmembers⟩
  next skipped =>
    split at h
    next =>
      obtain ⟨⟨n, mid⟩, hn, h⟩ := exists_of_bind_eq_ok h
      obtain ⟨-, rfl⟩ := Prod.mk.inj (Except.ok.inj h)
      obtain ⟨⟨numeral, mid'⟩, hnumeral, hn⟩ := exists_of_bind_eq_ok hn
      obtain ⟨text, htext, happ⟩ := Numeral.exists_text hnumeral
      have : mid' = mid := by
        simp only at hn
        split at hn
        · exact congrArg Prod.snd (Except.ok.inj hn)
        · simp at hn
      exact ⟨.word ⟨text, .numeral htext⟩, .token (by rw [skipped, happ, this]; rfl)⟩
    next => simp at h

theorem onlyForms_readValue (levels : Nat) : OnlyForms (readValue levels) := by
  induction levels with
  | zero => exact onlyForms_readNode (by simp)
  | succ levels ih => exact onlyForms_readNode (by simpa using ih)

end

/-- A text that the strict reader accepts has a form. -/
theorem exists_form {cs : List Char} {v : Value} (h : parse cs = .ok v) :
    ∃ form : Form, Spaced (form.tokens false) cs := by
  obtain ⟨⟨v', rest⟩, hv, h⟩ := exists_of_bind_eq_ok h
  obtain ⟨form, hform⟩ := onlyForms_readValue maxLevels _ _ _ hv
  have last : Spaced [] rest := by
    simp only at h
    split at h
    next skipped => exact .nil (List.dropWhile_eq_nil_iff.1 skipped)
    next => simp at h
  exact ⟨form, by simpa using hform [] last⟩

end ScopedCheck.Json
