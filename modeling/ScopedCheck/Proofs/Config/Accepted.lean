import Mathlib.Data.List.Chain
import ScopedCheck.Proofs.Config.Blanking
import ScopedCheck.Proofs.Config.Origin
import ScopedCheck.Proofs.Config.Tolerance

namespace ScopedCheck.Lenient

open Json (Token Mark Body Form Spaced Laid)

/-- Whether a token may follow another one in a form: a comma follows no opening bracket and no comma,
and in strict tokens no closing bracket follows a comma. -/
def Follows (loose : Bool) (t u : Token) : Prop :=
  (∀ m ∈ [Mark.openArray, .openObject, .comma], t = .mark m → u.isComma = false) ∧
    (loose = false → t.isComma → u.closes = false)

theorem follows_plain {loose : Bool} (t : Token) {u : Token} (closes : u.closes = false)
    (comma : u.isComma = false) : Follows loose t u :=
  ⟨fun _ _ _ => comma, fun _ _ => closes⟩

theorem isChain_cons_plain {loose : Bool} {t : Token} (plain : ∀ u, Follows loose t u) {ts : List Token}
    (h : ts.IsChain (Follows loose)) : (t :: ts).IsChain (Follows loose) :=
  List.isChain_cons.2 ⟨fun u _ => plain u, h⟩

theorem isChain_cons_form {loose : Bool} {form : Form} {ts : List Token}
    (h : (form.tokens loose ++ ts).IsChain (Follows loose)) (t : Token) :
    (t :: (form.tokens loose ++ ts)).IsChain (Follows loose) := by
  obtain ⟨u, us, same, closes, comma⟩ := Json.exists_cons_tokens form loose
  rw [same, List.cons_append] at h ⊢
  exact List.isChain_cons_cons.2 ⟨follows_plain t closes comma, h⟩

theorem isChain_close {loose wanted : Bool} (allowed : wanted → loose) {m : Mark}
    (closes : m = .closeArray ∨ m = .closeObject) {ts : List Token} (h : ts.IsChain (Follows loose)) :
    (Json.commaIf wanted ++ .mark m :: ts).IsChain (Follows loose) := by
  have plain : ∀ u, Follows loose (.mark m) u := by
    obtain rfl | rfl := closes <;> simp [Follows, Token.isComma]
  have behind := isChain_cons_plain plain h
  cases wanted with
  | false => exact behind
  | true =>
    have loose : loose = true := allowed rfl
    refine List.isChain_cons_cons.2 ⟨?_, behind⟩
    obtain rfl | rfl := closes <;> simp [Follows, loose, Token.isComma]

section

variable {loose : Bool}

theorem isChain_items {items : List Form} (ih : ∀ form ∈ items, ∀ ts : List Token,
      ts.IsChain (Follows loose) → (form.tokens loose ++ ts).IsChain (Follows loose))
    {ts : List Token} (h : ts.IsChain (Follows loose)) :
    (Json.itemTokens loose false items ++ ts).IsChain (Follows loose) := by
  induction items with
  | nil => exact h
  | cons form forms ih' =>
    simp only [Json.itemTokens, List.append_assoc]
    have rest := ih' fun f hf => ih f (by simp [hf])
    exact isChain_cons_form (ih form (by simp) _ rest) _

theorem isChain_member {form : Form} {ts : List Token}
    (h : (form.tokens loose ++ ts).IsChain (Follows loose)) (key : Body) :
    (.literal key :: .mark .colon :: (form.tokens loose ++ ts)).IsChain (Follows loose) := by
  have colon := isChain_cons_form h (.mark .colon)
  exact isChain_cons_plain (by simp [Follows, Token.isComma]) colon

theorem isChain_members {members : List (Body × Form)} (ih : ∀ m ∈ members, ∀ ts : List Token,
      ts.IsChain (Follows loose) → (m.2.tokens loose ++ ts).IsChain (Follows loose))
    {ts : List Token} (h : ts.IsChain (Follows loose)) :
    (Json.memberTokens loose false members ++ ts).IsChain (Follows loose) := by
  induction members with
  | nil => exact h
  | cons member members ih' =>
    obtain ⟨key, form⟩ := member
    simp only [Json.memberTokens, List.append_assoc, List.cons_append]
    have rest := ih' fun m hm => ih m (by simp [hm])
    have member := isChain_member (ih (key, form) (by simp) _ rest) key
    exact List.isChain_cons_cons.2 ⟨follows_plain _ rfl rfl, member⟩

/-- The tokens of a form may follow each other. -/
theorem isChain_tokens (form : Form) {ts : List Token} (h : ts.IsChain (Follows loose)) :
    (form.tokens loose ++ ts).IsChain (Follows loose) := by
  induction form using Form.induction generalizing ts with
  | literal body => exact isChain_cons_plain (by simp [Follows, Token.isComma]) h
  | word word => exact isChain_cons_plain (by simp [Follows, Token.isComma]) h
  | array items extra ih =>
    simp only [Form.tokens, List.cons_append, List.append_assoc, List.nil_append]
    have close : (Json.commaIf (loose && extra && !items.isEmpty) ++
        .mark .closeArray :: ts).IsChain (Follows loose) :=
      isChain_close (by simp_all) (.inl rfl) h
    cases items with
    | nil => simpa [Json.itemTokens, Json.commaIf, Follows, Token.isComma] using close
    | cons form forms =>
      simp only [Json.itemTokens, List.append_assoc]
      have rest := isChain_items (fun f hf ts => ih f (List.mem_cons_of_mem _ hf)) close
      exact isChain_cons_form (ih form (by simp) rest) _
  | object members extra ih =>
    simp only [Form.tokens, List.cons_append, List.append_assoc, List.nil_append]
    have close : (Json.commaIf (loose && extra && !members.isEmpty) ++
        .mark .closeObject :: ts).IsChain (Follows loose) :=
      isChain_close (by simp_all) (.inr rfl) h
    cases members with
    | nil => simpa [Json.memberTokens, Json.commaIf, Follows, Token.isComma] using close
    | cons member members =>
      obtain ⟨key, form⟩ := member
      simp only [Json.memberTokens, List.append_assoc, List.cons_append]
      have rest := isChain_members (fun m hm ts => ih m (List.mem_cons_of_mem _ hm)) close
      have member := isChain_member (ih (key, form) (by simp) rest) key
      exact List.isChain_cons_cons.2 ⟨follows_plain _ rfl rfl, member⟩

end

theorem not_infix_tokens (form : Form) {loose : Bool} {t u : Token} (h : ¬Follows loose t u) :
    ¬[t, u] <:+: form.tokens loose := by
  intro inside
  have chain : (form.tokens loose ++ []).IsChain (Follows loose) := isChain_tokens form .nil
  rw [List.append_nil] at chain
  have pair := List.IsChain.infix chain inside
  exact h (List.isChain_cons_cons.1 pair).1

/-- A comma before a closing bracket is dropped, and the bracket stays. -/
theorem dropExtra_comma_close {t : Token} (closes : t.closes) (ts : List Token) :
    dropExtra (.mark .comma :: t :: ts) = t :: dropExtra ts := by
  have comma : (Token.mark .comma).isComma = true := rfl
  rw [dropExtra, if_pos (by simp [comma, closes]), dropExtra_cons (Token.isComma_of_closes closes)]

theorem dropExtra_comma_other {ts : List Token} (stays : ∀ t ∈ ts.head?, t.closes = false) :
    dropExtra (.mark .comma :: ts) = .mark .comma :: dropExtra ts := by
  have kept : ts.head?.any Token.closes = false := by
    cases ts with
    | nil => rfl
    | cons t ts => exact stays t rfl
  simp [dropExtra, kept]

theorem dropExtra_eq_cons {us ts : List Token} {t : Token} (h : dropExtra us = t :: ts) :
    ∃ us', dropExtra us' = ts ∧ (us = t :: us' ∨ t.closes ∧ us = .mark .comma :: t :: us') := by
  cases us with
  | nil => simp [dropExtra] at h
  | cons u us =>
    cases comma : u.isComma with
    | false =>
      rw [dropExtra_cons comma] at h
      obtain ⟨rfl, rfl⟩ := List.cons.inj h
      exact ⟨us, rfl, .inl rfl⟩
    | true =>
      obtain rfl := Token.eq_comma comma
      by_cases stays : ∀ t ∈ us.head?, t.closes = false
      · rw [dropExtra_comma_other stays] at h
        obtain ⟨rfl, rfl⟩ := List.cons.inj h
        exact ⟨us, rfl, .inl rfl⟩
      · cases us with
        | nil => simp at stays
        | cons v us =>
          have closes : v.closes := by simpa using stays
          rw [dropExtra_comma_close closes] at h
          obtain ⟨rfl, rfl⟩ := List.cons.inj h
          exact ⟨us, rfl, .inr ⟨closes, rfl⟩⟩

theorem exists_of_dropExtra_cons {us ts : List Token} {t : Token} (stays : t.closes = false)
    (h : dropExtra us = t :: ts) : ∃ us', us = t :: us' ∧ dropExtra us' = ts := by
  obtain ⟨us', rest, rfl | ⟨closes, -⟩⟩ := dropExtra_eq_cons h
  · exact ⟨us', rfl, rest⟩
  · simp [stays] at closes

theorem exists_of_dropExtra_comma {us ts : List Token} (wanted : Bool)
    (h : dropExtra us = Json.commaIf wanted ++ ts) :
    ∃ us', us = Json.commaIf wanted ++ us' ∧ dropExtra us' = ts := by
  cases wanted with
  | false => exact ⟨us, rfl, h⟩
  | true => exact exists_of_dropExtra_cons rfl h

theorem dropExtra_eq_nil {us : List Token} (h : dropExtra us = []) : us = [] := by
  induction us with
  | nil => rfl
  | cons u us ih =>
    rw [dropExtra] at h
    split at h
    next dropped =>
      rw [ih h] at dropped
      simp at dropped
    next => simp at h

/-- Whether no comma follows an opening bracket. -/
def Apart (us : List Token) : Prop :=
  ∀ m ∈ [Mark.openArray, .openObject], ¬[Token.mark m, .mark .comma] <:+: us

theorem Apart.of_append {us vs : List Token} (h : Apart (us ++ vs)) : Apart vs :=
  fun m hm inside => h m hm (inside.trans (List.suffix_append us vs).isInfix)

theorem Apart.tail {t : Token} {us : List Token} (h : Apart (t :: us)) : Apart us :=
  fun m hm inside => h m hm (inside.trans (List.suffix_cons t us).isInfix)

/-- A comma that is dropped before the closing bracket stands behind an item. -/
theorem Apart.exists_close {m : Mark} (opening : m ∈ [Mark.openArray, .openObject]) {t : Token}
    {items us ts : List Token} (h : Apart (.mark m :: (items ++ us))) (close : dropExtra us = t :: ts) :
    ∃ extra us', us = Json.commaIf extra ++ t :: us' ∧ dropExtra us' = ts ∧ (extra → items ≠ []) := by
  obtain ⟨us', rest, rfl | ⟨-, rfl⟩⟩ := dropExtra_eq_cons close
  · exact ⟨false, us', rfl, rest, by simp⟩
  · refine ⟨true, us', rfl, rest, ?_⟩
    rintro - rfl
    exact h m opening ⟨[], t :: us', rfl⟩

/-- Whether the tokens from which those of a form come are the loose ones of such a form. -/
def Restores (form : Form) : Prop :=
  ∀ us ts, Apart us → dropExtra us = form.tokens false ++ ts → ∃ (form' : Form) (us' : List Token),
    us = form'.tokens true ++ us' ∧ dropExtra us' = ts ∧ form'.tokens false = form.tokens false

theorem restores_items {items : List Form} (ih : ∀ form ∈ items, Restores form) (first : Bool)
    {us ts : List Token} (apart : Apart us) (h : dropExtra us = Json.itemTokens false first items ++ ts) :
    ∃ items' us', us = Json.itemTokens true first items' ++ us' ∧ dropExtra us' = ts ∧
      Json.itemTokens false first items' = Json.itemTokens false first items := by
  induction items generalizing first us with
  | nil => exact ⟨[], us, rfl, h, rfl⟩
  | cons form forms ih' =>
    simp only [Json.itemTokens, List.append_assoc] at h
    obtain ⟨us₁, rfl, h₁⟩ := exists_of_dropExtra_comma _ h
    have apart₁ : Apart us₁ := apart.of_append
    obtain ⟨form', us₂, rfl, h₂, same⟩ := ih form (by simp) us₁ _ apart₁ h₁
    obtain ⟨forms', us₃, rfl, h₃, same'⟩ :=
      ih' (fun f hf => ih f (by simp [hf])) false apart₁.of_append h₂
    exact ⟨form' :: forms', us₃, by simp [Json.itemTokens], h₃, by simp [Json.itemTokens, same, same']⟩

theorem restores_members {members : List (Body × Form)} (ih : ∀ m ∈ members, Restores m.2)
    (first : Bool) {us ts : List Token} (apart : Apart us)
    (h : dropExtra us = Json.memberTokens false first members ++ ts) :
    ∃ members' us', us = Json.memberTokens true first members' ++ us' ∧ dropExtra us' = ts ∧
      Json.memberTokens false first members' = Json.memberTokens false first members := by
  induction members generalizing first us with
  | nil => exact ⟨[], us, rfl, h, rfl⟩
  | cons member members ih' =>
    obtain ⟨key, form⟩ := member
    simp only [Json.memberTokens, List.append_assoc, List.cons_append] at h
    obtain ⟨us₁, rfl, h₁⟩ := exists_of_dropExtra_comma _ h
    obtain ⟨us₂, rfl, h₂⟩ := exists_of_dropExtra_cons rfl h₁
    obtain ⟨us₃, rfl, h₃⟩ := exists_of_dropExtra_cons rfl h₂
    have apart₃ : Apart us₃ := apart.of_append.tail.tail
    obtain ⟨form', us₄, rfl, h₄, same⟩ := ih (key, form) (by simp) us₃ _ apart₃ h₃
    obtain ⟨members', us₅, rfl, h₅, same'⟩ :=
      ih' (fun m hm => ih m (by simp [hm])) false apart₃.of_append h₄
    exact ⟨(key, form') :: members', us₅, by simp [Json.memberTokens], h₅,
      by simp [Json.memberTokens, same, same']⟩

theorem restores (form : Form) : Restores form := by
  induction form using Form.induction with
  | literal body =>
    intro us ts apart h
    obtain ⟨us', rfl, h'⟩ := exists_of_dropExtra_cons rfl h
    exact ⟨.literal body, us', rfl, h', rfl⟩
  | word word =>
    intro us ts apart h
    obtain ⟨us', rfl, h'⟩ := exists_of_dropExtra_cons rfl h
    exact ⟨.word word, us', rfl, h', rfl⟩
  | array items extra ih =>
    intro us ts apart h
    simp only [Form.tokens, List.cons_append, List.append_assoc, List.nil_append, Bool.false_and] at h
    obtain ⟨us₁, rfl, h₁⟩ := exists_of_dropExtra_cons rfl h
    obtain ⟨items', us₂, rfl, h₂, same⟩ := restores_items ih true apart.tail h₁
    obtain ⟨extra', us₃, rfl, h₃, some_item⟩ := apart.exists_close (by simp) h₂
    -- Only behind an item does a form have an extra comma.
    have kept : (extra' && !items'.isEmpty) = extra' := by
      cases items' with
      | nil => simpa [Json.itemTokens] using some_item
      | cons form forms => simp
    exact ⟨.array items' extra', us₃, by simp [Form.tokens, kept], h₃, by simp [Form.tokens, same]⟩
  | object members extra ih =>
    intro us ts apart h
    simp only [Form.tokens, List.cons_append, List.append_assoc, List.nil_append, Bool.false_and] at h
    obtain ⟨us₁, rfl, h₁⟩ := exists_of_dropExtra_cons rfl h
    obtain ⟨members', us₂, rfl, h₂, same⟩ := restores_members ih true apart.tail h₁
    obtain ⟨extra', us₃, rfl, h₃, some_member⟩ := apart.exists_close (by simp) h₂
    have kept : (extra' && !members'.isEmpty) = extra' := by
      cases members' with
      | nil => simpa [Json.memberTokens] using some_member
      | cons member members => simp
    exact ⟨.object members' extra', us₃, by simp [Form.tokens, kept], h₃, by simp [Form.tokens, same]⟩

/-- Tokens without a lone comma that become those of a form are the loose ones of such a form. -/
theorem exists_loose_form {form : Form} {us : List Token} (apart : Apart us)
    (h : dropExtra us = form.tokens false) :
    ∃ form' : Form, us = form'.tokens true ∧ form'.tokens false = form.tokens false := by
  obtain ⟨form', us', rfl, rest, same⟩ := restores form us [] apart (by rw [h, List.append_nil])
  rw [dropExtra_eq_nil rest, List.append_nil]
  exact ⟨form', rfl, same⟩

theorem dropExtra_append {us vs : List Token} (stays : ∀ v ∈ vs.head?, v.closes = false) :
    dropExtra (us ++ vs) = dropExtra us ++ dropExtra vs := by
  induction us with
  | nil => rfl
  | cons u us ih =>
    have next : (us ++ vs).head?.any Token.closes = us.head?.any Token.closes := by
      cases us with
      | cons u' us => rfl
      | nil =>
        cases vs with
        | nil => rfl
        | cons v vs => simpa using stays v (by simp)
    simp only [List.cons_append, dropExtra, next, ih]
    split <;> rfl

theorem exists_dropExtra_comma (us : List Token) :
    ∃ t ts, dropExtra (.mark .comma :: us) = t :: ts ∧ (t.isComma ∨ t.closes) := by
  by_cases stays : ∀ t ∈ us.head?, t.closes = false
  · exact ⟨_, _, dropExtra_comma_other stays, .inl rfl⟩
  · cases us with
    | nil => simp at stays
    | cons u us =>
      have closes : u.closes := by simpa using stays
      exact ⟨_, _, dropExtra_comma_close closes us, .inr closes⟩

theorem not_doubled {form : Form} {us : List Token} (h : dropExtra us = form.tokens false) :
    ¬[Token.mark .comma, .mark .comma] <:+: us := by
  rintro ⟨front, back, rfl⟩
  obtain ⟨t, ts, next, wrong⟩ := exists_dropExtra_comma back
  have stays : dropExtra (.mark .comma :: .mark .comma :: back) = .mark .comma :: t :: ts := by
    rw [dropExtra_comma_other (by simp [Token.closes]), next]
  rw [List.append_assoc, dropExtra_append (by simp [Token.closes])] at h
  simp only [List.cons_append, List.nil_append, stays] at h
  have follows : ¬Follows false (.mark .comma) t := by
    rintro ⟨comma, closing⟩
    obtain is_comma | closes := wrong
    · simp [comma .comma (by simp) rfl] at is_comma
    · simp [closing rfl rfl] at closes
  exact not_infix_tokens form follows ⟨dropExtra front, ts, by rw [← h]; simp⟩

/-- The characters of a text that are neither blank nor in a comment, with what they belong to. -/
def significant (cs : List Char) : List (Mode × Char) :=
  (label .code cs).filter fun m => !isIdle m

/-- Whether there is a comma directly behind such a character, but for blanks and comments. -/
def HasCommaAfter (c : Char) (cs : List Char) : Prop :=
  [(Mode.code, c), (.code, ',')] <:+: significant cs

/-- Whether a text ends within a block comment, so that a line end behind it would be part of it. -/
def EndsInComment (cs : List Char) : Prop :=
  (label .code (cs ++ ['\n'])).getLast? = some (.blockComment, '\n')

theorem filter_gap {ms : List (Mode × Char)} (h : IsGap ms) : (ms.filter fun m => !isIdle m) = [] := by
  refine List.filter_eq_nil_iff.2 fun m hm => ?_
  obtain comment | blank := h m hm
  · simp [isIdle, comment]
  · simp [isIdle, Json.Text.isBlank_of_isBlank blank]

theorem readAs_code {cs : List Char} (h : ∀ c ∈ cs, c ≠ '"' ∧ c ≠ '/') :
    ReadAs cs (cs.map (.code, ·)) := by
  induction cs with
  | nil => exact fun rest => rfl
  | cons c cs ih =>
    obtain ⟨hc, hcs⟩ := List.forall_mem_cons.1 h
    have first : ReadAs [c] [(.code, c)] := fun rest =>
      label_opens (.other hc.1 fun same => absurd same hc.2)
    exact first.append (ih hcs)

/-- A token is read on its own. Unless it is a mark, no character of it is read as one. -/
theorem exists_readAs_token (t : Token) : ∃ ms, ReadAs t.text ms ∧ (∀ x ∈ ms, x.1.isComment = false) ∧
    (t.isMark = false → ∀ m : Mark, (.code, m.char) ∉ ms) := by
  match t with
  | .mark m =>
    refine ⟨[(.code, m.char)], readAs_code ?_, by simp [Mode.isComment], by simp [Token.isMark]⟩
    cases m <;> simp [Token.text, Mark.char]
  | .literal body =>
    let literal : Segment := ⟨.literal, '"' :: (body.chars ++ ['"'])⟩
    refine ⟨literal.labels, fun rest => ?_, fun x hx => ?_, fun _ m hm => ?_⟩
    · exact label_opens (.literal (isInner_of_isBody body.isBody))
    · obtain ⟨c, -, rfl⟩ := List.mem_map.1 hx
      rfl
    · simp [literal, Segment.labels] at hm
  | .word word =>
    refine ⟨word.chars.map (.code, ·), readAs_code fun c hc => ?_, fun x hx => ?_, fun _ m hm => ?_⟩
    · have plain := isPlain_of_mem_word word.isWord c hc
      exact ⟨plain.1, plain.2.1⟩
    · obtain ⟨c, -, rfl⟩ := List.mem_map.1 hx
      rfl
    · obtain ⟨c, hc, same⟩ := List.mem_map.1 hm
      obtain rfl : c = m.char := (Prod.mk.inj same).2
      have := mem_word_cases word.isWord _ hc
      cases m <;> simp [Mark.char] at this

theorem readAs_token (t : Token) : ReadAs t.text (label .code t.text) := by
  obtain ⟨ms, same, -⟩ := exists_readAs_token t
  rwa [same.eq_label]

section

variable {last : List Char → Prop} {ts : List Token} {cs : List Char}

theorem significant_laid (ends : ∀ g, last g → IsGap (label .code g)) (h : Laid IsFiller last ts cs) :
    significant cs = ts.flatMap fun t => significant t.text := by
  induction h with
  | nil hg => exact filter_gap (ends _ hg)
  | @cons g t ts cs hg _ ih =>
    obtain ⟨ms, gap, same⟩ := exists_readAs hg
    have both := same.append (readAs_token t)
    rw [← List.append_assoc, significant, both, List.filter_append, List.filter_append, filter_gap gap,
      List.nil_append, List.flatMap_cons, ← ih]
    rfl

end

theorem significant_mark (m : Mark) : significant (Token.mark m).text = [(.code, m.char)] := by
  cases m <;> rfl

theorem exists_significant {t : Token} (other : t.isMark = false) : ∃ x xs,
    significant t.text = x :: xs ∧ ∀ m : Mark, (.code, m.char) ∉ x :: xs := by
  obtain ⟨ms, same, outside, unmarked⟩ := exists_readAs_token t
  obtain ⟨c, cs, text, busy, -⟩ := t.exists_text
  have chars := map_snd_label .code t.text
  rw [same.eq_label, text] at chars
  obtain ⟨x, xs, rfl, rfl, -⟩ := List.map_eq_cons_iff.1 chars
  have first : isIdle x = false := by simp [isIdle, busy, outside x (by simp)]
  refine ⟨x, xs.filter fun m => !isIdle m, ?_, fun m hm => unmarked other m ?_⟩
  · rw [significant, same.eq_label, List.filter_cons_of_pos (by simp [first])]
  · exact List.cons_subset_cons x (List.filter_subset_self _) hm

theorem mark_char_injective {m n : Mark} (h : m.char = n.char) : m = n := by
  revert h
  cases m <;> cases n <;> decide

theorem prefix_significant_iff (n : Mark) (ts : List Token) :
    [(Mode.code, n.char)] <+: (ts.flatMap fun t => significant t.text) ↔ [Token.mark n] <+: ts := by
  cases ts with
  | nil => simp
  | cons t ts =>
    rw [List.flatMap_cons]
    cases other : t.isMark with
    | true =>
      obtain ⟨k, rfl⟩ := Token.exists_mark other
      rw [significant_mark, List.singleton_append]
      simp only [List.cons_prefix_cons, Prod.mk.injEq, true_and, List.nil_prefix, and_true, Token.mark.injEq]
      exact ⟨mark_char_injective, congrArg Mark.char⟩
    | false =>
      obtain ⟨x, xs, same, unmarked⟩ := exists_significant other
      rw [same, List.cons_append, List.cons_prefix_cons, List.cons_prefix_cons]
      constructor
      · rintro ⟨rfl, -⟩
        exact absurd (by simp) (unmarked n)
      · rintro ⟨rfl, -⟩
        simp [Token.isMark] at other

theorem infix_append_iff_of_not_mem {α : Type} {a b : α} {xs ys : List α} (h : a ∉ xs) :
    [a, b] <:+: xs ++ ys ↔ [a, b] <:+: ys := by
  induction xs with
  | nil => rfl
  | cons x xs ih =>
    simp only [List.mem_cons, not_or] at h
    rw [List.cons_append, List.infix_cons_iff, ih h.2, List.cons_prefix_cons]
    simp [h.1]

/-- Signs are next to each other in the characters of tokens as the marks are in the tokens. -/
theorem infix_significant_iff (m n : Mark) (ts : List Token) :
    [(Mode.code, m.char), (.code, n.char)] <:+: (ts.flatMap fun t => significant t.text) ↔
      [Token.mark m, .mark n] <:+: ts := by
  induction ts with
  | nil => simp
  | cons t ts ih =>
    rw [List.flatMap_cons]
    cases other : t.isMark with
    | true =>
      obtain ⟨k, rfl⟩ := Token.exists_mark other
      rw [significant_mark, List.singleton_append, List.infix_cons_iff, List.infix_cons_iff, ih,
        List.cons_prefix_cons, List.cons_prefix_cons, prefix_significant_iff]
      refine or_congr_left (and_congr_left fun _ => ?_)
      simp only [Prod.mk.injEq, true_and, Token.mark.injEq]
      exact ⟨mark_char_injective, congrArg Mark.char⟩
    | false =>
      obtain ⟨x, xs, same, unmarked⟩ := exists_significant other
      have apart : Token.mark m ≠ t := by
        rintro rfl
        simp [Token.isMark] at other
      rw [same, infix_append_iff_of_not_mem (unmarked m), ih, List.infix_cons_iff, List.cons_prefix_cons]
      simp [apart]

section

variable {last : List Char → Prop} {ts : List Token} {cs : List Char}

theorem hasCommaAfter_iff (ends : ∀ g, last g → IsGap (label .code g)) (h : Laid IsFiller last ts cs)
    (m : Mark) : HasCommaAfter m.char cs ↔ [Token.mark m, .mark .comma] <:+: ts := by
  rw [HasCommaAfter, significant_laid ends h]
  exact infix_significant_iff m .comma ts

end

theorem endsInComment_append {ms : List (Mode × Char)} {cs : List Char} (same : ReadAs cs ms)
    (rest : List Char) : EndsInComment (cs ++ rest) ↔ EndsInComment rest := by
  have some_label : label .code (rest ++ ['\n']) ≠ [] := by
    intro none_left
    have := map_snd_label .code (rest ++ ['\n'])
    simp [none_left] at this
  rw [EndsInComment, EndsInComment, List.append_assoc, same, List.getLast?_append_of_ne_nil _ some_label]

theorem not_endsInComment {g : List Char} (h : IsLastFiller g) : ¬EndsInComment g := by
  cases h with
  | closed h =>
    obtain ⟨ms, -, same⟩ := exists_readAs h
    have := (endsInComment_append same []).not
    rw [List.append_nil] at this
    rw [this]
    simp [EndsInComment, label]
  | @line g body h hb =>
    obtain ⟨ms, -, same⟩ := exists_readAs h
    have comment : Segment.Opens ⟨.lineComment, '/' :: '/' :: body⟩ ['\n'] := .lineComment hb (by simp)
    rw [endsInComment_append same, EndsInComment, label_opens comment]
    simp [label]

theorem endsInComment_block {body : List Char} (hb : ¬['*', '/'] <:+: body) :
    EndsInComment ('/' :: '*' :: body) := by
  have inside := label_block hb ['\n'] (by simp)
  have labels : label .code ('/' :: '*' :: body ++ ['\n']) =
      ((.blockComment, '/') :: (.blockComment, '*') :: body.map (.blockComment, ·)) ++
        [(.blockComment, '\n')] := by
    simp [label, inside]
  rw [EndsInComment, labels, List.getLast?_concat]

theorem endsInComment_token {g : List Char} (hg : IsFiller g) (t : Token) (cs : List Char) :
    EndsInComment (g ++ (t.text ++ cs)) ↔ EndsInComment cs := by
  obtain ⟨ms, -, same⟩ := exists_readAs hg
  rw [endsInComment_append same, endsInComment_append (readAs_token t)]

theorem not_endsInComment_laid {ts : List Token} {cs : List Char}
    (h : Laid IsFiller IsLastFiller ts cs) : ¬EndsInComment cs := by
  induction h with
  | nil hg => exact not_endsInComment hg
  | cons hg _ ih => rwa [endsInComment_token hg]

/-- A text that does not end within a block comment has filler at its end. -/
theorem laid_of_not_endsInComment {ts : List Token} {cs : List Char} (h : Laid IsFiller IsTail ts cs)
    (closed : ¬EndsInComment cs) : Laid IsFiller IsLastFiller ts cs := by
  induction h with
  | nil hg =>
    cases hg with
    | last hg => exact .nil hg
    | block hg hb =>
      obtain ⟨ms, -, same⟩ := exists_readAs hg
      exact absurd ((endsInComment_append same _).2 (endsInComment_block hb)) closed
  | cons hg _ ih =>
    rw [endsInComment_token hg] at closed
    exact .cons hg (ih closed)

end ScopedCheck.Lenient

namespace ScopedCheck.Config

open Json (Token Mark Form Spaced Laid)
open Lenient (IsFiller IsTail dropExtra HasCommaAfter EndsInComment)

/-- A text without the byte order marks at its front. -/
def withoutMarks (text : String) : List Char :=
  text.toList.dropWhile (· = byteOrderMark)

/-- The texts that are read as these members: without the commas before closing brackets their tokens
are those of a form. -/
def Admitted (cs : List Char) (members : Json.Members) : Prop :=
  ∃ (ts : List Token) (form : Form), Laid IsFiller IsTail ts cs ∧ dropExtra ts = form.tokens false ∧
    form.value? Json.maxLevels = some (.object members)

/-- The texts that only have blanks, closed comments, and single commas behind last items to tell them
from strict texts that are read as these members. -/
def Tolerated (cs : List Char) (members : Json.Members) : Prop :=
  ∃ form : Form, Loosens form cs ∧ (∃ strict, Spaced (form.tokens false) strict) ∧
    ∀ strict, Spaced (form.tokens false) strict → Json.parse strict = .ok (.object members)

theorem parse_eq_ok_iff_admitted {path : Path} {text : String} {config : Config} :
    parse path text = .ok config ↔ config.path = path ∧ Admitted (withoutMarks text) config.members := by
  rw [parse_eq_ok_iff]
  refine and_congr_right fun _ => ⟨fun read => ?_, ?_⟩
  · cases hp : Json.parse (strictText text) with
    | error refusal => simp [hp, Except.toOption] at read
    | ok v =>
      obtain ⟨form, spaced⟩ := Json.exists_form hp
      rw [Json.parse_spaced spaced] at read
      obtain ⟨ts, spaced', tokens⟩ := Lenient.exists_spaced_commas spaced
      exact ⟨ts, form, Lenient.laid_of_spaced_withoutComments spaced', tokens, read⟩
  · rintro ⟨ts, form, laid, tokens, value⟩
    have spaced := Lenient.spaced_withoutTrailingCommas
      (Lenient.spaced_withoutComments (fun _ => Lenient.isGap_label_tail) laid)
    rw [tokens] at spaced
    exact (Json.parse_spaced spaced).trans value

theorem parse_of_value {form : Form} {v : Json.Value} (value : form.value? Json.maxLevels = some v)
    {strict : List Char} (h : Spaced (form.tokens false) strict) : Json.parse strict = .ok v := by
  have read := (Json.parse_spaced h).trans value
  cases hp : Json.parse strict with
  | error refusal => simp [hp, Except.toOption] at read
  | ok v' => simpa [hp, Except.toOption] using read

/-- Exactly the admitted texts are accepted. None of them has a comma after a comma, and those that go
beyond what is tolerated are the ones with a comma after an opening bracket or an open comment at
their end. -/
theorem parse_admits (path : Path) (text : String) (config : Config) :
    (parse path text = .ok config ↔ config.path = path ∧ Admitted (withoutMarks text) config.members) ∧
    (parse path text = .ok config → ¬HasCommaAfter ',' (withoutMarks text) ∧
      (Tolerated (withoutMarks text) config.members ↔ ¬HasCommaAfter '[' (withoutMarks text) ∧
        ¬HasCommaAfter '{' (withoutMarks text) ∧ ¬EndsInComment (withoutMarks text))) := by
  refine ⟨parse_eq_ok_iff_admitted, fun accepted => ?_⟩
  obtain ⟨-, ts, form, laid, tokens, value⟩ := parse_eq_ok_iff_admitted.1 accepted
  have after := Lenient.hasCommaAfter_iff (fun _ => Lenient.isGap_label_tail) laid
  refine ⟨fun doubled => Lenient.not_doubled tokens ((after .comma).1 doubled), ?_, ?_⟩
  · rintro ⟨form', loosens, -⟩
    have after' := Lenient.hasCommaAfter_iff (fun _ => Lenient.isGap_label) loosens
    have apart (m : Mark) (opening : m ∈ [Mark.openArray, .openObject, .comma]) :
        ¬HasCommaAfter m.char (withoutMarks text) := by
      rw [after']
      exact Lenient.not_infix_tokens form' fun follows => by simpa [Token.isComma] using follows.1 m opening rfl
    exact ⟨apart .openArray (by simp), apart .openObject (by simp), Lenient.not_endsInComment_laid loosens⟩
  · rintro ⟨array, object, closed⟩
    have apart : Lenient.Apart ts := by
      simp only [Lenient.Apart, List.forall_mem_cons, ← after]
      exact ⟨array, object, by simp⟩
    obtain ⟨form', rfl, same⟩ := Lenient.exists_loose_form apart tokens
    have loosens : Loosens form' (withoutMarks text) := Lenient.laid_of_not_endsInComment laid closed
    refine ⟨form', loosens, ⟨_, Lenient.spaced_strip loosens⟩, fun strict spaced => ?_⟩
    rw [same] at spaced
    exact parse_of_value value spaced

/-- A comma alone in its brackets, and a comment that nothing closes. -/
theorem parse_admits_alone :
    parse ⟨"tsconfig.json"⟩ "\x7b\"a\":[,]\x7d/*" = .ok ⟨⟨"tsconfig.json"⟩, [("a", .array [])]⟩ ∧
    ¬Tolerated (withoutMarks "\x7b\"a\":[,]\x7d/*") [("a", .array [])] := by
  have strict : strictText "\x7b\"a\":[,]\x7d/*" =
      ['{', '"', 'a', '"', ':', '[', ' ', ']', '}', ' ', ' '] := by rfl
  have accepted : parse ⟨"tsconfig.json"⟩ "\x7b\"a\":[,]\x7d/*" =
      .ok ⟨⟨"tsconfig.json"⟩, [("a", .array [])]⟩ := by
    refine parse_eq_ok_iff.2 ⟨rfl, ?_⟩
    rw [strict]
    rfl
  refine ⟨accepted, fun tolerated => ?_⟩
  have lone : HasCommaAfter '[' (withoutMarks "\x7b\"a\":[,]\x7d/*") := by
    unfold HasCommaAfter
    decide
  exact (((parse_admits _ _ _).2 accepted).2.1 tolerated).1 lone

end ScopedCheck.Config
