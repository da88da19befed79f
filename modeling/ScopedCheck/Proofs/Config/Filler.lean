import ScopedCheck.Proofs.Config.Segment
import ScopedCheck.Proofs.Json.Reading

namespace ScopedCheck.Lenient

open Json (Token Mark Body Word Form Laid Spaced IsBlanks)

/-- What may stand between two tokens: blanks, and comments that are closed. -/
inductive IsFiller : List Char → Prop where
  | nil : IsFiller []
  | blank {c : Char} {cs : List Char} (hc : Json.isBlank c) (rest : IsFiller cs) : IsFiller (c :: cs)
  | line {body cs : List Char} (hb : '\n' ∉ body) (rest : IsFiller cs) :
      IsFiller ('/' :: '/' :: (body ++ '\n' :: cs))
  | block {body cs : List Char} (hb : ¬['*', '/'] <:+: body) (rest : IsFiller cs) :
      IsFiller ('/' :: '*' :: (body ++ '*' :: '/' :: cs))

/-- What may stand after the last token. The end of the text closes a line comment. -/
inductive IsLastFiller : List Char → Prop where
  | closed {cs : List Char} (h : IsFiller cs) : IsLastFiller cs
  | line {cs body : List Char} (h : IsFiller cs) (hb : '\n' ∉ body) :
      IsLastFiller (cs ++ '/' :: '/' :: body)

theorem isFiller_of_isBlanks {g : List Char} (h : IsBlanks g) : IsFiller g := by
  induction g with
  | nil => exact .nil
  | cons c g ih =>
    obtain ⟨hc, hg⟩ := Json.isBlanks_cons.1 h
    exact .blank hc (ih hg)

theorem laid_of_spaced {ts : List Token} {cs : List Char} (h : Spaced ts cs) :
    Laid IsFiller IsLastFiller ts cs := by
  induction h with
  | nil hg => exact .nil (.closed (isFiller_of_isBlanks hg))
  | cons hg _ ih => exact .cons (isFiller_of_isBlanks hg) ih

/-- Whether a stretch of text outside of literals and comments always belongs to the same, and the
scanner is outside of them again behind it. -/
def ReadAs (cs : List Char) (ms : List (Mode × Char)) : Prop :=
  ∀ rest, label .code (cs ++ rest) = ms ++ label .code rest

namespace ReadAs

variable {cs ds : List Char} {ms ns : List (Mode × Char)}

theorem append (h : ReadAs cs ms) (h' : ReadAs ds ns) : ReadAs (cs ++ ds) (ms ++ ns) := by
  intro rest
  rw [List.append_assoc, h, h', List.append_assoc]

theorem eq_label (h : ReadAs cs ms) : label .code cs = ms := by
  have := h []
  rwa [List.append_nil, label, List.append_nil] at this

end ReadAs

/-- Whether these are blanks, and characters of comments. -/
def IsGap (ms : List (Mode × Char)) : Prop :=
  ∀ m ∈ ms, m.1.isComment ∨ Json.isBlank m.2

theorem isGap_append {ms ns : List (Mode × Char)} (h : IsGap ms) (h' : IsGap ns) :
    IsGap (ms ++ ns) :=
  List.forall_mem_append.2 ⟨h, h'⟩

theorem isGap_comment (segment : Segment) (comment : segment.mode.isComment) : IsGap segment.labels := by
  intro m hm
  obtain ⟨c, -, rfl⟩ := List.mem_map.1 hm
  exact .inl comment

theorem exists_readAs {g : List Char} (h : IsFiller g) : ∃ ms, IsGap ms ∧ ReadAs g ms := by
  induction h with
  | nil => exact ⟨[], by simp [IsGap], fun rest => rfl⟩
  | @blank c g hc _ ih =>
    obtain ⟨ms, gap, same⟩ := ih
    have quote : c ≠ '"' := by rintro rfl; simp [Json.isBlank] at hc
    have slash : c ≠ '/' := by rintro rfl; simp [Json.isBlank] at hc
    have first : ReadAs [c] [(.code, c)] := fun rest =>
      label_opens (.other quote fun same => absurd same slash)
    exact ⟨(.code, c) :: ms, List.forall_mem_cons.2 ⟨.inr hc, gap⟩, first.append same⟩
  | @line body g hb _ ih =>
    obtain ⟨ms, gap, same⟩ := ih
    let comment : Segment := ⟨.lineComment, '/' :: '/' :: body⟩
    have line_end : IsGap [(.code, '\n')] := by simp [IsGap, Json.isBlank]
    have line : ReadAs (comment.chars ++ ['\n']) (comment.labels ++ [(.code, '\n')]) := by
      intro rest
      have opens : comment.Opens ('\n' :: rest) := .lineComment hb (by simp)
      rw [List.append_assoc, List.singleton_append, label_opens opens, List.append_assoc]
      simp [label]
    refine ⟨_, isGap_append (isGap_append (isGap_comment comment rfl) line_end) gap, ?_⟩
    simpa [comment] using line.append same
  | @block body g hb _ ih =>
    obtain ⟨ms, gap, same⟩ := ih
    let comment : Segment := ⟨.blockComment, '/' :: '*' :: (body ++ ['*', '/'])⟩
    have block : ReadAs comment.chars comment.labels := fun rest => label_opens (.blockComment hb)
    refine ⟨_, isGap_append (isGap_comment comment rfl) gap, ?_⟩
    simpa [comment] using block.append same

/-- A comment at the end of a text. -/
theorem label_last {comment : Segment} (opens : comment.Opens []) :
    label .code comment.chars = comment.labels := by
  have := label_opens opens
  rwa [List.append_nil, label, List.append_nil] at this

theorem isGap_label {g : List Char} (h : IsLastFiller g) : IsGap (label .code g) := by
  cases h with
  | closed h =>
    obtain ⟨ms, gap, same⟩ := exists_readAs h
    rwa [same.eq_label]
  | @line g body h hb =>
    obtain ⟨ms, gap, same⟩ := exists_readAs h
    rw [same, label_last (.lineComment hb (by simp))]
    exact isGap_append gap (isGap_comment _ rfl)

/-- A gap becomes a stretch of blanks. -/
theorem isBlanks_uncommented {ms : List (Mode × Char)} (h : IsGap ms) :
    IsBlanks (ms.map uncommented) := by
  have kept (c : Char) : Json.isBlank (keepLineEnd c) := by
    unfold keepLineEnd
    split <;> rfl
  intro c hc
  obtain ⟨m, hm, rfl⟩ := List.mem_map.1 hc
  cases comment : m.1.isComment with
  | true => simpa [uncommented, comment] using kept m.2
  | false => simpa [uncommented, comment] using h m hm

theorem exists_blanks {g : List Char} (h : IsFiller g) :
    ∃ b, IsBlanks b ∧ ∀ cs, blankComments .code (g ++ cs) = b ++ blankComments .code cs := by
  obtain ⟨ms, gap, same⟩ := exists_readAs h
  refine ⟨ms.map uncommented, isBlanks_uncommented gap, fun cs => ?_⟩
  rw [blankComments_eq, same, List.map_append, ← blankComments_eq]

/-- Whether a character means nothing outside of literals. -/
def IsPlain (c : Char) : Prop :=
  c ≠ '"' ∧ c ≠ '/' ∧ c ≠ ','

theorem isInner_of_isBody {body : List Char} (h : Json.Literal.IsBody body) : IsInner body := by
  induction h with
  | nil => exact .nil
  | plain quote backslash _ _ ih => exact .plain quote backslash ih
  | escape _ _ ih => exact .escape ih
  | @unicode a b c d rest digits _ ih =>
    have hex : ∀ x ∈ [a, b, c, d], x ≠ '"' ∧ x ≠ '\\' := by
      intro x hx
      constructor <;> rintro rfl <;> simpa [Json.Literal.IsHexDigit] using digits _ hx
    simp only [List.mem_cons, List.not_mem_nil, or_false, forall_eq_or_imp, forall_eq] at hex
    obtain ⟨ha, hb, hc, hd⟩ := hex
    exact .escape (.plain ha.1 ha.2 (.plain hb.1 hb.2 (.plain hc.1 hc.2 (.plain hd.1 hd.2 ih))))

/-- A pass over a text that copies literals, and the plain characters outside of them. -/
structure Copies (outside inside : List Char → List Char) : Prop where
  nil : outside [] = []
  plain : ∀ c cs, IsPlain c → outside (c :: cs) = c :: outside cs
  opening : ∀ cs, outside ('"' :: cs) = '"' :: inside cs
  inner : ∀ c cs, c ≠ '"' → c ≠ '\\' → inside (c :: cs) = c :: inside cs
  escape : ∀ c cs, inside ('\\' :: c :: cs) = '\\' :: c :: inside cs
  closing : ∀ cs, inside ('"' :: cs) = '"' :: outside cs

namespace Copies

variable {outside inside : List Char → List Char}

theorem body (h : Copies outside inside) {body : List Char} (hb : IsInner body) (cs : List Char) :
    inside (body ++ '"' :: cs) = body ++ '"' :: outside cs := by
  induction hb with
  | nil => exact h.closing cs
  | plain quote backslash _ ih =>
    rw [List.cons_append, h.inner _ _ quote backslash, ih, List.cons_append]
  | escape _ ih => simp only [List.cons_append, h.escape, ih]

theorem chars (h : Copies outside inside) {cs : List Char} (hcs : ∀ c ∈ cs, IsPlain c)
    (rest : List Char) : outside (cs ++ rest) = cs ++ outside rest := by
  induction cs with
  | nil => rfl
  | cons c cs ih =>
    rw [List.cons_append, h.plain _ _ (hcs c (by simp)), ih fun c hc => hcs c (by simp [hc]),
      List.cons_append]

end Copies

theorem isPlain_of_isDigit {c : Char} (h : c.isDigit) : IsPlain c := by
  refine ⟨?_, ?_, ?_⟩ <;> rintro rfl <;> simp at h

theorem mem_word_cases {cs : List Char} (h : Json.IsWord cs) : ∀ c ∈ cs, c.isDigit ∨
    c ∈ ['+', '-', '.', 'E', 'a', 'e', 'f', 'l', 'n', 'r', 's', 't', 'u'] := by
  have digits {ds : List Char} (h : Json.Numeral.IsDigits ds) : ∀ c ∈ ds, c.isDigit ∨
      c ∈ ['+', '-', '.', 'E', 'a', 'e', 'f', 'l', 'n', 'r', 's', 't', 'u'] :=
    fun c hc => .inl (h.2 c hc)
  cases h with
  | null => simp
  | true => simp
  | false => simp
  | numeral text =>
    obtain ⟨sign, whole, fraction, exponent, hs, hw, hf, he, rfl⟩ := text
    simp only [List.forall_mem_append]
    refine ⟨?_, ?_, ?_, ?_⟩
    · obtain rfl | rfl := hs <;> simp
    · obtain rfl | ⟨hd, -⟩ := hw
      · simp
      · exact digits hd
    · obtain rfl | ⟨ds, hd, rfl⟩ := hf
      · simp
      · exact List.forall_mem_cons.2 ⟨by simp, digits hd⟩
    · obtain rfl | ⟨mark, hm, sign, hs, ds, hd, rfl⟩ := he
      · simp
      · simp only [List.mem_cons, List.not_mem_nil, or_false] at hm hs
        refine List.forall_mem_cons.2 ⟨?_, List.forall_mem_append.2 ⟨?_, digits hd⟩⟩
        · obtain rfl | rfl := hm <;> simp
        · obtain rfl | rfl | rfl := hs <;> simp

/-- The characters of a word mean nothing to a pass. -/
theorem isPlain_of_mem_word {cs : List Char} (h : Json.IsWord cs) : ∀ c ∈ cs, IsPlain c := by
  intro c hc
  obtain digit | sign := mem_word_cases h c hc
  · exact isPlain_of_isDigit digit
  · refine ⟨?_, ?_, ?_⟩ <;> rintro rfl <;> simp at sign

theorem isPlain_of_isBlank {c : Char} (h : Json.isBlank c) : IsPlain c := by
  refine ⟨?_, ?_, ?_⟩ <;> rintro rfl <;> simp [Json.isBlank] at h

namespace Copies

variable {outside inside : List Char → List Char}

theorem blanks (h : Copies outside inside) {g : List Char} (hg : IsBlanks g) (cs : List Char) :
    outside (g ++ cs) = g ++ outside cs :=
  h.chars (fun c hc => isPlain_of_isBlank (hg c hc)) cs

theorem token (h : Copies outside inside) {t : Token} (ht : t.isComma = false) (cs : List Char) :
    outside (t.text ++ cs) = t.text ++ outside cs := by
  match t with
  | .mark m =>
    refine h.chars ?_ cs
    cases m <;> simp_all [Token.text, Mark.char, IsPlain, Token.isComma]
  | .literal body =>
    simp only [Token.text, List.cons_append, List.append_assoc, List.nil_append, h.opening,
      h.body (isInner_of_isBody body.isBody)]
  | .word word => exact h.chars (isPlain_of_mem_word word.isWord) cs

end Copies

theorem copies_comments : Copies (blankComments .code) (blankComments .literal) where
  nil := by rw [blankComments]
  plain c cs hc := by rw [blankComments] <;> simp [hc.1, hc.2.1]
  opening cs := by rw [blankComments]
  inner c cs quote backslash := by rw [blankComments] <;> simp [quote, backslash]
  escape c cs := by rw [blankComments]
  closing cs := by rw [blankComments]

theorem copies_commas : Copies (blankCommas false) (blankCommas true) where
  nil := by rw [blankCommas]
  plain c cs hc := by simp [blankCommas, hc.1, hc.2.2]
  opening cs := by simp [blankCommas]
  inner c cs quote backslash := by rw [blankCommas] <;> simp [quote, backslash]
  escape c cs := by rw [blankCommas]
  closing cs := by rw [blankCommas] <;> simp

theorem blankComments_token (t : Token) (cs : List Char) :
    blankComments .code (t.text ++ cs) = t.text ++ blankComments .code cs := by
  cases ht : t.isComma with
  | false => exact copies_comments.token ht cs
  | true =>
    obtain rfl := Token.eq_comma ht
    rw [Token.text, Mark.char, List.cons_append, blankComments] <;> simp

theorem spaced_withoutComments {last : List Char → Prop} (ends : ∀ g, last g → IsGap (label .code g))
    {ts : List Token} {cs : List Char} (h : Laid IsFiller last ts cs) :
    Spaced ts (withoutComments cs) := by
  induction h with
  | @nil g hg =>
    rw [withoutComments, blankComments_eq]
    exact .nil (isBlanks_uncommented (ends g hg))
  | @cons g t ts cs hg rest ih =>
    obtain ⟨b, hb, h⟩ := exists_blanks hg
    rw [withoutComments, h, blankComments_token]
    exact .cons hb ih

theorem withoutComments_of_spaced {ts : List Token} {cs : List Char} (h : Spaced ts cs) :
    withoutComments cs = cs := by
  induction h with
  | @nil g hg =>
    have := copies_comments.blanks hg []
    rwa [copies_comments.nil, List.append_nil] at this
  | cons hg rest ih =>
    rw [withoutComments, copies_comments.blanks hg, blankComments_token, ← withoutComments, ih]

/-- The tokens without the commas that stand before a closing bracket. -/
def dropExtra : List Token → List Token
  | [] => []
  | t :: ts => if t.isComma && ts.head?.any Token.closes then dropExtra ts else t :: dropExtra ts

theorem length_dropExtra_le (ts : List Token) : (dropExtra ts).length ≤ ts.length := by
  induction ts with
  | nil => simp [dropExtra]
  | cons t ts ih =>
    simp only [dropExtra]
    split <;> simp only [List.length_cons] <;> omega

theorem closesNext_token {g : List Char} (blanks : IsBlanks g) (t : Token) (rest : List Char) :
    closesNext (g ++ (t.text ++ rest)) = t.closes := by
  obtain ⟨c, text, ht, blank, closes⟩ := t.exists_text
  rw [closesNext, List.dropWhile_append_of_pos fun c hc => Json.Text.isBlank_of_isBlank (blanks c hc),
    ht, List.cons_append, List.dropWhile_cons_of_neg (by simp [blank]), Bool.eq_iff_iff, closes]
  simp

theorem closesNext_of_spaced {ts : List Token} {cs : List Char} (h : Spaced ts cs) :
    closesNext cs = ts.head?.any Token.closes := by
  cases h with
  | nil hg =>
    have blanks : ∀ c ∈ cs, Text.isBlank c := fun c hc => Json.Text.isBlank_of_isBlank (hg c hc)
    simp only [closesNext, List.dropWhile_eq_nil_iff.2 blanks]
    rfl
  | cons hg _ => rw [closesNext_token hg, List.head?_cons, Option.any_some]

/-- The pass over a token, which a blank replaces if it is a comma before a closing bracket. -/
theorem blankCommas_token (t : Token) {ts : List Token} {cs : List Char} (h : Spaced ts cs) :
    blankCommas false (t.text ++ cs) =
      (if t.isComma && ts.head?.any Token.closes then [' '] else t.text) ++ blankCommas false cs := by
  cases ht : t.isComma with
  | false => simpa using copies_commas.token ht cs
  | true =>
    obtain rfl := Token.eq_comma ht
    rw [← closesNext_of_spaced h]
    cases closes : closesNext cs <;> simp [Token.text, Mark.char, blankCommas, closes]

theorem spaced_withoutTrailingCommas {ts : List Token} {cs : List Char} (h : Spaced ts cs) :
    Spaced (dropExtra ts) (withoutTrailingCommas cs) := by
  induction h with
  | @nil g hg =>
    have := copies_commas.blanks hg []
    rw [copies_commas.nil, List.append_nil] at this
    rw [withoutTrailingCommas, this]
    exact .nil hg
  | @cons g t ts cs hg rest ih =>
    rw [withoutTrailingCommas, copies_commas.blanks hg, blankCommas_token t rest, dropExtra]
    split
    · exact Json.spaced_append hg (Json.spaced_append (by simp [Json.isBlank]) ih)
    · exact .cons hg ih

theorem withoutTrailingCommas_of_spaced {ts : List Token} {cs : List Char} (h : Spaced ts cs)
    (hts : dropExtra ts = ts) : withoutTrailingCommas cs = cs := by
  induction h with
  | @nil g hg =>
    have := copies_commas.blanks hg []
    rwa [copies_commas.nil, List.append_nil] at this
  | @cons g t ts cs hg rest ih =>
    rw [withoutTrailingCommas, copies_commas.blanks hg, blankCommas_token t rest]
    rw [dropExtra] at hts
    split at hts
    · have := length_dropExtra_le ts
      simp [hts] at this
    next keep =>
      have tail : dropExtra ts = ts := (List.cons.inj hts).2
      rw [if_neg keep, ← withoutTrailingCommas, ih tail]

theorem dropExtra_cons {t : Token} (ht : t.isComma = false) (ts : List Token) :
    dropExtra (t :: ts) = t :: dropExtra ts := by
  simp [dropExtra, ht]

/-- A comma that a form follows stays. -/
theorem dropExtra_separator (first loose : Bool) (form : Form) (ts : List Token) :
    dropExtra (Json.commaIf (!first) ++ (form.tokens loose ++ ts)) =
      Json.commaIf (!first) ++ dropExtra (form.tokens loose ++ ts) := by
  obtain ⟨t, us, ht, closes, -⟩ := Json.exists_cons_tokens form loose
  cases first <;> simp [Json.commaIf, ht, dropExtra, closes]

theorem dropExtra_close (wanted : Bool) {t : Token} (closes : t.closes) (ht : t.isComma = false)
    (ts : List Token) : dropExtra (Json.commaIf wanted ++ t :: ts) = t :: dropExtra ts := by
  have comma : (Token.mark .comma).isComma = true := rfl
  cases wanted <;> simp [Json.commaIf, dropExtra, ht, closes, comma]

theorem dropExtra_items {loose : Bool} {items : List Form}
    (ih : ∀ form ∈ items, ∀ ts, dropExtra (form.tokens loose ++ ts) =
      form.tokens false ++ dropExtra ts) (first : Bool) (ts : List Token) :
    dropExtra (Json.itemTokens loose first items ++ ts) =
      Json.itemTokens false first items ++ dropExtra ts := by
  induction items generalizing first with
  | nil => rfl
  | cons form forms ih' =>
    simp only [Json.itemTokens, List.append_assoc, dropExtra_separator]
    rw [ih form (by simp), ih' fun f hf => ih f (by simp [hf])]

theorem dropExtra_members {loose : Bool} {members : List (Body × Form)}
    (ih : ∀ m ∈ members, ∀ ts, dropExtra (m.2.tokens loose ++ ts) =
      m.2.tokens false ++ dropExtra ts) (first : Bool) (ts : List Token) :
    dropExtra (Json.memberTokens loose first members ++ ts) =
      Json.memberTokens false first members ++ dropExtra ts := by
  induction members generalizing first with
  | nil => rfl
  | cons member members ih' =>
    obtain ⟨key, form⟩ := member
    simp only [Json.memberTokens, List.append_assoc, List.cons_append]
    have separator := dropExtra_separator first loose (.literal key)
      (.mark .colon :: (form.tokens loose ++ (Json.memberTokens loose false members ++ ts)))
    simp only [Form.tokens, List.cons_append, List.nil_append] at separator
    rw [separator, dropExtra_cons (by rfl), dropExtra_cons (by rfl), ih (key, form) (by simp),
      ih' fun m hm => ih m (by simp [hm])]

/-- The loose tokens of a form become its strict ones. -/
theorem dropExtra_tokens (form : Form) (loose : Bool) (ts : List Token) :
    dropExtra (form.tokens loose ++ ts) = form.tokens false ++ dropExtra ts := by
  induction form using Form.induction generalizing ts with
  | literal body => exact dropExtra_cons (by rfl) ts
  | word word => exact dropExtra_cons (by rfl) ts
  | array items extra ih =>
    simp only [Form.tokens, List.cons_append, List.append_assoc, List.nil_append, Bool.false_and]
    rw [dropExtra_cons (by rfl), dropExtra_items ih, dropExtra_close _ (by rfl) (by rfl)]
    rfl
  | object members extra ih =>
    simp only [Form.tokens, List.cons_append, List.append_assoc, List.nil_append, Bool.false_and]
    rw [dropExtra_cons (by rfl), dropExtra_members ih, dropExtra_close _ (by rfl) (by rfl)]
    rfl

/-- Stripping leaves a strict text of the same form. -/
theorem spaced_strip {form : Form} {cs : List Char}
    (h : Laid IsFiller IsLastFiller (form.tokens true) cs) : Spaced (form.tokens false) (strip cs) := by
  have := spaced_withoutTrailingCommas (spaced_withoutComments (fun _ => isGap_label) h)
  have tokens := dropExtra_tokens form true []
  rw [List.append_nil] at tokens
  rw [tokens, dropExtra, List.append_nil] at this
  exact this

/-- A strict text stays as it is. -/
theorem strip_of_spaced {form : Form} {cs : List Char} (h : Spaced (form.tokens false) cs) :
    strip cs = cs := by
  have tokens := dropExtra_tokens form false []
  rw [strip, withoutComments_of_spaced h]
  exact withoutTrailingCommas_of_spaced h (by simpa [dropExtra] using tokens)

end ScopedCheck.Lenient
