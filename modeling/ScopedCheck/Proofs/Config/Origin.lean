import ScopedCheck.Proofs.Config.Filler

namespace ScopedCheck.Lenient

open Json (Token Mark Spaced Laid IsBlanks)

/-- A pass that makes nothing but blanks of the characters that it does not copy. -/
structure Reveals (outside inside : List Char → List Char) : Prop extends Copies outside inside where
  nothing : inside [] = []
  lastBackslash : inside ['\\'] = ['\\']
  special : ∀ c cs, c = '/' ∨ c = ',' →
    outside (c :: cs) = c :: outside cs ∨ ∃ ds, outside (c :: cs) = ' ' :: ds

theorem reveals_comments : Reveals (blankComments .code) (blankComments .literal) where
  toCopies := copies_comments
  nothing := by rw [blankComments]
  lastBackslash := by simp [blankComments]
  special c cs hc := by
    by_cases line : ∃ ds, c = '/' ∧ cs = '/' :: ds
    · obtain ⟨ds, rfl, rfl⟩ := line
      exact .inr ⟨_, by rw [blankComments]⟩
    by_cases block : ∃ ds, c = '/' ∧ cs = '*' :: ds
    · obtain ⟨ds, rfl, rfl⟩ := block
      exact .inr ⟨_, by rw [blankComments]⟩
    · left
      rw [blankComments]
      · rintro rfl
        simp at hc
      · exact fun ds slash same => line ⟨ds, slash, same⟩
      · exact fun ds slash same => block ⟨ds, slash, same⟩

theorem reveals_commas : Reveals (blankCommas false) (blankCommas true) where
  toCopies := copies_commas
  nothing := by rw [blankCommas]
  lastBackslash := by simp [blankCommas]
  special c cs hc := by
    have quote : c ≠ '"' := by
      rintro rfl
      simp at hc
    by_cases dropped : c = ',' ∧ closesNext cs
    · exact .inr ⟨blankCommas false cs, by simp [blankCommas, dropped.1, dropped.2]⟩
    · exact .inl (by simp [blankCommas, quote, dropped])

namespace Reveals

variable {outside inside : List Char → List Char}

/-- A character outside of literals that is no blank was there before. -/
theorem outer (h : Reveals outside inside) {c : Char} {cs ds : List Char} (quote : c ≠ '"')
    (blank : c ≠ ' ') (made : outside cs = c :: ds) : ∃ rest, cs = c :: rest ∧ outside rest = ds := by
  cases cs with
  | nil => simp [h.nil] at made
  | cons d rest =>
    by_cases opens : d = '"'
    · subst opens
      rw [h.opening] at made
      exact absurd (List.cons.inj made).1.symm quote
    by_cases special : d = '/' ∨ d = ','
    · obtain same | ⟨ds', same⟩ := h.special d rest special
      · rw [same] at made
        obtain ⟨rfl, rfl⟩ := List.cons.inj made
        exact ⟨rest, rfl, rfl⟩
      · rw [same] at made
        exact absurd (List.cons.inj made).1.symm blank
    · simp only [not_or] at special
      rw [h.plain d rest ⟨opens, special⟩] at made
      obtain ⟨rfl, rfl⟩ := List.cons.inj made
      exact ⟨rest, rfl, rfl⟩

theorem opened (h : Reveals outside inside) {cs ds : List Char} (made : outside cs = '"' :: ds) :
    ∃ rest, cs = '"' :: rest ∧ inside rest = ds := by
  cases cs with
  | nil => simp [h.nil] at made
  | cons d rest =>
    by_cases opens : d = '"'
    · subst opens
      rw [h.opening] at made
      exact ⟨rest, rfl, (List.cons.inj made).2⟩
    by_cases special : d = '/' ∨ d = ','
    · obtain same | ⟨ds', same⟩ := h.special d rest special
      · rw [same] at made
        exact absurd (List.cons.inj made).1 opens
      · rw [same] at made
        simp at made
    · simp only [not_or] at special
      rw [h.plain d rest ⟨opens, special⟩] at made
      exact absurd (List.cons.inj made).1 opens

/-- Inside of literals nothing is made. -/
theorem head_inside (h : Reveals outside inside) {c : Char} {cs ds : List Char}
    (made : inside cs = c :: ds) : ∃ rest, cs = c :: rest := by
  cases cs with
  | nil => simp [h.nothing] at made
  | cons d cs =>
    suffices same : ∃ ds', inside (d :: cs) = d :: ds' by
      obtain ⟨ds', same⟩ := same
      rw [same] at made
      exact ⟨cs, by rw [(List.cons.inj made).1]⟩
    by_cases closes : d = '"'
    · exact ⟨_, closes ▸ h.closing cs⟩
    by_cases backslash : d = '\\'
    · subst backslash
      cases cs with
      | nil => exact ⟨[], h.lastBackslash⟩
      | cons e cs => exact ⟨_, h.escape e cs⟩
    · exact ⟨_, h.inner d cs closes backslash⟩

theorem body (h : Reveals outside inside) {body : List Char} (hb : IsInner body) {cs ds : List Char}
    (made : inside cs = body ++ '"' :: ds) : ∃ rest, cs = body ++ '"' :: rest ∧ outside rest = ds := by
  induction hb generalizing cs with
  | nil =>
    obtain ⟨rest, rfl⟩ := h.head_inside made
    rw [List.nil_append, h.closing] at made
    exact ⟨rest, rfl, (List.cons.inj made).2⟩
  | @plain c body quote backslash _ ih =>
    obtain ⟨cs', rfl⟩ := h.head_inside made
    rw [h.inner c cs' quote backslash] at made
    obtain ⟨rest, rfl, after⟩ := ih (List.cons.inj made).2
    exact ⟨rest, rfl, after⟩
  | @escape c body _ ih =>
    obtain ⟨cs', rfl⟩ := h.head_inside made
    cases cs' with
    | nil => simp [h.lastBackslash] at made
    | cons d cs' =>
      rw [h.escape] at made
      obtain ⟨rfl, next⟩ := List.cons.inj (List.cons.inj made).2
      obtain ⟨rest, rfl, after⟩ := ih next
      exact ⟨rest, rfl, after⟩

theorem chars (h : Reveals outside inside) {text : List Char}
    (solid : ∀ c ∈ text, c ≠ '"' ∧ c ≠ ' ') {cs ds : List Char} (made : outside cs = text ++ ds) :
    ∃ rest, cs = text ++ rest ∧ outside rest = ds := by
  induction text generalizing cs with
  | nil => exact ⟨cs, rfl, made⟩
  | cons c text ih =>
    obtain ⟨hc, solid'⟩ := List.forall_mem_cons.1 solid
    obtain ⟨cs', rfl, next⟩ := h.outer hc.1 hc.2 made
    obtain ⟨rest, rfl, after⟩ := ih solid' next
    exact ⟨rest, rfl, after⟩

/-- A token that a pass gives was there before. -/
theorem token (h : Reveals outside inside) (t : Token) {cs ds : List Char}
    (made : outside cs = t.text ++ ds) : ∃ rest, cs = t.text ++ rest ∧ outside rest = ds := by
  match t with
  | .mark m =>
    refine h.chars ?_ made
    cases m <;> simp [Token.text, Mark.char]
  | .literal body =>
    simp only [Token.text, List.cons_append, List.append_assoc, List.nil_append] at made ⊢
    obtain ⟨cs', rfl, next⟩ := h.opened made
    obtain ⟨rest, rfl, after⟩ := h.body (isInner_of_isBody body.isBody) next
    exact ⟨rest, rfl, after⟩
  | .word word =>
    refine h.chars (fun c hc => ⟨(isPlain_of_mem_word word.isWord c hc).1, ?_⟩) made
    rintro rfl
    simpa using mem_word_cases word.isWord ' ' hc

end Reveals

theorem isBlanks_of_blankCommas {cs : List Char} (blanks : IsBlanks (blankCommas false cs)) :
    IsBlanks cs := by
  induction cs with
  | nil => exact Json.isBlanks_nil
  | cons c cs ih =>
    by_cases dropped : c = ',' ∧ closesNext cs
    · -- The bracket that makes the comma a trailing one would have stayed.
      have made : blankCommas false (c :: cs) = ' ' :: blankCommas false cs := by
        simp [blankCommas, dropped.1, dropped.2]
      rw [made] at blanks
      have rest := ih (Json.isBlanks_cons.1 blanks).2
      have none_left : cs.dropWhile Text.isBlank = [] :=
        List.dropWhile_eq_nil_iff.2 fun d hd => Json.Text.isBlank_of_isBlank (rest d hd)
      have closes := dropped.2
      simp [closesNext, none_left] at closes
    · have made : blankCommas false (c :: cs) = c :: blankCommas (c = '"') cs := by
        simp [blankCommas, dropped]
      rw [made] at blanks
      obtain ⟨blank, rest⟩ := Json.isBlanks_cons.1 blanks
      have quote : c ≠ '"' := (isPlain_of_isBlank blank).1
      simp only [quote, decide_false] at rest
      exact Json.isBlanks_cons.2 ⟨blank, ih rest⟩

/-- A token that is left when the trailing commas are blanked: it stood there, alone or as a closing
bracket after such a comma. -/
theorem exists_gap {g : List Char} (blanks : IsBlanks g) {t : Token} {cs ds : List Char}
    (made : blankCommas false cs = g ++ (t.text ++ ds)) :
    ∃ rest, blankCommas false rest = ds ∧ (t.isComma → closesNext rest = false) ∧
      ((∃ g', IsBlanks g' ∧ cs = g' ++ (t.text ++ rest)) ∨ t.closes ∧ ∃ g₁ g₂, IsBlanks g₁ ∧
        IsBlanks g₂ ∧ cs = g₁ ++ ',' :: (g₂ ++ (t.text ++ rest))) := by
  induction g generalizing cs with
  | nil =>
    obtain ⟨rest, rfl, same⟩ := reveals_commas.token t made
    refine ⟨rest, same, fun comma => ?_, .inl ⟨[], Json.isBlanks_nil, rfl⟩⟩
    obtain rfl := Token.eq_comma comma
    by_contra closes
    simp [Token.text, Mark.char, blankCommas, closes] at made
  | cons b g ih =>
    obtain ⟨blank, blanks'⟩ := Json.isBlanks_cons.1 blanks
    cases cs with
    | nil => simp [blankCommas] at made
    | cons c cs =>
      by_cases dropped : c = ',' ∧ closesNext cs
      · obtain ⟨rfl, closes⟩ := dropped
        have made' : blankCommas false cs = g ++ (t.text ++ ds) := by
          simp only [blankCommas, List.cons_append, List.cons.injEq] at made
          exact made.2
        obtain ⟨rest, same, stays, ⟨g', hg', rfl⟩ | ⟨-, g₁, g₂, hg₁, hg₂, rfl⟩⟩ := ih blanks' made'
        · rw [closesNext_token hg'] at closes
          exact ⟨rest, same, stays, .inr ⟨closes, [], g', Json.isBlanks_nil, hg', rfl⟩⟩
        · have comma : closesNext (g₁ ++ ',' :: (g₂ ++ (t.text ++ rest))) = false :=
            closesNext_token hg₁ (.mark .comma) _
          simp [comma] at closes
      · have step : blankCommas false (c :: cs) = c :: blankCommas (c = '"') cs := by
          simp [blankCommas, dropped]
        rw [step, List.cons_append] at made
        obtain ⟨rfl, made'⟩ := List.cons.inj made
        have quote : c ≠ '"' := (isPlain_of_isBlank blank).1
        simp only [quote, decide_false] at made'
        obtain ⟨rest, same, stays, ⟨g', hg', rfl⟩ | ⟨closes, g₁, g₂, hg₁, hg₂, rfl⟩⟩ := ih blanks' made'
        · exact ⟨rest, same, stays, .inl ⟨c :: g', Json.isBlanks_cons.2 ⟨blank, hg'⟩, rfl⟩⟩
        · exact ⟨rest, same, stays,
            .inr ⟨closes, c :: g₁, g₂, Json.isBlanks_cons.2 ⟨blank, hg₁⟩, hg₂, rfl⟩⟩

/-- The tokens that are left without the trailing commas are those of the text without these. -/
theorem exists_spaced_commas {ts : List Token} {cs : List Char} (h : Spaced ts (withoutTrailingCommas cs)) :
    ∃ us, Spaced us cs ∧ dropExtra us = ts := by
  unfold withoutTrailingCommas at h
  generalize made : blankCommas false cs = ds at h
  induction h generalizing cs with
  | @nil g blanks => exact ⟨[], .nil (isBlanks_of_blankCommas (made ▸ blanks)), rfl⟩
  | @cons g t ts ds blanks _ ih =>
    obtain ⟨rest, same, stays, spot⟩ := exists_gap blanks made
    obtain ⟨us, spaced, rfl⟩ := ih same
    have kept : dropExtra (t :: us) = t :: dropExtra us := by
      cases comma : t.isComma with
      | false => exact dropExtra_cons comma us
      | true =>
        have apart := stays comma
        rw [closesNext_of_spaced spaced] at apart
        simp [dropExtra, apart]
    obtain ⟨g', hg', rfl⟩ | ⟨closes, g₁, g₂, hg₁, hg₂, rfl⟩ := spot
    · exact ⟨t :: us, .cons hg' spaced, kept⟩
    · refine ⟨.mark .comma :: t :: us, .cons hg₁ (.cons hg₂ spaced), ?_⟩
      have extra : dropExtra (.mark .comma :: t :: us) = dropExtra (t :: us) := by
        have comma : (Token.mark .comma).isComma = true := rfl
        rw [dropExtra]
        simp [closes, comma]
      rw [extra, kept]

/-- What can stand after the last token of a text that is taken for a strict one: at its end a block
comment need not be closed. -/
inductive IsTail : List Char → Prop where
  | last {cs : List Char} (h : IsLastFiller cs) : IsTail cs
  | block {cs body : List Char} (h : IsFiller cs) (hb : ¬['*', '/'] <:+: body) :
      IsTail (cs ++ '/' :: '*' :: body)

theorem isGap_label_tail {g : List Char} (h : IsTail g) : IsGap (label .code g) := by
  cases h with
  | last h => exact isGap_label h
  | block h hb =>
    obtain ⟨ms, gap, same⟩ := exists_readAs h
    rw [same, label_last (.unclosedComment hb)]
    exact isGap_append gap (isGap_comment _ rfl)

/-- Whether a text begins with a character that is no blank, and neither is what is left of it. -/
def IsSolid (cs : List Char) : Prop :=
  ∃ c ds, blankComments .code cs = c :: ds ∧ Json.isBlank c = false

/-- Filler at the front of a text, up to its end or to the next character that is left. -/
def FillerFirst (cs : List Char) : Prop :=
  IsTail cs ∨ ∃ g rest, IsFiller g ∧ IsSolid rest ∧ cs = g ++ rest

theorem FillerFirst.append {cs : List Char} (h : FillerFirst cs) (piece : List Char)
    (longer : ∀ g, IsFiller g → IsFiller (piece ++ g)) : FillerFirst (piece ++ cs) := by
  obtain (h | ⟨h, hb⟩) | ⟨g, rest, hg, solid, rfl⟩ := h
  · cases h with
    | closed h => exact .inl (.last (.closed (longer _ h)))
    | line h hb =>
      rw [← List.append_assoc]
      exact .inl (.last (.line (longer _ h) hb))
  · rw [← List.append_assoc]
    exact .inl (.block (longer _ h) hb)
  · exact .inr ⟨piece ++ g, rest, longer _ hg, solid, by rw [List.append_assoc]⟩

theorem fillerFirst (cs : List Char) : FillerFirst cs := by
  -- A comment is many characters at once, so the induction is on the length.
  induction len : cs.length using Nat.strong_induction_on generalizing cs with
  | _ size ih =>
    subst len
    cases cs with
    | nil => exact .inl (.last (.closed .nil))
    | cons c cs =>
      obtain ⟨segment, rest, first, h⟩ := exists_opens c cs
      have shorter : rest.length < (c :: cs).length := by
        have := List.length_pos_iff.2 first.ne_nil
        rw [h, List.length_append]
        omega
      have later : FillerFirst rest := ih _ shorter rest rfl
      rw [h]
      have literal {ds : List Char} : FillerFirst ('"' :: ds) :=
        .inr ⟨[], '"' :: ds, .nil, ⟨'"', _, by rw [blankComments], rfl⟩, rfl⟩
      cases first with
      | literal | unclosedLiteral | lastBackslash => exact literal
      | @lineComment body rest within ends =>
        cases rest with
        | nil =>
          rw [List.append_nil]
          exact .inl (.last (.line .nil within))
        | cons d rest =>
          obtain rfl : d = '\n' := ends d rfl
          have behind : FillerFirst rest := ih _ (by simp at shorter ⊢; omega) rest rfl
          have := behind.append ('/' :: '/' :: (body ++ ['\n'])) fun g hg => by
            simpa using IsFiller.line within hg
          simpa using this
      | @blockComment body rest within =>
        exact later.append _ fun g hg => by simpa using IsFiller.block within hg
      | unclosedComment within =>
        rw [List.append_nil]
        exact .inl (.block .nil within)
      | @other c rest quote slash =>
        by_cases blank : Json.isBlank c
        · exact later.append [c] fun g hg => .blank blank hg
        · have kept : blankComments .code (c :: rest) = c :: blankComments .code rest := by
            have opens : Segment.Opens ⟨.code, [c]⟩ rest := .other quote slash
            have := label_opens opens
            simp only [List.singleton_append] at this
            rw [blankComments_eq, this, List.map_append, ← blankComments_eq]
            rfl
          exact .inr ⟨[], c :: rest, .nil, ⟨c, _, kept, by simpa using blank⟩, rfl⟩

/-- The tokens that are left without the comments are those of the text, with filler between them. -/
theorem laid_of_spaced_withoutComments {ts : List Token} {cs : List Char}
    (h : Spaced ts (withoutComments cs)) : Laid IsFiller IsTail ts cs := by
  unfold withoutComments at h
  generalize made : blankComments .code cs = ds at h
  induction h generalizing cs with
  | @nil g blanks =>
    obtain tail | ⟨g', rest, filler, ⟨c, ds, solid, busy⟩, rfl⟩ := fillerFirst cs
    · exact .nil tail
    · obtain ⟨b, -, same⟩ := exists_blanks filler
      rw [same, solid] at made
      have blank : Json.isBlank c := blanks c (by rw [← made]; simp)
      simp [blank] at busy
  | @cons g t ts ds blanks _ ih =>
    obtain tail | ⟨g', rest, filler, ⟨c, ds', solid, busy⟩, rfl⟩ := fillerFirst cs
    · have all : IsBlanks (blankComments .code cs) := by
        rw [blankComments_eq]
        exact isBlanks_uncommented (isGap_label_tail tail)
      have none_left : Json.skipBlank (blankComments .code cs) = [] :=
        List.dropWhile_eq_nil_iff.2 all
      rw [made, Json.skipBlank_append blanks, Json.skipBlank_text] at none_left
      have := t.length_text_pos
      simp_all
    · obtain ⟨b, hb, same⟩ := exists_blanks filler
      have front : Json.skipBlank (blankComments .code (g' ++ rest)) = blankComments .code rest := by
        rw [same, Json.skipBlank_append hb, solid, Json.skipBlank, List.dropWhile_cons_of_neg (by simp [busy])]
      rw [made, Json.skipBlank_append blanks, Json.skipBlank_text] at front
      obtain ⟨rest', rfl, behind⟩ := reveals_comments.token t front.symm
      exact .cons filler (ih behind)

end ScopedCheck.Lenient
