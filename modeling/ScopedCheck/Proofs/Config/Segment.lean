import Mathlib.Data.List.Infix
import Mathlib.Data.List.TakeWhile
import ScopedCheck.Config.Lenient

namespace ScopedCheck.Lenient

def Mode.isComment : Mode → Bool
  | lineComment | blockComment => true
  | _ => false

/-- What may stand in a literal before the quote that closes it. -/
inductive IsInner : List Char → Prop where
  | nil : IsInner []
  | plain {c : Char} {cs : List Char} (quote : c ≠ '"') (backslash : c ≠ '\\') (rest : IsInner cs) :
      IsInner (c :: cs)
  | escape {c : Char} {cs : List Char} (rest : IsInner cs) : IsInner ('\\' :: c :: cs)

/-- A stretch of a text that is read as one, and what it is. -/
structure Segment where
  mode : Mode
  chars : List Char

/-- Whether a segment can be the first one of a text that goes on like this. A literal and a block
comment that are not closed go on to the end of the text. -/
inductive Segment.Opens : Segment → (rest : List Char) → Prop where
  | literal {body rest : List Char} (inner : IsInner body) :
      Opens ⟨.literal, '"' :: (body ++ ['"'])⟩ rest
  | unclosedLiteral {body : List Char} (inner : IsInner body) : Opens ⟨.literal, '"' :: body⟩ []
  | lastBackslash {body : List Char} (inner : IsInner body) :
      Opens ⟨.literal, '"' :: (body ++ ['\\'])⟩ []
  | lineComment {body rest : List Char} (within : '\n' ∉ body) (ends : ∀ c ∈ rest.head?, c = '\n') :
      Opens ⟨.lineComment, '/' :: '/' :: body⟩ rest
  | blockComment {body rest : List Char} (within : ¬['*', '/'] <:+: body) :
      Opens ⟨.blockComment, '/' :: '*' :: (body ++ ['*', '/'])⟩ rest
  | unclosedComment {body : List Char} (within : ¬['*', '/'] <:+: body) :
      Opens ⟨.blockComment, '/' :: '*' :: body⟩ []
  | other {c : Char} {rest : List Char} (quote : c ≠ '"')
      (slash : c = '/' → ∀ d ∈ rest.head?, d ≠ '/' ∧ d ≠ '*') : Opens ⟨.code, [c]⟩ rest

/-- Whether a text consists of these segments. -/
inductive Segmented : List Segment → List Char → Prop where
  | nil : Segmented [] []
  | cons {segment : Segment} {segments : List Segment} {rest : List Char} (first : segment.Opens rest)
      (others : Segmented segments rest) : Segmented (segment :: segments) (segment.chars ++ rest)

/-- The inside of a literal at the front of a text: it is closed, or it goes on to the end, where a
backslash may stand alone. -/
def InnerFirst (cs : List Char) : Prop :=
  (∃ body rest, IsInner body ∧ cs = body ++ '"' :: rest) ∨ IsInner cs ∨
    ∃ body, IsInner body ∧ cs = body ++ ['\\']

theorem InnerFirst.append {cs : List Char} (h : InnerFirst cs) (piece : List Char)
    (longer : ∀ body, IsInner body → IsInner (piece ++ body)) : InnerFirst (piece ++ cs) := by
  obtain ⟨body, rest, inner, rfl⟩ | inner | ⟨body, inner, rfl⟩ := h
  · exact .inl ⟨piece ++ body, rest, longer _ inner, by simp⟩
  · exact .inr (.inl (longer _ inner))
  · exact .inr (.inr ⟨piece ++ body, longer _ inner, by simp⟩)

theorem innerFirst : ∀ cs, InnerFirst cs
  | [] => .inr (.inl .nil)
  | c :: cs => by
    by_cases quote : c = '"'
    · exact .inl ⟨[], cs, .nil, by rw [quote, List.nil_append]⟩
    by_cases backslash : c = '\\'
    · subst backslash
      match cs with
      | [] => exact .inr (.inr ⟨[], .nil, rfl⟩)
      | d :: cs => exact (innerFirst cs).append ['\\', d] fun _ inner => .escape inner
    · exact (innerFirst cs).append [c] fun _ inner => .plain quote backslash inner

/-- A block comment at the front of a text ends at the first star that a slash follows, if there is one. -/
theorem blockFirst (cs : List Char) :
    (∃ body rest, ¬['*', '/'] <:+: body ∧ cs = body ++ '*' :: '/' :: rest) ∨ ¬['*', '/'] <:+: cs := by
  induction cs with
  | nil => exact .inr (by simp)
  | cons c cs ih =>
    by_cases closes : ['*', '/'] <+: c :: cs
    · obtain ⟨rest, h⟩ := closes
      exact .inl ⟨[], rest, by simp, h.symm⟩
    obtain ⟨body, rest, within, rfl⟩ | within := ih
    · refine .inl ⟨c :: body, rest, fun inside => ?_, rfl⟩
      obtain first | inside := List.infix_cons_iff.1 inside
      · exact closes (first.trans (by simp))
      · exact within inside
    · refine .inr fun inside => ?_
      obtain first | inside := List.infix_cons_iff.1 inside
      · exact closes first
      · exact within inside

theorem exists_opens (c : Char) (cs : List Char) :
    ∃ segment : Segment, ∃ rest, segment.Opens rest ∧ c :: cs = segment.chars ++ rest := by
  by_cases quote : c = '"'
  · subst quote
    obtain ⟨body, rest, inner, rfl⟩ | inner | ⟨body, inner, rfl⟩ := innerFirst cs
    · exact ⟨_, rest, .literal inner, by simp⟩
    · exact ⟨_, [], .unclosedLiteral inner, by simp⟩
    · exact ⟨_, [], .lastBackslash inner, by simp⟩
  by_cases line : c = '/' ∧ cs.head? = some '/'
  · obtain ⟨rfl, h⟩ := line
    obtain ⟨rest, rfl⟩ := List.head?_eq_some_iff.1 h
    have within : '\n' ∉ rest.takeWhile (· ≠ '\n') := fun mem => by
      simpa using List.mem_takeWhile_imp mem
    have ends : ∀ d ∈ (rest.dropWhile (· ≠ '\n')).head?, d = '\n' := by
      intro d hd
      have stop := List.head?_dropWhile_not (fun c => decide (c ≠ '\n')) rest
      rw [Option.mem_def.1 hd] at stop
      simpa using stop
    exact ⟨_, rest.dropWhile (· ≠ '\n'), .lineComment within ends, by simp⟩
  by_cases block : c = '/' ∧ cs.head? = some '*'
  · obtain ⟨rfl, h⟩ := block
    obtain ⟨rest, rfl⟩ := List.head?_eq_some_iff.1 h
    obtain ⟨body, rest, within, rfl⟩ | within := blockFirst rest
    · exact ⟨_, rest, .blockComment within, by simp⟩
    · exact ⟨_, [], .unclosedComment within, by simp⟩
  · refine ⟨⟨.code, [c]⟩, cs, .other quote fun slash d hd => ⟨?_, ?_⟩, rfl⟩
    · rintro rfl
      exact line ⟨slash, hd⟩
    · rintro rfl
      exact block ⟨slash, hd⟩

theorem Segment.Opens.ne_nil {segment : Segment} {rest : List Char} (h : segment.Opens rest) :
    segment.chars ≠ [] := by
  cases h <;> simp

theorem exists_segmented (cs : List Char) : ∃ segments, Segmented segments cs := by
  induction len : cs.length using Nat.strong_induction_on generalizing cs with
  | _ size ih =>
    subst len
    cases cs with
    | nil => exact ⟨[], .nil⟩
    | cons c cs =>
      obtain ⟨segment, rest, first, h⟩ := exists_opens c cs
      have shorter : rest.length < (c :: cs).length := by
        have := List.length_pos_iff.2 first.ne_nil
        rw [h, List.length_append]
        omega
      obtain ⟨segments, others⟩ := ih _ shorter rest rfl
      exact ⟨segment :: segments, h ▸ .cons first others⟩

/-- The characters of a text with what they belong to, from a mode on. -/
def label : Mode → List Char → List (Mode × Char)
  | _, [] => []
  | .code, '"' :: cs => (.literal, '"') :: label .literal cs
  | .code, '/' :: '/' :: cs => (.lineComment, '/') :: (.lineComment, '/') :: label .lineComment cs
  | .code, '/' :: '*' :: cs => (.blockComment, '/') :: (.blockComment, '*') :: label .blockComment cs
  | .code, c :: cs => (.code, c) :: label .code cs
  | .literal, '"' :: cs => (.literal, '"') :: label .code cs
  | .literal, '\\' :: c :: cs => (.literal, '\\') :: (.literal, c) :: label .literal cs
  | .literal, c :: cs => (.literal, c) :: label .literal cs
  | .lineComment, '\n' :: cs => (.code, '\n') :: label .code cs
  | .lineComment, c :: cs => (.lineComment, c) :: label .lineComment cs
  | .blockComment, '*' :: '/' :: cs => (.blockComment, '*') :: (.blockComment, '/') :: label .code cs
  | .blockComment, c :: cs => (.blockComment, c) :: label .blockComment cs

/-- The characters of segments with what they belong to. -/
def Segment.labels (segment : Segment) : List (Mode × Char) :=
  segment.chars.map (segment.mode, ·)

theorem map_snd_label (mode : Mode) (cs : List Char) : (label mode cs).map Prod.snd = cs := by
  fun_induction label mode cs <;> simp_all

theorem label_inner {body : List Char} (inner : IsInner body) (cs : List Char) :
    label .literal (body ++ cs) = body.map (.literal, ·) ++ label .literal cs := by
  induction inner with
  | nil => rfl
  | @plain c body quote backslash _ ih =>
    rw [List.cons_append, label, ih]
    · rfl
    · exact quote
    · intro d rest same
      exact absurd same backslash
  | escape _ ih =>
    rw [List.cons_append, List.cons_append, label, ih]
    rfl

theorem label_line {body : List Char} (within : '\n' ∉ body) (cs : List Char) :
    label .lineComment (body ++ cs) = body.map (.lineComment, ·) ++ label .lineComment cs := by
  induction body with
  | nil => rfl
  | cons c body ih =>
    simp only [List.mem_cons, not_or] at within
    rw [List.cons_append, label, ih within.2]
    · rfl
    · exact Ne.symm within.1

theorem label_block {body : List Char} (within : ¬['*', '/'] <:+: body) (cs : List Char)
    (apart : cs.head? ≠ some '/') :
    label .blockComment (body ++ cs) = body.map (.blockComment, ·) ++ label .blockComment cs := by
  induction body with
  | nil => rfl
  | cons c body ih =>
    have inner : ¬['*', '/'] <:+: body := fun inside => within (List.infix_cons_iff.2 (.inr inside))
    have goes_on : ∀ rest, c = '*' → body ++ cs ≠ '/' :: rest := by
      rintro rest rfl h
      cases body with
      | nil => exact apart (by rw [List.nil_append] at h; rw [h]; rfl)
      | cons d body =>
        obtain rfl : d = '/' := (List.cons.inj h).1
        exact within ⟨[], body, rfl⟩
    rw [List.cons_append, label, ih inner]
    · rfl
    · exact goes_on

theorem label_opens {segment : Segment} {rest : List Char} (h : segment.Opens rest) :
    label .code (segment.chars ++ rest) = segment.labels ++ label .code rest := by
  cases h with
  | literal inner => simp [label, label_inner inner, Segment.labels]
  | @unclosedLiteral body inner =>
    have := label_inner inner []
    simp_all [label, Segment.labels]
  | lastBackslash inner => simp [label, label_inner inner, Segment.labels]
  | @lineComment body rest within ends =>
    have back : label .lineComment rest = label .code rest := by
      cases rest with
      | nil => rfl
      | cons c rest =>
        obtain rfl : c = '\n' := ends c rfl
        simp [label]
    simp [label, label_line within, back, Segment.labels]
  | @blockComment body rest within =>
    have closing := label_block within ('*' :: '/' :: rest) (by simp)
    simp [label, closing, Segment.labels]
  | unclosedComment within =>
    have := label_block within [] (by simp)
    simp_all [label, Segment.labels]
  | @other c rest quote slash =>
    rw [List.singleton_append, label]
    · rfl
    · exact quote
    · rintro cs rfl rfl
      exact (slash rfl '/' rfl).1 rfl
    · rintro cs rfl rfl
      exact (slash rfl '*' rfl).2 rfl

/-- However a text is cut into segments, the scanner sees the same. -/
theorem label_segmented {segments : List Segment} {cs : List Char} (h : Segmented segments cs) :
    label .code cs = segments.flatMap Segment.labels := by
  induction h with
  | nil => rfl
  | cons first _ ih => rw [label_opens first, ih, List.flatMap_cons]

/-- What a character of a comment leaves. -/
def keepLineEnd (c : Char) : Char :=
  if c = '\n' then '\n' else ' '

/-- What a character leaves when the comments are blanked. -/
def uncommented (m : Mode × Char) : Char :=
  if m.1.isComment then keepLineEnd m.2 else m.2

theorem blankComments_eq (mode : Mode) (cs : List Char) :
    blankComments mode cs = (label mode cs).map uncommented := by
  fun_induction label mode cs <;> simp_all [blankComments, uncommented, Mode.isComment, keepLineEnd]

end ScopedCheck.Lenient
