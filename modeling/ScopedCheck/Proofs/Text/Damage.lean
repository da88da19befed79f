import ScopedCheck.Proofs.Text.Utf8

namespace ScopedCheck.Utf8

/-- Whether a byte can stand behind the first one of a character. -/
def IsTrail (b : UInt8) : Prop :=
  0x80 ≤ b ∧ b ≤ 0xBF

/-- The number that bytes stand for if the first one is counted from a mark. -/
def number (mark : Nat) (lead : UInt8) (trail : Bytes) : Nat :=
  trail.foldl (fun bits b => bits * 64 + (b.toNat - 0x80)) (lead.toNat - mark)

/-- Whether bytes are those of one character: no byte is missing, there is no shorter form for the
number, which is that of no surrogate, and it is not above U+10FFFF. -/
inductive IsSequence : Bytes → Prop where
  | one {a : UInt8} (lead : a < 0x80) : IsSequence [a]
  | two {a b : UInt8} (lead : 0xC0 ≤ a ∧ a < 0xE0) (trail : IsTrail b)
      (shortest : 0x80 ≤ number 0xC0 a [b]) : IsSequence [a, b]
  | three {a b c : UInt8} (lead : 0xE0 ≤ a ∧ a < 0xF0) (trail : IsTrail b ∧ IsTrail c)
      (shortest : 0x800 ≤ number 0xE0 a [b, c])
      (scalar : number 0xE0 a [b, c] < 0xD800 ∨ 0xDFFF < number 0xE0 a [b, c]) : IsSequence [a, b, c]
  | four {a b c d : UInt8} (lead : 0xF0 ≤ a ∧ a < 0xF8) (trail : IsTrail b ∧ IsTrail c ∧ IsTrail d)
      (shortest : 0x10000 ≤ number 0xF0 a [b, c, d])
      (within : number 0xF0 a [b, c, d] ≤ 0x10FFFF) : IsSequence [a, b, c, d]

/-- Whether bytes are those of one character after another. -/
inductive WellFormed : Bytes → Prop where
  | nil : WellFormed []
  | append {sequence rest : Bytes} (first : IsSequence sequence) (others : WellFormed rest) :
      WellFormed (sequence ++ rest)

theorem inner_eq {n v : Nat} {b : UInt8} (number : v / 64 ^ n % 64 + 0x80 = b.toNat) :
    inner n v = b := by
  rw [inner, number, UInt8.ofNat_toNat]

theorem encode_of_lead {a : UInt8} {n v : Nat} (spans : Spans v n)
    (lead : v / 64 ^ (n + 1) + mark n = a.toNat) :
    String.utf8EncodeChar (Char.ofNat v) = a :: inners v (n + 1) := by
  have number := toNat_of_spans spans
  rw [encode_of_spans (by rwa [number]), number, lead, UInt8.ofNat_toNat]

theorem exists_of_isSequence {bytes : Bytes} (h : IsSequence bytes) :
    ∃ c, bytes = String.utf8EncodeChar c := by
  cases h with
  | @one a lead =>
    simp only [UInt8.lt_iff_toNat_lt, UInt8.reduceToNat] at lead
    have number : (Char.ofNat a.toNat).toNat = a.toNat := toNat_ofNat (.inl (by omega))
    exact ⟨Char.ofNat a.toNat, by rw [encode_small (by omega), number, UInt8.ofNat_toNat]⟩
  | @two a b lead trail shortest =>
    simp only [IsTrail, number, List.foldl_cons, List.foldl_nil, UInt8.le_iff_toNat_le,
      UInt8.lt_iff_toNat_lt, UInt8.reduceToNat] at lead trail shortest
    refine ⟨Char.ofNat ((a.toNat - 0xC0) * 64 + (b.toNat - 0x80)), ?_⟩
    rw [encode_of_lead (a := a) (n := 0) (by simp only [Spans]; omega) (by simp only [mark]; omega)]
    simp only [inners]
    rw [inner_eq (b := b) (by omega)]
  | @three a b c lead trail shortest scalar =>
    simp only [IsTrail, number, List.foldl_cons, List.foldl_nil, UInt8.le_iff_toNat_le,
      UInt8.lt_iff_toNat_lt, UInt8.reduceToNat] at lead trail shortest scalar
    refine ⟨Char.ofNat (((a.toNat - 0xE0) * 64 + (b.toNat - 0x80)) * 64 + (c.toNat - 0x80)), ?_⟩
    rw [encode_of_lead (a := a) (n := 1) (by simp only [Spans]; omega) (by simp only [mark]; omega)]
    simp only [inners]
    rw [inner_eq (b := b) (by omega), inner_eq (b := c) (by omega)]
  | @four a b c d lead trail shortest within =>
    simp only [IsTrail, number, List.foldl_cons, List.foldl_nil, UInt8.le_iff_toNat_le,
      UInt8.lt_iff_toNat_lt, UInt8.reduceToNat] at lead trail shortest within
    refine ⟨Char.ofNat ((((a.toNat - 0xF0) * 64 + (b.toNat - 0x80)) * 64 + (c.toNat - 0x80)) * 64 +
      (d.toNat - 0x80)), ?_⟩
    rw [encode_of_lead (a := a) (n := 2) (by simp only [Spans]; omega) (by simp only [mark]; omega)]
    simp only [inners]
    rw [inner_eq (b := b) (by omega), inner_eq (b := c) (by omega), inner_eq (b := d) (by omega)]

theorem isSequence_encode (c : Char) : IsSequence (String.utf8EncodeChar c) := by
  obtain small | ⟨n, spans⟩ := spans_of_char c
  · rw [encode_small small]
    refine .one ?_
    rw [UInt8.lt_iff_toNat_lt, UInt8.toNat_ofNat']
    simp only [UInt8.reduceToNat]
    omega
  · rw [encode_of_spans spans]
    generalize c.toNat = v at spans
    match n, spans with
    | 0, spans =>
      simp only [Spans] at spans
      refine .two ?_ (inner_range 0 v) ?_
      all_goals
        simp only [number, List.foldl_cons, List.foldl_nil, mark, toNat_inner, UInt8.le_iff_toNat_le,
          UInt8.lt_iff_toNat_lt, UInt8.toNat_ofNat', UInt8.reduceToNat]
        omega
    | 1, spans =>
      simp only [Spans] at spans
      refine .three ?_ ⟨inner_range 1 v, inner_range 0 v⟩ ?_ ?_
      all_goals
        simp only [number, List.foldl_cons, List.foldl_nil, mark, toNat_inner, UInt8.le_iff_toNat_le,
          UInt8.lt_iff_toNat_lt, UInt8.toNat_ofNat', UInt8.reduceToNat]
        omega
    | 2, spans =>
      simp only [Spans] at spans
      refine .four ?_ ⟨inner_range 2 v, inner_range 1 v, inner_range 0 v⟩ ?_ ?_
      all_goals
        simp only [number, List.foldl_cons, List.foldl_nil, mark, toNat_inner, UInt8.le_iff_toNat_le,
          UInt8.lt_iff_toNat_lt, UInt8.toNat_ofNat', UInt8.reduceToNat]
        omega

theorem isSequence_iff {bytes : Bytes} :
    IsSequence bytes ↔ ∃ c, bytes = String.utf8EncodeChar c := by
  constructor
  · exact exists_of_isSequence
  · rintro ⟨c, rfl⟩
    exact isSequence_encode c

/-- The well-formed bytes are those of the texts. -/
theorem wellFormed_iff_isText {bytes : Bytes} : WellFormed bytes ↔ IsText bytes := by
  constructor
  · intro h
    induction h with
    | nil => exact ⟨"", rfl⟩
    | append first others ih =>
      obtain ⟨c, rfl⟩ := isSequence_iff.1 first
      obtain ⟨text, rfl⟩ := ih
      refine ⟨String.ofList (c :: text.toList), ?_⟩
      have split : encodeChars (c :: text.toList) = String.utf8EncodeChar c ++ encodeChars text.toList :=
        rfl
      rw [encode, encode, String.toList_ofList, split]
  · rintro ⟨text, rfl⟩
    rw [encode]
    induction text.toList with
    | nil => exact .nil
    | cons c cs ih =>
      rw [encodeChars, List.flatMap_cons]
      exact .append (isSequence_encode c) ih

/-- Whether bytes may come next in a character of which so many bytes are owed beside the next one,
which lies in a range. -/
def Continues : (more : Nat) → (low high : UInt8) → Bytes → Prop
  | _, _, _, [] => True
  | 0, low, high, b :: bytes => (low ≤ b ∧ b ≤ high) ∧ bytes = []
  | more + 1, low, high, b :: bytes => (low ≤ b ∧ b ≤ high) ∧ Continues more 0x80 0xBF bytes

section Continues

variable {more bits : Nat} {low high : UInt8} {bytes : Bytes}

theorem Continues.of_append {after : Bytes} (h : Continues more low high (bytes ++ after)) :
    Continues more low high bytes := by
  induction bytes generalizing more low high with
  | nil => simp [Continues]
  | cons b bytes ih =>
    cases more with
    | zero =>
      obtain ⟨range, last⟩ := h
      exact ⟨range, (List.append_eq_nil_iff.1 last).1⟩
    | succ more => exact ⟨h.1, ih h.2⟩

theorem Continues.length_le (h : Continues more low high bytes) : bytes.length ≤ more + 1 := by
  induction bytes generalizing more low high with
  | nil => simp
  | cons b bytes ih =>
    cases more with
    | zero =>
      obtain ⟨-, rfl⟩ := h
      simp
    | succ more =>
      have shorter := ih h.2
      rw [List.length_cons]
      omega

theorem continues_inners {v : Nat} (range : low ≤ inner more v ∧ inner more v ≤ high) :
    Continues more low high (inners v (more + 1)) := by
  induction more generalizing low high with
  | zero => exact ⟨range, rfl⟩
  | succ more ih => exact ⟨range, ih (inner_range more v)⟩

/-- The bytes that are owed give a number with the bits seen before. -/
theorem Continues.exists_inners (h : Continues more low high bytes) (size : bytes.length = more + 1)
    (above : 0x80 ≤ low) (below : high ≤ 0xBF) (bits : Nat) :
    ∃ v, v / 64 ^ (more + 1) = bits ∧ (low ≤ inner more v ∧ inner more v ≤ high) ∧
      bytes = inners v (more + 1) := by
  induction more generalizing low high bits bytes with
  | zero =>
    obtain ⟨b, rfl⟩ := List.length_eq_one_iff.1 size
    have number : (bits * 64 + (b.toNat - 0x80)) / 64 ^ 0 = bits * 64 + (b.toNat - 0x80) := by
      rw [Nat.pow_zero, Nat.div_one]
    obtain ⟨shifted, isInner⟩ := eq_inner above below h.1 number
    exact ⟨_, shifted, by rw [isInner]; exact h.1, by rw [inners, isInner]; rfl⟩
  | succ more ih =>
    obtain ⟨b, rest, rfl⟩ := List.exists_cons_of_length_eq_add_one size
    obtain ⟨v, number, -, rfl⟩ := ih h.2 (by simpa using size) (UInt8.le_refl _) (UInt8.le_refl _)
      (bits * 64 + (b.toNat - 0x80))
    obtain ⟨shifted, isInner⟩ := eq_inner above below h.1 number
    refine ⟨v, shifted, by rw [isInner]; exact h.1, ?_⟩
    rw [← isInner]
    rfl

/-- What has begun can be completed. -/
theorem Continues.exists_append (h : Continues more low high bytes) (some : low ≤ high) :
    ∃ after, (bytes ++ after).length = more + 1 ∧ Continues more low high (bytes ++ after) := by
  induction more generalizing low high bytes with
  | zero =>
    match bytes, h with
    | [], _ => exact ⟨[low], rfl, ⟨UInt8.le_refl low, some⟩, rfl⟩
    | [b], h => exact ⟨[], rfl, h⟩
  | succ more ih =>
    match bytes, h with
    | [], _ =>
      have nothing : Continues more 0x80 0xBF [] := by simp [Continues]
      obtain ⟨after, size, continues⟩ := ih nothing (by decide)
      exact ⟨low :: after, by simpa using size, ⟨UInt8.le_refl low, some⟩, continues⟩
    | b :: bytes, h =>
      obtain ⟨after, size, continues⟩ := ih h.2 (by decide)
      exact ⟨after, by simpa using size, h.1, continues⟩

/-- The reader takes the bytes that are owed, or as many of them as there are and then the damage. -/
theorem readFrom_owed_cases (more bits : Nat) (low high : UInt8) (bytes : Bytes) :
    ∃ taken rest, bytes = taken ++ rest ∧ Continues more low high taken ∧
      (taken.length = more + 1 ∨
        taken.length ≤ more ∧ (∀ b ∈ rest.head?, ¬Continues more low high (taken ++ [b])) ∧
          readFrom (.owed more low high bits) bytes = none :: read rest) := by
  induction bytes generalizing more low high bits with
  | nil => exact ⟨[], [], rfl, by simp [Continues], .inr ⟨by simp, by simp, rfl⟩⟩
  | cons b bytes ih =>
    by_cases range : low ≤ b ∧ b ≤ high
    · cases more with
      | zero => exact ⟨[b], bytes, rfl, ⟨range, rfl⟩, .inl rfl⟩
      | succ more =>
        obtain ⟨taken, rest, rfl, continues, full | ⟨short, stuck, reading⟩⟩ :=
          ih more (bits * 64 + (b.toNat - 0x80)) 0x80 0xBF
        · exact ⟨b :: taken, rest, rfl, ⟨range, continues⟩, .inl (by simp [full])⟩
        · refine ⟨b :: taken, rest, rfl, ⟨range, continues⟩, .inr ⟨by simpa using short, ?_, ?_⟩⟩
          · intro next first continues'
            exact stuck next first continues'.2
          · rw [readFrom_more range, reading]
    · refine ⟨[], b :: bytes, rfl, by simp [Continues], .inr ⟨by simp, ?_, ?_⟩⟩
      · intro next first continues
        obtain rfl : b = next := by simpa using first
        cases more with
        | zero => exact range continues.1
        | succ more => exact range continues.1
      · rw [readFrom, if_neg range]
        rfl

/-- Nothing longer than what the reader has taken continues the character. -/
theorem length_le_of_stuck {taken rest : Bytes}
    (stuck : ∀ b ∈ rest.head?, ¬Continues more low high (taken ++ [b]))
    (h : Continues more low high bytes) (first : bytes <+: taken ++ rest) :
    bytes.length ≤ taken.length := by
  by_contra longer
  obtain ⟨after, rfl⟩ : taken <+: bytes :=
    List.prefix_of_prefix_length_le (List.prefix_append taken rest) first (by omega)
  have some : after ≠ [] := by
    rintro rfl
    simp at longer
  obtain ⟨b, after, rfl⟩ := List.exists_cons_of_ne_nil some
  obtain ⟨others, rfl⟩ := (List.prefix_append_right_inj taken).1 first
  rw [List.append_cons] at h
  exact stuck b rfl h.of_append

end Continues

/-- Whether bytes are the first ones of a character, or all of them. -/
def Begins (bytes : Bytes) : Prop :=
  ∃ after, IsSequence (bytes ++ after)

/-- Whether a stretch is a damaged place where these bytes follow: no character is there, and it is the
longest stretch that begins one, or a single byte that begins none. -/
structure IsDamaged (place rest : Bytes) : Prop where
  unreadable : ∀ sequence, IsSequence sequence → ¬sequence <+: place ++ rest
  some : place ≠ []
  begins : Begins place ∨ place.length = 1
  longest : ∀ longer, longer <+: place ++ rest → Begins longer → longer.length ≤ place.length

/-- The mark of a damaged place. -/
def damageMark : Char := '\uFFFD'

/-- Whether a text is what bytes are after repair: its characters are those of the bytes, and marks
stand for the damaged places. -/
inductive Repairs : Bytes → List Char → Prop where
  | nil : Repairs [] []
  | character {c : Char} {rest : Bytes} {cs : List Char} (others : Repairs rest cs) :
      Repairs (String.utf8EncodeChar c ++ rest) (c :: cs)
  | damage {place rest : Bytes} {cs : List Char} (damaged : IsDamaged place rest)
      (others : Repairs rest cs) : Repairs (place ++ rest) (damageMark :: cs)

theorem isSequence_ne_nil {sequence : Bytes} (h : IsSequence sequence) : sequence ≠ [] := by
  cases h <;> simp

section First

variable {b low high : UInt8} {n bits : Nat} {bytes : Bytes}

/-- The range of the second byte is never empty. -/
theorem range_of_first (asked : first b = (none, .owed n low high bits)) :
    0x80 ≤ low ∧ low ≤ high ∧ high ≤ 0xBF := by
  rw [first_eq] at asked
  split_ifs at asked
  all_goals
    simp only [Prod.mk.injEq, reduceCtorEq, Pending.owed.injEq, true_and, and_false] at asked
  all_goals
    obtain ⟨rfl, rfl, rfl, -⟩ := asked
    decide

theorem continues_of_isSequence (asked : first b = (none, .owed n low high bits))
    (h : IsSequence (b :: bytes)) : Continues n low high bytes ∧ n < bytes.length := by
  obtain ⟨c, same⟩ := exists_of_isSequence h
  obtain ⟨b', one, alone⟩ | ⟨b', n', low', high', more, asked', range⟩ := encode_cases c
  · obtain ⟨rfl, -⟩ := List.cons.inj (same.trans one)
    simp [asked] at alone
  · obtain ⟨rfl, rfl⟩ := List.cons.inj (same.trans more)
    rw [asked] at asked'
    simp only [Prod.mk.injEq, Pending.owed.injEq, true_and] at asked'
    obtain ⟨rfl, rfl, rfl, -⟩ := asked'
    exact ⟨continues_inners range, by rw [length_inners]; omega⟩

theorem begins_iff (asked : first b = (none, .owed n low high bits)) :
    Begins (b :: bytes) ↔ Continues n low high bytes := by
  obtain ⟨above, some, below⟩ := range_of_first asked
  constructor
  · rintro ⟨after, h⟩
    exact (continues_of_isSequence asked h).1.of_append
  · intro continues
    obtain ⟨after, size, whole⟩ := continues.exists_append some
    obtain ⟨v, number, range, inners⟩ := whole.exists_inners size above below bits
    subst number
    obtain ⟨spans, lead⟩ := spans_of_first asked range
    refine ⟨after, ?_⟩
    rw [List.cons_append, inners, ← encode_of_lead spans lead.symm]
    exact isSequence_encode _

theorem not_begins (damaged : first b = (some none, .none)) : ¬Begins (b :: bytes) := by
  rintro ⟨after, h⟩
  obtain ⟨c, same⟩ := exists_of_isSequence h
  obtain ⟨b', one, alone⟩ | ⟨b', n', low', high', more, asked, -⟩ := encode_cases c
  · obtain ⟨rfl, -⟩ := List.cons.inj (same.trans one)
    simp [damaged] at alone
  · obtain ⟨rfl, -⟩ := List.cons.inj (same.trans more)
    simp [damaged] at asked

theorem isDamaged_byte (damaged : first b = (some none, .none)) (rest : Bytes) :
    IsDamaged [b] rest := by
  refine ⟨?_, by simp, .inr rfl, ?_⟩
  · intro sequence h inFront
    obtain ⟨b', tail, rfl⟩ := List.exists_cons_of_ne_nil (isSequence_ne_nil h)
    obtain ⟨rfl, -⟩ := List.cons_prefix_cons.1 inFront
    exact not_begins damaged ⟨[], by rwa [List.append_nil]⟩
  · intro longer inFront begins
    cases longer with
    | nil => simp
    | cons b' tail =>
      obtain ⟨rfl, -⟩ := List.cons_prefix_cons.1 inFront
      exact absurd begins (not_begins damaged)

theorem isDamaged_stuck (asked : first b = (none, .owed n low high bits)) {taken rest : Bytes}
    (continues : Continues n low high taken) (short : taken.length ≤ n)
    (stuck : ∀ next ∈ rest.head?, ¬Continues n low high (taken ++ [next])) :
    IsDamaged (b :: taken) rest := by
  refine ⟨?_, by simp, .inl ((begins_iff asked).2 continues), ?_⟩
  · intro sequence h inFront
    obtain ⟨b', tail, rfl⟩ := List.exists_cons_of_ne_nil (isSequence_ne_nil h)
    obtain ⟨rfl, inFront'⟩ := List.cons_prefix_cons.1 inFront
    obtain ⟨continues', full⟩ := continues_of_isSequence asked h
    have shorter := length_le_of_stuck stuck continues' inFront'
    omega
  · intro longer inFront begins
    cases longer with
    | nil => simp
    | cons b' tail =>
      obtain ⟨rfl, inFront'⟩ := List.cons_prefix_cons.1 inFront
      have shorter := length_le_of_stuck stuck ((begins_iff asked).1 begins) inFront'
      simpa using shorter

end First

/-- The reader takes a character or a damaged place. -/
theorem read_cases (b : UInt8) (bytes : Bytes) :
    (∃ c rest, b :: bytes = String.utf8EncodeChar c ++ rest ∧
      read (b :: bytes) = some c :: read rest) ∨
    ∃ place rest, b :: bytes = place ++ rest ∧ IsDamaged place rest ∧
      read (b :: bytes) = none :: read rest := by
  obtain ⟨c, small, rfl, alone⟩ | damaged | ⟨n, low, high, bits, asked, above, below⟩ := first_cases b
  · refine .inl ⟨c, bytes, by rw [encode_small small]; rfl, ?_⟩
    rw [read, readFrom, alone]
    rfl
  · refine .inr ⟨[b], bytes, rfl, isDamaged_byte damaged bytes, ?_⟩
    rw [read, readFrom, damaged]
    rfl
  · have onward : read (b :: bytes) = readFrom (.owed n low high bits) bytes := by
      rw [read, readFrom, asked]
      rfl
    obtain ⟨taken, rest, rfl, continues, full | ⟨short, stuck, reading⟩⟩ :=
      readFrom_owed_cases n bits low high bytes
    · obtain ⟨v, rfl, range, rfl⟩ := continues.exists_inners full above below bits
      obtain ⟨spans, lead⟩ := spans_of_first asked range
      refine .inl ⟨Char.ofNat v, rest, ?_, ?_⟩
      · rw [encode_of_lead spans lead.symm, List.cons_append]
      · rw [onward, readFrom_inners range]
        rfl
    · exact .inr ⟨b :: taken, rest, rfl, isDamaged_stuck asked continues short stuck,
        by rw [onward, reading]⟩

theorem encode_ne_nil (c : Char) : String.utf8EncodeChar c ≠ [] :=
  isSequence_ne_nil (isSequence_encode c)

theorem repairs_read (bytes : Bytes) : Repairs bytes ((read bytes).map (·.getD damageMark)) := by
  induction h : bytes.length using Nat.strong_induction_on generalizing bytes with
  | h length ih =>
    subst h
    cases bytes with
    | nil => exact .nil
    | cons b bytes =>
      obtain ⟨c, rest, split, reading⟩ | ⟨place, rest, split, damaged, reading⟩ := read_cases b bytes
      · have shorter : rest.length < (b :: bytes).length := by
          have := List.length_pos_iff.2 (encode_ne_nil c)
          rw [split, List.length_append]
          omega
        rw [reading, split]
        exact .character (ih _ shorter rest rfl)
      · have shorter : rest.length < (b :: bytes).length := by
          have := List.length_pos_iff.2 damaged.some
          rw [split, List.length_append]
          omega
        rw [reading, split]
        exact .damage damaged (ih _ shorter rest rfl)

theorem eq_of_encode_append {c c' : Char} {rest rest' : Bytes}
    (same : String.utf8EncodeChar c ++ rest = String.utf8EncodeChar c' ++ rest') :
    c = c' ∧ rest = rest' := by
  have reading := congrArg read same
  rw [read_encode_append, read_encode_append] at reading
  obtain rfl : c = c' := by simpa using (List.cons.inj reading).1
  exact ⟨rfl, List.append_cancel_left same⟩

namespace IsDamaged

variable {place rest place' rest' : Bytes}

theorem length_le (h : IsDamaged place rest) (h' : IsDamaged place' rest')
    (same : place ++ rest = place' ++ rest') : place'.length ≤ place.length := by
  obtain begins | single := h'.begins
  · exact h.longest place' (same ▸ List.prefix_append place' rest') begins
  · have := List.length_pos_iff.2 h.some
    omega

/-- A damaged place ends where it must. -/
theorem unique (h : IsDamaged place rest) (h' : IsDamaged place' rest')
    (same : place ++ rest = place' ++ rest') : place = place' ∧ rest = rest' :=
  List.append_inj same (Nat.le_antisymm (h'.length_le h same.symm) (h.length_le h' same))

theorem apart {c : Char} {others : Bytes} (h : IsDamaged place rest) :
    String.utf8EncodeChar c ++ others ≠ place ++ rest :=
  fun same => h.unreadable _ (isSequence_encode c) (same ▸ List.prefix_append _ others)

end IsDamaged

/-- Bytes have one repair. -/
theorem Repairs.unique {bytes : Bytes} {cs cs' : List Char} (h : Repairs bytes cs)
    (h' : Repairs bytes cs') : cs = cs' := by
  induction h generalizing cs' with
  | nil =>
    generalize same : ([] : Bytes) = bytes' at h'
    cases h' with
    | nil => rfl
    | character => exact absurd (List.append_eq_nil_iff.1 same.symm).1 (encode_ne_nil _)
    | damage damaged => exact absurd (List.append_eq_nil_iff.1 same.symm).1 damaged.some
  | @character c rest cs others ih =>
    generalize same : String.utf8EncodeChar c ++ rest = bytes' at h'
    cases h' with
    | nil => exact absurd (List.append_eq_nil_iff.1 same).1 (encode_ne_nil c)
    | character others' =>
      obtain ⟨rfl, rfl⟩ := eq_of_encode_append same
      rw [ih others']
    | damage damaged => exact absurd same damaged.apart
  | @damage place rest cs damaged others ih =>
    generalize same : place ++ rest = bytes' at h'
    cases h' with
    | nil => exact absurd (List.append_eq_nil_iff.1 same).1 damaged.some
    | character others' => exact absurd same.symm damaged.apart
    | damage damaged' others' =>
      obtain ⟨rfl, rfl⟩ := damaged.unique damaged' same
      rw [ih others']

/-- The lossy reading is the repair of the bytes. -/
theorem repairs_iff {bytes : Bytes} {text : String} :
    Repairs bytes text.toList ↔ text = decodeLossy bytes := by
  have repairs : Repairs bytes (decodeLossy bytes).toList := by
    rw [decodeLossy, String.toList_ofList]
    exact repairs_read bytes
  constructor
  · exact fun h => String.toList_inj.1 (h.unique repairs)
  · rintro rfl
    exact repairs

end ScopedCheck.Utf8
