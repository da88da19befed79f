import Mathlib.Tactic
import ScopedCheck.Text.Utf8

namespace ScopedCheck.Utf8

/-- Whether bytes are those of a text. -/
def IsText (bytes : Bytes) : Prop :=
  ∃ text, bytes = encode text

/-- The byte of a character that carries the six bits of its number above the last `6 * n`. -/
def inner (n v : Nat) : UInt8 :=
  UInt8.ofNat (v / 64 ^ n % 64 + 0x80)

/-- The last `n` bytes of a character with this number. -/
def inners (v : Nat) : Nat → Bytes
  | 0 => []
  | n + 1 => inner n v :: inners v n

theorem length_inners (v n : Nat) : (inners v n).length = n := by
  induction n with
  | zero => rfl
  | succ n ih => rw [inners, List.length_cons, ih]

theorem toNat_inner (n v : Nat) : (inner n v).toNat = v / 64 ^ n % 64 + 0x80 := by
  have small : v / 64 ^ n % 64 < 64 := Nat.mod_lt _ (by decide)
  rw [inner, UInt8.toNat_ofNat']
  omega

theorem inner_range (n v : Nat) : 0x80 ≤ inner n v ∧ inner n v ≤ 0xBF := by
  have small : v / 64 ^ n % 64 < 64 := Nat.mod_lt _ (by decide)
  have number := toNat_inner n v
  simp only [UInt8.le_iff_toNat_le, UInt8.reduceToNat]
  omega

theorem div_pow_succ (n v : Nat) : v / 64 ^ (n + 1) = v / 64 ^ n / 64 := by
  rw [Nat.pow_succ, Nat.div_div_eq_div_mul]

/-- The number that the reader has after one more byte. -/
theorem bits_inner (n v : Nat) :
    v / 64 ^ (n + 1) * 64 + ((inner n v).toNat - 0x80) = v / 64 ^ n := by
  rw [toNat_inner, Nat.add_sub_cancel, div_pow_succ]
  omega

section Owed

variable {low high b : UInt8} {bits : Nat} {bytes : Bytes}

theorem readFrom_last (range : low ≤ b ∧ b ≤ high) :
    readFrom (.owed 0 low high bits) (b :: bytes) =
      some (Char.ofNat (bits * 64 + (b.toNat - 0x80))) :: readFrom .none bytes := by
  rw [readFrom, if_pos range]

theorem readFrom_more {n : Nat} (range : low ≤ b ∧ b ≤ high) :
    readFrom (.owed (n + 1) low high bits) (b :: bytes) =
      readFrom (.owed n 0x80 0xBF (bits * 64 + (b.toNat - 0x80))) bytes := by
  rw [readFrom, if_pos range]

end Owed

/-- The reader takes the rest of a character whose first bits it has seen. -/
theorem readFrom_inners {v n : Nat} {low high : UInt8}
    (range : low ≤ inner n v ∧ inner n v ≤ high) (rest : Bytes) :
    readFrom (.owed n low high (v / 64 ^ (n + 1))) (inners v (n + 1) ++ rest) =
      some (Char.ofNat v) :: readFrom .none rest := by
  induction n generalizing low high with
  | zero =>
    rw [inners, List.cons_append, readFrom_last range, bits_inner]
    simp [inners]
  | succ n ih =>
    rw [inners, List.cons_append, readFrom_more range, bits_inner]
    exact ih (inner_range n v)

/-- Whether a number belongs to a character of so many bytes beside its first two. -/
def Spans (v : Nat) : Nat → Prop
  | 0 => 0x80 ≤ v ∧ v < 0x800
  | 1 => 0x800 ≤ v ∧ v < 0xD800 ∨ 0xDFFF < v ∧ v < 0x10000
  | 2 => 0x10000 ≤ v ∧ v < 0x110000
  | _ => False

/-- What the first byte of a character of so many bytes beside its first two is counted from. -/
def mark : Nat → Nat
  | 0 => 0xC0
  | 1 => 0xE0
  | _ => 0xF0

theorem spans_of_char (c : Char) : c.toNat < 0x80 ∨ ∃ n, Spans c.toNat n := by
  have valid : c.toNat < 0xD800 ∨ 0xDFFF < c.toNat ∧ c.toNat < 0x110000 := c.valid
  by_cases h1 : c.toNat < 0x80
  · exact .inl h1
  by_cases h2 : c.toNat < 0x800
  · exact .inr ⟨0, by simp only [Spans]; omega⟩
  by_cases h3 : c.toNat < 0x10000
  · exact .inr ⟨1, by simp only [Spans]; omega⟩
  · exact .inr ⟨2, by simp only [Spans]; omega⟩

theorem toNat_ofNat {n : Nat} (valid : n.isValidChar) : (Char.ofNat n).toNat = n := by
  rw [Char.ofNat, dif_pos valid]
  rfl

theorem toNat_of_spans {v n : Nat} (spans : Spans v n) : (Char.ofNat v).toNat = v := by
  have valid : v.isValidChar := by
    match n, spans with
    | 0, spans => exact .inl (by simp only [Spans] at spans; omega)
    | 1, spans =>
      simp only [Spans] at spans
      exact spans.imp (fun h => h.2) (fun h => ⟨h.1, by omega⟩)
    | 2, spans => exact .inr (by simp only [Spans] at spans; omega)
  exact toNat_ofNat valid

theorem encode_small {c : Char} (small : c.toNat < 0x80) :
    String.utf8EncodeChar c = [UInt8.ofNat c.toNat] := by
  have number : c.val.toNat = c.toNat := rfl
  have h1 : c.toNat ≤ 0x7F := by omega
  simp [String.utf8EncodeChar, number, h1]

theorem encode_of_spans {c : Char} {n : Nat} (spans : Spans c.toNat n) :
    String.utf8EncodeChar c =
      UInt8.ofNat (c.toNat / 64 ^ (n + 1) + mark n) :: inners c.toNat (n + 1) := by
  have number : c.val.toNat = c.toNat := rfl
  generalize c.toNat = v at spans number
  match n, spans with
  | 0, spans =>
    simp only [Spans] at spans
    have h1 : ¬v ≤ 0x7F := by omega
    have h2 : v ≤ 0x7FF := by omega
    have lead : v / 64 % 32 = v / 64 := by omega
    simp [String.utf8EncodeChar, number, h1, h2, lead, inners, inner, mark]
  | 1, spans =>
    simp only [Spans] at spans
    have h1 : ¬v ≤ 0x7F := by omega
    have h2 : ¬v ≤ 0x7FF := by omega
    have h3 : v ≤ 0xFFFF := by omega
    have lead : v / 4096 % 16 = v / 4096 := by omega
    simp [String.utf8EncodeChar, number, h1, h2, h3, lead, inners, inner, mark]
  | 2, spans =>
    simp only [Spans] at spans
    have h1 : ¬v ≤ 0x7F := by omega
    have h2 : ¬v ≤ 0x7FF := by omega
    have h3 : ¬v ≤ 0xFFFF := by omega
    have lead : v / 262144 % 8 = v / 262144 := by omega
    simp [String.utf8EncodeChar, number, h1, h2, h3, lead, inners, inner, mark]

theorem first_eq (b : UInt8) : first b =
    if b.toNat < 0x80 then (some (some (Char.ofNat b.toNat)), .none)
    else if b.toNat < 0xC2 then (some none, .none)
    else if b.toNat < 0xE0 then (none, .owed 0 0x80 0xBF (b.toNat - 0xC0))
    else if b.toNat = 0xE0 then (none, .owed 1 0xA0 0xBF 0)
    else if b.toNat = 0xED then (none, .owed 1 0x80 0x9F 13)
    else if b.toNat < 0xF0 then (none, .owed 1 0x80 0xBF (b.toNat - 0xE0))
    else if b.toNat = 0xF0 then (none, .owed 2 0x90 0xBF 0)
    else if b.toNat < 0xF4 then (none, .owed 2 0x80 0xBF (b.toNat - 0xF0))
    else if b.toNat = 0xF4 then (none, .owed 2 0x80 0x8F 4)
    else (some none, .none) := by
  simp only [first, UInt8.lt_iff_toNat_lt, ← UInt8.toNat_inj, UInt8.reduceToNat]

/-- What a first byte asks for is met by the numbers of the characters that it begins only. -/
theorem spans_of_first {b low high : UInt8} {n v : Nat}
    (asked : first b = (none, .owed n low high (v / 64 ^ (n + 1))))
    (range : low ≤ inner n v ∧ inner n v ≤ high) :
    Spans v n ∧ b.toNat = v / 64 ^ (n + 1) + mark n := by
  rw [first_eq] at asked
  simp only [UInt8.le_iff_toNat_le, toNat_inner] at range
  split_ifs at asked
  all_goals
    simp only [Prod.mk.injEq, reduceCtorEq, Pending.owed.injEq, true_and, and_false] at asked
  all_goals
    obtain ⟨rfl, rfl, rfl, bits⟩ := asked
    simp only [UInt8.reduceToNat, Spans, mark] at range ⊢
    omega

/-- The first byte of a character asks for the others. -/
theorem first_of_spans {b : UInt8} {n v : Nat} (spans : Spans v n)
    (lead : b.toNat = v / 64 ^ (n + 1) + mark n) :
    ∃ low high, first b = (none, .owed n low high (v / 64 ^ (n + 1))) ∧
      (low ≤ inner n v ∧ inner n v ≤ high) := by
  simp only [first_eq, UInt8.le_iff_toNat_le, toNat_inner]
  match n, spans with
  | 0, spans =>
    simp only [Spans, mark, Nat.reduceAdd, Nat.reducePow] at spans lead ⊢
    refine ⟨0x80, 0xBF, ?_, by simp only [UInt8.reduceToNat]; omega⟩
    rw [if_neg (by omega), if_neg (by omega), if_pos (by omega), lead, Nat.add_sub_cancel]
  | 1, spans =>
    simp only [Spans, mark, Nat.reduceAdd, Nat.reducePow] at spans lead ⊢
    by_cases least : b.toNat = 0xE0
    · refine ⟨0xA0, 0xBF, ?_, by simp only [UInt8.reduceToNat]; omega⟩
      have bits : v / 4096 = 0 := by omega
      simp [least, bits]
    by_cases surrogate : b.toNat = 0xED
    · refine ⟨0x80, 0x9F, ?_, by simp only [UInt8.reduceToNat]; omega⟩
      have bits : v / 4096 = 13 := by omega
      simp [surrogate, bits]
    · refine ⟨0x80, 0xBF, ?_, by simp only [UInt8.reduceToNat]; omega⟩
      rw [if_neg (by omega), if_neg (by omega), if_neg (by omega), if_neg least, if_neg surrogate,
        if_pos (by omega), lead, Nat.add_sub_cancel]
  | 2, spans =>
    simp only [Spans, mark, Nat.reduceAdd, Nat.reducePow] at spans lead ⊢
    by_cases least : b.toNat = 0xF0
    · refine ⟨0x90, 0xBF, ?_, by simp only [UInt8.reduceToNat]; omega⟩
      have bits : v / 262144 = 0 := by omega
      simp [least, bits]
    by_cases greatest : b.toNat = 0xF4
    · refine ⟨0x80, 0x8F, ?_, by simp only [UInt8.reduceToNat]; omega⟩
      have bits : v / 262144 = 4 := by omega
      simp [greatest, bits]
    · refine ⟨0x80, 0xBF, ?_, by simp only [UInt8.reduceToNat]; omega⟩
      rw [if_neg (by omega), if_neg (by omega), if_neg (by omega), if_neg (by omega),
        if_neg (by omega), if_neg (by omega), if_neg least, if_pos (by omega), lead,
        Nat.add_sub_cancel]

/-- A character is one byte, or a first byte and the others that it asks for. -/
theorem encode_cases (c : Char) :
    (∃ b, String.utf8EncodeChar c = [b] ∧ first b = (some (some c), .none)) ∨
    ∃ b n low high, String.utf8EncodeChar c = b :: inners c.toNat (n + 1) ∧
      first b = (none, .owed n low high (c.toNat / 64 ^ (n + 1))) ∧
      (low ≤ inner n c.toNat ∧ inner n c.toNat ≤ high) := by
  obtain small | ⟨n, spans⟩ := spans_of_char c
  · refine .inl ⟨_, encode_small small, ?_⟩
    have number : (UInt8.ofNat c.toNat).toNat = c.toNat := by
      rw [UInt8.toNat_ofNat']
      omega
    rw [first_eq, number, if_pos small, Char.ofNat_toNat]
  · have number : (UInt8.ofNat (c.toNat / 64 ^ (n + 1) + mark n)).toNat =
        c.toNat / 64 ^ (n + 1) + mark n := by
      rw [UInt8.toNat_ofNat']
      match n, spans with
      | 0, spans => simp only [Spans, mark] at spans ⊢; omega
      | 1, spans => simp only [Spans, mark] at spans ⊢; omega
      | 2, spans => simp only [Spans, mark] at spans ⊢; omega
    obtain ⟨low, high, asked, range⟩ := first_of_spans spans number
    exact .inr ⟨_, n, low, high, encode_of_spans spans, asked, range⟩

theorem le_of_mem_inners {b : UInt8} {v n : Nat} (h : b ∈ inners v n) : 0x80 ≤ b := by
  induction n with
  | zero => simp [inners] at h
  | succ n ih =>
    obtain rfl | h := List.mem_cons.1 h
    · exact (inner_range n v).1
    · exact ih h

/-- A character of one byte shares it with no other one. -/
theorem small_not_mem {c d : Char} (small : d.toNat < 0x80) (other : c ≠ d) :
    UInt8.ofNat d.toNat ∉ String.utf8EncodeChar c := by
  intro h
  have number : (UInt8.ofNat d.toNat).toNat = d.toNat := by
    rw [UInt8.toNat_ofNat']
    omega
  have alone : first (UInt8.ofNat d.toNat) = (some (some d), .none) := by
    rw [first_eq, number, if_pos small, Char.ofNat_toNat]
  obtain ⟨b, one, begins⟩ | ⟨b, n, low, high, more, begins, -⟩ := encode_cases c
  · rw [one] at h
    obtain rfl := List.mem_singleton.1 h
    rw [alone] at begins
    apply other
    simpa using (Prod.mk.inj begins).1.symm
  · rw [more] at h
    obtain rfl | inside := List.mem_cons.1 h
    · rw [alone] at begins
      simp at begins
    · have large := UInt8.le_iff_toNat_le.1 (le_of_mem_inners inside)
      rw [number] at large
      exact absurd small (Nat.not_lt.2 large)

/-- The byte of a line end is in no other character. -/
theorem lineEnd_not_mem {c : Char} (other : c ≠ '\n') : 10 ∉ String.utf8EncodeChar c :=
  small_not_mem (by decide) other

theorem read_encode_append (c : Char) (bytes : Bytes) :
    read (String.utf8EncodeChar c ++ bytes) = some c :: read bytes := by
  rw [read, read]
  obtain ⟨b, one, alone⟩ | ⟨b, n, low, high, more, asked, range⟩ := encode_cases c
  · rw [one, List.singleton_append, readFrom, alone]
    rfl
  · rw [more, List.cons_append, readFrom, asked, Option.toList_none, List.nil_append,
      readFrom_inners range, Char.ofNat_toNat]

theorem read_encodeChars (cs : List Char) : read (encodeChars cs) = cs.map some := by
  induction cs with
  | nil => rfl
  | cons c cs ih =>
    have split : encodeChars (c :: cs) = String.utf8EncodeChar c ++ encodeChars cs := rfl
    rw [split, read_encode_append, ih, List.map_cons]

theorem owed_cases {n bits : Nat} {low high : UInt8} {bytes : Bytes}
    (whole : ∀ c ∈ readFrom (.owed n low high bits) bytes, c.isSome) :
    ∃ b rest, bytes = b :: rest ∧ (low ≤ b ∧ b ≤ high) := by
  match bytes with
  | [] => simp [readFrom] at whole
  | b :: rest =>
    by_cases range : low ≤ b ∧ b ≤ high
    · exact ⟨b, rest, rfl, range⟩
    · rw [readFrom, if_neg range] at whole
      simp at whole

theorem eq_inner {n bits v : Nat} {low high b : UInt8} (above : 0x80 ≤ low) (below : high ≤ 0xBF)
    (range : low ≤ b ∧ b ≤ high) (number : v / 64 ^ n = bits * 64 + (b.toNat - 0x80)) :
    v / 64 ^ (n + 1) = bits ∧ inner n v = b := by
  simp only [UInt8.le_iff_toNat_le, UInt8.reduceToNat] at above below range
  refine ⟨by rw [div_pow_succ]; omega, ?_⟩
  have same : v / 64 ^ n % 64 + 0x80 = b.toNat := by omega
  rw [inner, same, UInt8.ofNat_toNat]

/-- The bytes that the reader takes for the rest of a character. -/
theorem exists_of_readFrom_owed {n bits : Nat} {low high : UInt8} {bytes : Bytes}
    (above : 0x80 ≤ low) (below : high ≤ 0xBF)
    (whole : ∀ c ∈ readFrom (.owed n low high bits) bytes, c.isSome) :
    ∃ v rest, v / 64 ^ (n + 1) = bits ∧ (low ≤ inner n v ∧ inner n v ≤ high) ∧
      bytes = inners v (n + 1) ++ rest := by
  obtain ⟨b, after, rfl, range⟩ := owed_cases whole
  induction n generalizing low high bits b after with
  | zero =>
    have number : (bits * 64 + (b.toNat - 0x80)) / 64 ^ 0 = bits * 64 + (b.toNat - 0x80) := by
      rw [Nat.pow_zero, Nat.div_one]
    obtain ⟨shifted, isInner⟩ := eq_inner above below range number
    refine ⟨_, after, shifted, by rwa [isInner], ?_⟩
    rw [inners, isInner]
    rfl
  | succ n ih =>
    rw [readFrom_more range] at whole
    obtain ⟨b', after', rfl, range'⟩ := owed_cases whole
    obtain ⟨v, rest, number, -, split⟩ :=
      ih (UInt8.le_refl _) (UInt8.le_refl _) b' after' range' whole
    obtain ⟨shifted, isInner⟩ := eq_inner above below range number
    refine ⟨v, rest, shifted, by rwa [isInner], ?_⟩
    rw [inners, isInner, split]
    rfl

/-- A first byte that is not damaged is a character or asks for other bytes. -/
theorem first_cases (b : UInt8) :
    (∃ c : Char, c.toNat < 0x80 ∧ b = UInt8.ofNat c.toNat ∧ first b = (some (some c), .none)) ∨
    first b = (some none, .none) ∨
    ∃ n low high bits, first b = (none, .owed n low high bits) ∧ 0x80 ≤ low ∧ high ≤ 0xBF := by
  rw [first_eq]
  by_cases small : b.toNat < 0x80
  · left
    have number : (Char.ofNat b.toNat).toNat = b.toNat := toNat_ofNat (.inl (by omega))
    exact ⟨Char.ofNat b.toNat, by omega, by rw [number, UInt8.ofNat_toNat], if_pos small⟩
  · right
    rw [if_neg small]
    split_ifs
    all_goals simp

theorem exists_of_read {bytes : Bytes} (whole : ∀ c ∈ read bytes, c.isSome) :
    ∃ cs, bytes = encodeChars cs := by
  induction h : bytes.length using Nat.strong_induction_on generalizing bytes with
  | h length ih =>
    match bytes with
    | [] => exact ⟨[], rfl⟩
    | b :: bytes =>
      subst h
      rw [read, readFrom] at whole
      obtain ⟨c, small, rfl, alone⟩ | damaged | ⟨n, low, high, bits, asked, above, below⟩ :=
        first_cases b
      · simp only [alone, Option.toList_some, List.singleton_append, List.mem_cons] at whole
        obtain ⟨cs, rfl⟩ := ih _ (by simp) (fun c mem => whole c (.inr mem)) rfl
        refine ⟨c :: cs, ?_⟩
        rw [← List.singleton_append, ← encode_small small]
        rfl
      · simp [damaged] at whole
      · simp only [asked, Option.toList_none, List.nil_append] at whole
        obtain ⟨v, rest, rfl, range, rfl⟩ := exists_of_readFrom_owed above below whole
        obtain ⟨spans, lead⟩ := spans_of_first asked range
        rw [readFrom_inners range] at whole
        obtain ⟨cs, rfl⟩ := ih rest.length (by simp)
          (fun c mem => whole c (List.mem_cons_of_mem _ mem)) rfl
        refine ⟨Char.ofNat v :: cs, ?_⟩
        have number := toNat_of_spans spans
        have bytes := encode_of_spans (c := Char.ofNat v) (by rwa [number])
        rw [number, ← lead, UInt8.ofNat_toNat] at bytes
        rw [← List.cons_append, ← bytes]
        rfl

theorem decode?_encode (text : String) : decode? (encode text) = some text := by
  have seen : read (encode text) = text.toList.map some := read_encodeChars text.toList
  have whole : (text.toList.map some).all Option.isSome := by simp
  rw [decode?, seen, if_pos whole]
  simp

theorem decode?_encodeChars (cs : List Char) : decode? (encodeChars cs) = some (String.ofList cs) := by
  have same : encodeChars cs = encode (String.ofList cs) := by rw [encode, String.toList_ofList]
  rw [same, decode?_encode]

theorem encode_injective : Function.Injective encode := by
  intro a b same
  have decoded : some a = some b := by
    rw [← decode?_encode a, same, decode?_encode]
  exact Option.some.inj decoded

/-- Bytes are read as a text if and only if they are the bytes of that text. -/
theorem decode?_eq_some_iff {bytes : Bytes} {text : String} :
    decode? bytes = some text ↔ bytes = encode text := by
  constructor
  · intro h
    have whole : ∀ c ∈ read bytes, c.isSome := by
      unfold decode? at h
      split_ifs at h with all
      exact List.all_eq_true.1 all
    obtain ⟨cs, rfl⟩ := exists_of_read whole
    have same := decode?_encode (String.ofList cs)
    rw [encode, String.toList_ofList, h] at same
    rw [Option.some.inj same, encode, String.toList_ofList]
  · rintro rfl
    exact decode?_encode text

theorem decode?_eq_none_iff {bytes : Bytes} : decode? bytes = none ↔ ¬IsText bytes := by
  rw [Option.eq_none_iff_forall_ne_some, IsText, not_exists]
  exact forall_congr' fun text => not_congr decode?_eq_some_iff

end ScopedCheck.Utf8
