import Mathlib.Tactic
import ScopedCheck.Proofs.Json.Form

namespace ScopedCheck.Json

namespace Members

@[simp] theorem keys_nil : keys [] = [] :=
  rfl

@[simp] theorem keys_cons (m : String × Value) (members : Members) :
    keys (m :: members) = m.1 :: keys members :=
  rfl

theorem insert_of_not_mem {key : String} {members : Members} (h : key ∉ keys members) (v : Value) :
    insert key v members = members ++ [(key, v)] := by
  induction members with
  | nil => rfl
  | cons m members ih =>
    simp only [keys_cons, List.mem_cons, not_or] at h
    simp [insert, Ne.symm h.1, ih h.2]

theorem mem_keys_insert {key k : String} {v : Value} {members : Members} :
    k ∈ keys (insert key v members) ↔ k = key ∨ k ∈ keys members := by
  induction members with
  | nil => simp [insert]
  | cons m members ih =>
    by_cases hm : m.1 = key
    · simp [insert, hm]
    · simp [insert, hm, ih, or_left_comm]

theorem nodup_keys_insert {members : Members} (h : (keys members).Nodup) (key : String) (v : Value) :
    (keys (insert key v members)).Nodup := by
  induction members with
  | nil => simp [insert]
  | cons m members ih =>
    simp only [keys_cons, List.nodup_cons] at h
    by_cases hm : m.1 = key
    · simpa [insert, hm] using ⟨hm ▸ h.1, h.2⟩
    · simp [insert, hm, mem_keys_insert, h.1, ih h.2]

theorem mem_insert {key : String} {v : Value} {m : String × Value} {members : Members}
    (h : m ∈ insert key v members) : m = (key, v) ∨ m ∈ members := by
  induction members with
  | nil => simpa [insert] using h
  | cons m' members ih =>
    by_cases hm : m'.1 = key
    · simp only [insert, hm, if_true, List.mem_cons] at h ⊢
      tauto
    · simp only [insert, hm, if_false, List.mem_cons] at h ⊢
      obtain h | h := h
      · exact .inr (.inl h)
      · exact (ih h).imp_right .inr

theorem mem_of_get? {key : String} {v : Value} {members : Members} (h : get? key members = some v) :
    (key, v) ∈ members := by
  obtain ⟨before, after, rfl, -⟩ := List.lookup_eq_some_iff.1 h
  simp

/-- A new pair goes to the end. -/
theorem foldl_insert {pairs members : Members} (h : (keys (members ++ pairs)).Nodup) :
    pairs.foldl (fun members pair => insert pair.1 pair.2 members) members = members ++ pairs := by
  induction pairs generalizing members with
  | nil => simp
  | cons pair pairs ih =>
    have fresh : pair.1 ∉ keys members := by
      intro hm
      rw [keys, List.map_append, List.nodup_append] at h
      exact h.2.2 _ hm _ (by simp) rfl
    rw [List.foldl_cons, insert_of_not_mem fresh, ih (by simpa using h)]
    simp

theorem ofPairs_of_nodup {pairs : Members} (h : (keys pairs).Nodup) : ofPairs pairs = pairs :=
  foldl_insert h

theorem nodup_keys_ofPairs (pairs : List (String × Value)) : (keys (ofPairs pairs)).Nodup := by
  unfold ofPairs
  induction pairs using List.reverseRecOn with
  | nil => simp
  | append_singleton pairs pair ih =>
    rw [List.foldl_append]
    exact nodup_keys_insert ih _ _

theorem mem_ofPairs {pairs : List (String × Value)} {m : String × Value} (h : m ∈ ofPairs pairs) :
    m ∈ pairs := by
  unfold ofPairs at h
  induction pairs using List.reverseRecOn with
  | nil => simp at h
  | append_singleton pairs pair ih =>
    rw [List.foldl_append] at h
    obtain rfl | h := mem_insert h
    · simp
    · simp [ih h]

end Members

namespace Value

@[elab_as_elim]
theorem induction {motive : Value → Prop} (null : motive .null) (bool : ∀ b, motive (.bool b))
    (number : ∀ n, motive (.number n)) (string : ∀ s, motive (.string s))
    (array : ∀ items, (∀ v ∈ items, motive v) → motive (.array items))
    (object : ∀ members, (∀ m ∈ members, motive m.2) → motive (.object members))
    (v : Value) : motive v :=
  @Value.rec motive (fun items => ∀ v ∈ items, motive v)
    (fun members => ∀ m ∈ members, motive m.2) (fun m => motive m.2)
    null bool number string (fun items ih => array items ih)
    (fun members ih => object members ih)
    (by simp) (fun v vs h hs => by simpa using ⟨h, hs⟩)
    (by simp) (fun m ms h hs => by simpa using ⟨h, fun a b => hs (a, b)⟩)
    (fun _ _ h => h) v

/-- Whether the first value is the second one, or stands somewhere inside it. -/
inductive IsPart (v : Value) : Value → Prop where
  | self : IsPart v v
  | item {items : List Value} {i : Value} (hi : i ∈ items) (h : IsPart v i) : IsPart v (.array items)
  | member {members : Members} {m : String × Value} (hm : m ∈ members) (h : IsPart v m.2) :
      IsPart v (.object members)

/-- Whether every number in a value is a whole one. -/
def Whole (v : Value) : Prop :=
  ∀ x, ¬IsPart (.number (.real x)) v

/-- Whether no object in a value has a key twice. -/
def Distinct (v : Value) : Prop :=
  ∀ members, IsPart (.object members) v → (Members.keys members).Nodup

@[simp] theorem isPart_null {v : Value} : IsPart v .null ↔ v = .null :=
  ⟨by rintro ⟨⟩; rfl, by rintro rfl; exact .self⟩

@[simp] theorem isPart_bool {v : Value} {b : Bool} : IsPart v (.bool b) ↔ v = .bool b :=
  ⟨by rintro ⟨⟩; rfl, by rintro rfl; exact .self⟩

@[simp] theorem isPart_number {v : Value} {n : Number} : IsPart v (.number n) ↔ v = .number n :=
  ⟨by rintro ⟨⟩; rfl, by rintro rfl; exact .self⟩

@[simp] theorem isPart_string {v : Value} {s : String} : IsPart v (.string s) ↔ v = .string s :=
  ⟨by rintro ⟨⟩; rfl, by rintro rfl; exact .self⟩

@[simp] theorem isPart_array {v : Value} {items : List Value} :
    IsPart v (.array items) ↔ v = .array items ∨ ∃ i ∈ items, IsPart v i := by
  constructor
  · rintro (_ | ⟨hi, h⟩ | _)
    · exact .inl rfl
    · exact .inr ⟨_, hi, h⟩
  · rintro (rfl | ⟨i, hi, h⟩)
    · exact .self
    · exact .item hi h

@[simp] theorem isPart_object {v : Value} {members : Members} :
    IsPart v (.object members) ↔ v = .object members ∨ ∃ m ∈ members, IsPart v m.2 := by
  constructor
  · rintro (_ | _ | ⟨hm, h⟩)
    · exact .inl rfl
    · exact .inr ⟨_, hm, h⟩
  · rintro (rfl | ⟨m, hm, h⟩)
    · exact .self
    · exact .member hm h

theorem whole_array_iff {items : List Value} : Whole (.array items) ↔ ∀ v ∈ items, v.Whole := by
  simp only [Whole, isPart_array, reduceCtorEq, false_or, not_exists, not_and]
  tauto

theorem whole_object_iff {members : Members} :
    Whole (.object members) ↔ ∀ m ∈ members, m.2.Whole := by
  simp only [Whole, isPart_object, reduceCtorEq, false_or, not_exists, not_and]
  tauto

theorem distinct_array_iff {items : List Value} :
    Distinct (.array items) ↔ ∀ v ∈ items, v.Distinct := by
  simp only [Distinct, isPart_array, reduceCtorEq, false_or, forall_exists_index, and_imp]
  tauto

theorem distinct_object_iff {members : Members} :
    Distinct (.object members) ↔ (Members.keys members).Nodup ∧ ∀ m ∈ members, m.2.Distinct := by
  constructor
  · exact fun h => ⟨h _ .self, fun m hm members' part => h _ (.member hm part)⟩
  · rintro ⟨hkeys, h⟩ members' part
    obtain heq | ⟨m, hm, part⟩ := isPart_object.1 part
    · obtain rfl := Value.object.inj heq
      exact hkeys
    · exact h m hm members' part

mutual

/-- How many brackets and braces stand around the innermost part of a value. -/
def levels : Value → Nat
  | array items => levelsOfItems items + 1
  | object members => levelsOfMembers members + 1
  | _ => 0

def levelsOfItems : List Value → Nat
  | [] => 0
  | v :: vs => max v.levels (levelsOfItems vs)

def levelsOfMembers : List (String × Value) → Nat
  | [] => 0
  | (_, v) :: ms => max v.levels (levelsOfMembers ms)

end

theorem levelsOfItems_le {items : List Value} {n : Nat} :
    levelsOfItems items ≤ n ↔ ∀ v ∈ items, v.levels ≤ n := by
  induction items with
  | nil => simp [levelsOfItems]
  | cons v vs ih => simp [levelsOfItems, ih]

theorem levelsOfMembers_le {members : Members} {n : Nat} :
    levelsOfMembers members ≤ n ↔ ∀ m ∈ members, m.2.levels ≤ n := by
  induction members with
  | nil => simp [levelsOfMembers]
  | cons m ms ih =>
    obtain ⟨key, v⟩ := m
    simp only [levelsOfMembers, max_le_iff, ih, List.forall_mem_cons]

theorem levels_array_le {items : List Value} {n : Nat} :
    levels (.array items) ≤ n + 1 ↔ ∀ v ∈ items, v.levels ≤ n := by
  rw [levels, Nat.add_le_add_iff_right, levelsOfItems_le]

theorem levels_object_le {members : Members} {n : Nat} :
    levels (.object members) ≤ n + 1 ↔ ∀ m ∈ members, m.2.levels ≤ n := by
  rw [levels, Nat.add_le_add_iff_right, levelsOfMembers_le]

end Value

theorem exists_of_mem_itemValues {levels : Nat} {forms : List Form} {vs : List Value}
    (h : itemValues? levels forms = some vs) :
    ∀ v ∈ vs, ∃ form ∈ forms, form.value? levels = some v := by
  induction forms generalizing vs with
  | nil =>
    obtain rfl : [] = vs := by simpa [itemValues?] using h
    simp
  | cons form forms ih =>
    simp only [itemValues?, Option.bind_eq_some_iff, Option.map_eq_some_iff] at h
    obtain ⟨v, hv, vs, hvs, rfl⟩ := h
    simp only [List.forall_mem_cons]
    refine ⟨⟨form, by simp, hv⟩, fun w hw => ?_⟩
    obtain ⟨form', hf, hw⟩ := ih hvs w hw
    exact ⟨form', by simp [hf], hw⟩

theorem exists_of_mem_memberValues {levels : Nat} {members : List (Body × Form)}
    {pairs : List (String × Value)} (h : memberValues? levels members = some pairs) :
    ∀ p ∈ pairs, ∃ m ∈ members, m.2.value? levels = some p.2 := by
  induction members generalizing pairs with
  | nil =>
    obtain rfl : [] = pairs := by simpa [memberValues?] using h
    simp
  | cons m members ih =>
    obtain ⟨key, form⟩ := m
    simp only [memberValues?, Option.bind_eq_some_iff, Option.map_eq_some_iff] at h
    obtain ⟨p, ⟨k, -, v, hv, rfl⟩, pairs, hpairs, rfl⟩ := h
    simp only [List.forall_mem_cons]
    refine ⟨⟨(key, form), by simp, hv⟩, fun q hq => ?_⟩
    obtain ⟨m', hm, hq⟩ := ih hpairs q hq
    exact ⟨m', by simp [hm], hq⟩

theorem cases_of_wordValue {word : List Char} {v : Value} (hword : IsWord word)
    (h : wordValue? word = some v) : v = .null ∨ (∃ b, v = .bool b) ∨ ∃ n, v = .number n := by
  cases hword with
  | null => exact .inl (Option.some.inj h).symm
  | true => exact .inr (.inl ⟨true, (Option.some.inj h).symm⟩)
  | false => exact .inr (.inl ⟨false, (Option.some.inj h).symm⟩)
  | numeral text =>
    obtain ⟨c, cs, rfl, hc⟩ := Numeral.exists_cons_of_isText text
    rw [wordValue?, readNode_number hc] at h
    cases hn : readNumber (c :: cs) with
    | error refusal => simp [hn, Except.map, Except.toOption] at h
    | ok p =>
      obtain rfl : Value.number p.1 = v := by simpa [hn, Except.map, Except.toOption] using h
      exact .inr (.inr ⟨_, rfl⟩)

/-- What a form stands for has distinct keys, and no more levels than it may have. -/
theorem distinct_and_levels_le {form : Form} {n : Nat} {v : Value} (h : form.value? n = some v) :
    v.Distinct ∧ v.levels ≤ n := by
  induction form using Form.induction generalizing n v with
  | literal body =>
    simp only [Form.value?, Option.map_eq_some_iff] at h
    obtain ⟨cs, -, rfl⟩ := h
    exact ⟨by simp [Value.Distinct], Nat.zero_le n⟩
  | word word =>
    obtain rfl | ⟨b, rfl⟩ | ⟨x, rfl⟩ := cases_of_wordValue word.isWord h <;>
      exact ⟨by simp [Value.Distinct], Nat.zero_le n⟩
  | array items extra ih =>
    cases n with
    | zero => simp [Form.value?] at h
    | succ n =>
      simp only [Form.value?, Option.map_eq_some_iff] at h
      obtain ⟨vs, hvs, rfl⟩ := h
      have inner : ∀ v ∈ vs, v.Distinct ∧ v.levels ≤ n := by
        intro v hv
        obtain ⟨form, hf, hv⟩ := exists_of_mem_itemValues hvs v hv
        exact ih form hf hv
      exact ⟨Value.distinct_array_iff.2 fun v hv => (inner v hv).1,
        Value.levels_array_le.2 fun v hv => (inner v hv).2⟩
  | object members extra ih =>
    cases n with
    | zero => simp [Form.value?] at h
    | succ n =>
      simp only [Form.value?, Option.map_eq_some_iff] at h
      obtain ⟨pairs, hpairs, rfl⟩ := h
      have inner : ∀ m ∈ Members.ofPairs pairs, m.2.Distinct ∧ m.2.levels ≤ n := by
        intro m hm
        obtain ⟨m', hm', hm⟩ := exists_of_mem_memberValues hpairs m (Members.mem_ofPairs hm)
        exact ih m' hm' hm
      exact ⟨Value.distinct_object_iff.2 ⟨Members.nodup_keys_ofPairs pairs, fun m hm => (inner m hm).1⟩,
        Value.levels_object_le.2 fun m hm => (inner m hm).2⟩

end ScopedCheck.Json
