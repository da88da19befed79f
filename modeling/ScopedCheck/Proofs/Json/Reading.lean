import Mathlib.Data.List.DropRight
import Mathlib.Data.List.TakeWhile
import ScopedCheck.Proofs.Json.Form

namespace ScopedCheck.Json

theorem Text.isBlank_of_isBlank {c : Char} (h : isBlank c) : Text.isBlank c := by
  simp only [isBlank, Bool.or_eq_true, decide_eq_true_eq] at h
  obtain ((rfl | rfl) | rfl) | rfl := h <;> rfl

theorem Text.not_isBlank_of_isDigit {c : Char} (h : c.isDigit) : Text.isBlank c = false := by
  simp only [Char.isDigit, Bool.and_eq_true, decide_eq_true_eq, UInt32.le_iff_toNat_le] at h
  have bounds : 48 ≤ c.toNat ∧ c.toNat ≤ 57 := h
  simp [Text.isBlank, Text.blankRanges]
  omega

/-- A token begins with no blank, and with a closing bracket if it is one. -/
theorem Token.exists_text (t : Token) :
    ∃ c cs, t.text = c :: cs ∧ Text.isBlank c = false ∧ (t.closes ↔ c = ']' ∨ c = '}') := by
  match t with
  | .mark m => cases m <;> exact ⟨_, _, rfl, rfl, by decide⟩
  | .literal body => exact ⟨'"', _, rfl, rfl, by simp [closes]⟩
  | .word ⟨cs, h⟩ =>
    cases h with
    | null => exact ⟨'n', _, rfl, rfl, by decide⟩
    | true => exact ⟨'t', _, rfl, rfl, by decide⟩
    | false => exact ⟨'f', _, rfl, rfl, by decide⟩
    | numeral text =>
      obtain ⟨c, cs, rfl, rfl | hc⟩ := Numeral.exists_cons_of_isText text
      · exact ⟨'-', _, rfl, rfl, by simp [closes]⟩
      · have not_array : c ≠ ']' := by rintro rfl; simp at hc
        have not_object : c ≠ '}' := by rintro rfl; simp at hc
        exact ⟨c, cs, rfl, Text.not_isBlank_of_isDigit hc, by
          simp [closes, not_array, not_object]⟩

theorem Token.length_text_pos (t : Token) : 0 < t.text.length := by
  obtain ⟨c, cs, h, -⟩ := t.exists_text
  simp [h]

theorem exists_cons_tokens (form : Form) (loose : Bool) :
    ∃ t ts, form.tokens loose = t :: ts ∧ t.closes = false ∧ t.isComma = false := by
  cases form <;> exact ⟨_, _, by rw [Form.tokens], rfl, rfl⟩

theorem skipBlank_append {g cs : List Char} (hg : IsBlanks g) : skipBlank (g ++ cs) = skipBlank cs :=
  List.dropWhile_append_of_pos hg

theorem skipBlank_text (t : Token) (cs : List Char) : skipBlank (t.text ++ cs) = t.text ++ cs := by
  obtain ⟨c, text, h, blank, -⟩ := t.exists_text
  have : isBlank c = false := by
    by_contra hc
    simp [Text.isBlank_of_isBlank (by simpa using hc)] at blank
  simp [h, skipBlank, this]

theorem skipBlank_of_spaced_cons {t : Token} {ts : List Token} {cs : List Char}
    (h : Spaced (t :: ts) cs) : ∃ rest, skipBlank cs = t.text ++ rest ∧ Spaced ts rest := by
  cases h with
  | cons hg rest => exact ⟨_, by rw [skipBlank_append hg, skipBlank_text], rest⟩

theorem skipBlank_of_spaced_nil {cs : List Char} (h : Spaced [] cs) : skipBlank cs = [] := by
  cases h with
  | nil hg => exact List.dropWhile_eq_nil_iff.2 hg

theorem spaced_skipBlank {ts : List Token} {cs : List Char} (h : Spaced ts cs) :
    Spaced ts (skipBlank cs) := by
  cases ts with
  | nil => rw [skipBlank_of_spaced_nil h]; exact .nil isBlanks_nil
  | cons t ts =>
    obtain ⟨rest, hr, hts⟩ := skipBlank_of_spaced_cons h
    rw [hr]
    exact .cons isBlanks_nil hts

theorem length_le_of_laid {gap last : List Char → Prop} {ts : List Token} {cs : List Char}
    (h : Laid gap last ts cs) : ts.length ≤ cs.length := by
  induction h with
  | nil => simp
  | @cons g t ts cs _ _ ih =>
    have := t.length_text_pos
    simp only [List.length_cons, List.length_append]
    omega

/-- Whether tokens do not begin with a word or a literal. -/
def MarkFirst (ts : List Token) : Prop :=
  ∀ t ∈ ts.head?, t.isMark

theorem endsBefore_of_spaced {ts : List Token} {cs : List Char} (h : Spaced ts cs)
    (hts : MarkFirst ts) : Numeral.EndsBefore cs := by
  intro c hc
  have of_blank {c : Char} (h : isBlank c) : Numeral.continues c = false := by
    simp only [isBlank, Bool.or_eq_true, decide_eq_true_eq] at h
    obtain ((rfl | rfl) | rfl) | rfl := h <;> rfl
  cases h with
  | @nil cs hg =>
    cases cs with
    | nil => simp at hc
    | cons d cs =>
      obtain rfl : d = c := by simpa using hc
      exact of_blank (hg d (by simp))
  | @cons g t ts cs hg _ =>
    cases g with
    | nil =>
      have marked : t.isMark := hts t (by simp)
      cases t with
      | mark m =>
        obtain rfl : m.char = c := by simpa [Token.text] using hc
        cases m <;> rfl
      | _ => simp [Token.isMark] at marked
    | cons d g =>
      obtain rfl : d = c := by simpa using hc
      exact of_blank (hg d (by simp))

/-- Reads something, and then something else that may depend on it. -/
def Reader.andThen {α β : Type} (first : Reader α) (next : α → Reader β) : Reader β := fun cs => do
  let (a, cs) ← first cs
  next a cs

/-- Gives a value and reads nothing. -/
def Reader.give {α : Type} (a : α) : Reader α := fun cs => .ok (a, cs)

/-- A reader refuses a text that holds nothing readable before some tokens; else it gives what is
there, and leaves a text of these tokens. -/
def Gives {α : Type} (reader : Reader α) (cs : List Char) (value? : Option α) (ts : List Token) :
    Prop :=
  match value? with
  | none => ∃ refusal, reader cs = .error refusal
  | some v => ∃ rest, reader cs = .ok (v, rest) ∧ Spaced ts rest

namespace Gives

variable {α β : Type} {cs : List Char} {ts us : List Token}

theorem of_eq {reader reader' : Reader α} {cs' : List Char} {value? : Option α}
    (h : reader cs = reader' cs') (h' : Gives reader' cs' value? ts) : Gives reader cs value? ts := by
  cases value? with
  | none => exact ⟨_, h.trans h'.choose_spec⟩
  | some v =>
    obtain ⟨rest, hr, hts⟩ := h'
    exact ⟨rest, h.trans hr, hts⟩

theorem give {a : α} (h : Spaced ts cs) : Gives (.give a) cs (some a) ts :=
  ⟨cs, rfl, h⟩

theorem andThen {first : Reader α} {next : α → Reader β} {value? : Option α}
    {value'? : α → Option β} (h : Gives first cs value? ts)
    (h' : ∀ a rest, Spaced ts rest → Gives (next a) rest (value'? a) us) :
    Gives (first.andThen next) cs (value?.bind value'?) us := by
  cases value? with
  | none =>
    obtain ⟨refusal, hr⟩ := h
    exact ⟨refusal, by simp only [Reader.andThen, hr]; rfl⟩
  | some a =>
    obtain ⟨rest, hr, hts⟩ := h
    exact of_eq (by simp only [Reader.andThen, hr]; rfl) (h' a rest hts)

theorem map {reader : Reader α} {value? : Option α} (f : α → β) (h : Gives reader cs value? ts) :
    Gives (reader.andThen fun a => .give (f a)) cs (value?.map f) ts := by
  cases value? with
  | none =>
    obtain ⟨refusal, hr⟩ := h
    exact ⟨refusal, by simp only [Reader.andThen, hr]; rfl⟩
  | some a => exact h.andThen fun _ _ hts => .give hts

theorem of_toOption {reader : Reader α} {value? : Option α} {rest : List Char}
    (h : (reader cs).toOption = value?.map fun a => (a, rest)) (hts : Spaced ts rest) :
    Gives reader cs value? ts := by
  cases value? with
  | none =>
    cases hr : reader cs with
    | error refusal => exact ⟨refusal, hr⟩
    | ok p => simp [hr, Except.toOption] at h
  | some a =>
    cases hr : reader cs with
    | error refusal => simp [hr, Except.toOption] at h
    | ok p =>
      obtain rfl : p = (a, rest) := by simpa [hr, Except.toOption] using h
      exact ⟨rest, hr, hts⟩

end Gives

section Steps

variable {item : Reader Value} {steps : Nat} {cs rest : List Char} {c : Char}

theorem readItems_close (first : Bool) (h : skipBlank cs = ']' :: rest) :
    readItems item (steps + 1) first cs = .ok ([], rest) := by
  simp only [readItems, h]
  rfl

/-- Reads an item and those after it. -/
def readItemThen (item : Reader Value) (steps : Nat) : Reader (List Value) :=
  item.andThen fun v => Reader.andThen (readItems item steps false) fun vs => .give (v :: vs)

theorem readItems_first (h : skipBlank cs = c :: rest) (hc : c ≠ ']') :
    readItems item (steps + 1) true cs = readItemThen item steps (c :: rest) := by
  simp only [readItems, h]
  split <;> simp_all
  rfl

theorem readItems_later {cs' : List Char} (h : skipBlank cs = ',' :: cs')
    (h' : skipBlank cs' = c :: rest) (hc : c ≠ ']') :
    readItems item (steps + 1) false cs = readItemThen item steps (c :: rest) := by
  simp only [readItems, h, Bool.false_eq_true, if_false]
  split
  case h_3 heq =>
    obtain ⟨rfl, rfl⟩ := List.cons.inj heq
    simp only [if_true, h']
    split <;> simp_all
    rfl
  all_goals simp at *

theorem readMembers_close (first : Bool) (h : skipBlank cs = '}' :: rest) :
    readMembers item (steps + 1) first cs = .ok ([], rest) := by
  simp only [readMembers, h]
  rfl

/-- Reads a member and those after it. -/
def readMemberThen (item : Reader Value) (steps : Nat) : Reader (List (String × Value)) :=
  Reader.andThen (readMember item) fun m =>
    Reader.andThen (readMembers item steps false) fun ms => .give (m :: ms)

theorem readMembers_first (h : skipBlank cs = c :: rest) (hc : c ≠ '}') :
    readMembers item (steps + 1) true cs = readMemberThen item steps (c :: rest) := by
  simp only [readMembers, h]
  split <;> simp_all
  rfl

theorem readMembers_later {cs' : List Char} (h : skipBlank cs = ',' :: cs')
    (h' : skipBlank cs' = c :: rest) (hc : c ≠ '}') :
    readMembers item (steps + 1) false cs = readMemberThen item steps (c :: rest) := by
  simp only [readMembers, h, Bool.false_eq_true, if_false]
  split
  case h_3 heq =>
    obtain ⟨rfl, rfl⟩ := List.cons.inj heq
    simp only [if_true, h']
    split <;> simp_all
    rfl
  all_goals simp at *

end Steps

/-- Whether a reader reads a form, whatever comes after it. -/
def ReadsForm (reader : Reader Value) (value? : Option Value) (form : Form) : Prop :=
  ∀ ts cs, MarkFirst ts → Spaced (form.tokens false ++ ts) cs → Gives reader cs value? ts

theorem markFirst_items (forms : List Form) (ts : List Token) :
    MarkFirst (itemTokens false false forms ++ .mark .closeArray :: ts) := by
  intro t ht
  cases forms <;> simp [itemTokens, commaIf] at ht <;> subst ht <;> rfl

theorem markFirst_members (members : List (Body × Form)) (ts : List Token) :
    MarkFirst (memberTokens false false members ++ .mark .closeObject :: ts) := by
  intro t ht
  cases members <;> simp [memberTokens, commaIf] at ht <;> subst ht <;> rfl

/-- The text of a form goes on with something else than a closing bracket. -/
theorem skipBlank_form {form : Form} {ts : List Token} {cs : List Char}
    (h : Spaced (form.tokens false ++ ts) cs) :
    ∃ c rest, skipBlank cs = c :: rest ∧ c ≠ ']' := by
  obtain ⟨t, more, ht, opens, -⟩ := exists_cons_tokens form false
  rw [ht, List.cons_append] at h
  obtain ⟨rest, hr, -⟩ := skipBlank_of_spaced_cons h
  obtain ⟨c, text, htext, -, hc⟩ := t.exists_text
  simp only [opens, Bool.false_eq_true, false_iff, not_or] at hc
  exact ⟨c, text ++ rest, by rw [hr, htext, List.cons_append], hc.1⟩

theorem gives_items {item : Reader Value} {levels : Nat} {items : List Form}
    (hitem : ∀ form ∈ items, ReadsForm item (form.value? levels) form) {steps : Nat}
    (hsteps : items.length < steps) (first : Bool) {ts : List Token} {cs : List Char}
    (h : Spaced (itemTokens false first items ++ .mark .closeArray :: ts) cs) :
    Gives (readItems item steps first) cs (itemValues? levels items) ts := by
  induction items generalizing steps first cs with
  | nil =>
    obtain ⟨steps, rfl⟩ := Nat.exists_eq_add_of_lt hsteps
    obtain ⟨rest, hr, hts⟩ := skipBlank_of_spaced_cons h
    exact ⟨rest, readItems_close first hr, hts⟩
  | cons form forms ih =>
    obtain ⟨steps, rfl⟩ := Nat.exists_eq_add_one_of_ne_zero (Nat.ne_zero_of_lt hsteps)
    simp only [List.length_cons, Nat.add_lt_add_iff_right] at hsteps
    simp only [itemTokens, List.append_assoc] at h
    -- What happens once the comma between two items is out of the way.
    have next {cs : List Char} (h : Spaced (form.tokens false ++
        (itemTokens false false forms ++ .mark .closeArray :: ts)) cs) :
        Gives (readItemThen item steps) cs (itemValues? levels (form :: forms)) ts :=
      (hitem form (by simp) _ _ (markFirst_items forms ts) h).andThen fun v rest hrest =>
        
        (ih (fun f hf => hitem f (by simp [hf])) hsteps false hrest).map (v :: ·)
    cases first with
    | true =>
      obtain ⟨c, rest, hr, hc⟩ := skipBlank_form h
      exact .of_eq (readItems_first hr hc) (hr ▸ next (spaced_skipBlank h))
    | false =>
      obtain ⟨cs', hr, h⟩ := skipBlank_of_spaced_cons h
      obtain ⟨c, rest, hr', hc⟩ := skipBlank_form h
      exact .of_eq (readItems_later hr hr' hc) (hr' ▸ next (spaced_skipBlank h))

/-- Reading a literal after its opening quote. -/
theorem gives_literal (body : Body) {ts : List Token} {cs rest : List Char} (hts : Spaced ts rest)
    (h : cs = body.chars ++ '"' :: rest) :
    Gives Literal.read cs (Literal.chars? body.chars) ts := by
  subst h
  exact .of_toOption (Literal.read_body body.isBody rest) hts

/-- Reads a colon and a value. -/
def readColonThen (item : Reader Value) (key : List Char) : Reader (String × Value) := fun cs =>
  match skipBlank cs with
  | [] => .error (.atEnd .unfinishedObject)
  | ':' :: cs => (item.andThen fun v => .give (String.ofList key, v)) cs
  | cs => .error (.onFirst .expectedColon cs)

theorem readMember_eq (item : Reader Value) (cs : List Char) :
    readMember item ('"' :: cs) = (Reader.andThen Literal.read (readColonThen item)) cs := by
  rfl

theorem gives_member {item : Reader Value} {value? : Option Value} {key : Body} {form : Form}
    (hform : ReadsForm item value? form) {ts : List Token} (hts : MarkFirst ts) {cs : List Char}
    (h : Spaced (.literal key :: .mark .colon :: (form.tokens false ++ ts)) cs) :
    Gives (readMember item) (skipBlank cs)
      ((Literal.chars? key.chars).bind fun k => value?.map (String.ofList k, ·)) ts := by
  obtain ⟨rest, hr, hrest⟩ := skipBlank_of_spaced_cons h
  have text : skipBlank cs = '"' :: (key.chars ++ '"' :: rest) := by simp [hr, Token.text]
  rw [text]
  refine .of_eq (readMember_eq item _) ((gives_literal key hrest rfl).andThen ?_)
  intro k rest hrest
  obtain ⟨rest', hr', hrest'⟩ := skipBlank_of_spaced_cons hrest
  have colon : readColonThen item k rest =
      item.andThen (fun v => .give (String.ofList k, v)) rest' := by
    simp only [readColonThen, hr']
    rfl
  exact .of_eq colon ((hform _ _ hts hrest').map _)

theorem gives_members {item : Reader Value} {levels : Nat} {members : List (Body × Form)}
    (hitem : ∀ m ∈ members, ReadsForm item (m.2.value? levels) m.2) {steps : Nat}
    (hsteps : members.length < steps) (first : Bool) {ts : List Token} {cs : List Char}
    (h : Spaced (memberTokens false first members ++ .mark .closeObject :: ts) cs) :
    Gives (readMembers item steps first) cs (memberValues? levels members) ts := by
  induction members generalizing steps first cs with
  | nil =>
    obtain ⟨steps, rfl⟩ := Nat.exists_eq_add_of_lt hsteps
    obtain ⟨rest, hr, hts⟩ := skipBlank_of_spaced_cons h
    exact ⟨rest, readMembers_close first hr, hts⟩
  | cons member members ih =>
    obtain ⟨key, form⟩ := member
    obtain ⟨steps, rfl⟩ := Nat.exists_eq_add_one_of_ne_zero (Nat.ne_zero_of_lt hsteps)
    simp only [List.length_cons, Nat.add_lt_add_iff_right] at hsteps
    simp only [memberTokens, List.append_assoc, List.cons_append] at h
    -- What happens once the comma between two members is out of the way.
    have next {cs : List Char} (h : Spaced (.literal key :: .mark .colon :: (form.tokens false ++
        (memberTokens false false members ++ .mark .closeObject :: ts))) cs) :
        Gives (readMemberThen item steps) (skipBlank cs)
          (memberValues? levels ((key, form) :: members)) ts := by
      refine (gives_member (hitem (key, form) (by simp)) (markFirst_members members ts) h).andThen ?_
      intro m rest hrest
      exact (ih (fun m hm => hitem m (by simp [hm])) hsteps false hrest).map (m :: ·)
    have quote {cs : List Char} {us : List Token} (h : Spaced (.literal key :: us) cs) :
        ∃ rest, skipBlank cs = '"' :: rest := by
      obtain ⟨rest, hr, -⟩ := skipBlank_of_spaced_cons h
      exact ⟨_, hr⟩
    cases first with
    | true =>
      obtain ⟨rest, hr⟩ := quote h
      exact .of_eq (readMembers_first hr (by decide)) (hr ▸ next h)
    | false =>
      obtain ⟨cs', hr, h⟩ := skipBlank_of_spaced_cons h
      obtain ⟨rest, hr'⟩ := quote h
      exact .of_eq (readMembers_later hr hr' (by decide)) (hr' ▸ next h)

theorem length_items_le (loose first : Bool) (items : List Form) :
    items.length ≤ (itemTokens loose first items).length := by
  induction items generalizing first with
  | nil => simp
  | cons form forms ih =>
    obtain ⟨t, ts, ht, -⟩ := exists_cons_tokens form loose
    have := ih false
    simp only [itemTokens, ht, List.length_cons, List.length_append]
    omega

theorem length_members_le (loose first : Bool) (members : List (Body × Form)) :
    members.length ≤ (memberTokens loose first members).length := by
  induction members generalizing first with
  | nil => simp
  | cons member members ih =>
    have := ih false
    simp only [memberTokens, List.length_cons, List.length_append]
    omega

section Nodes

variable {inner : Option (Reader Value)} {item : Reader Value} {cs rest : List Char}

theorem readNode_literal (h : skipBlank cs = '"' :: rest) :
    readNode inner cs =
      (Reader.andThen Literal.read fun s => .give (.string (String.ofList s))) rest := by
  simp only [readNode, h]
  rfl

theorem readNode_array (h : skipBlank cs = '[' :: rest) :
    readNode (some item) cs =
      (Reader.andThen (readItems item (rest.length + 1) true) fun vs => .give (.array vs)) rest := by
  simp only [readNode, h]
  rfl

theorem readNode_object (h : skipBlank cs = '{' :: rest) :
    readNode (some item) cs =
      (Reader.andThen (readMembers item (rest.length + 1) true) fun ms =>
        .give (.object (Members.ofPairs ms))) rest := by
  simp only [readNode, h]
  rfl

theorem readNode_deep (h : skipBlank cs = '[' :: rest ∨ skipBlank cs = '{' :: rest) :
    ∃ refusal, readNode none cs = .error refusal := by
  obtain h | h := h <;> exact ⟨_, by simp only [readNode, h]; rfl⟩

theorem readNode_skipBlank : readNode inner (skipBlank cs) = readNode inner cs := by
  simp only [readNode, skipBlank, List.dropWhile_idempotent]

end Nodes

theorem readValue_eq (levels : Nat) : ∃ inner, readValue levels = readNode inner := by
  cases levels <;> exact ⟨_, rfl⟩

/-- Whatever the blanks are, the reader gives what a form stands for. -/
theorem readValue_form (form : Form) (levels : Nat) :
    ReadsForm (readValue levels) (form.value? levels) form := by
  induction form using Form.induction generalizing levels with
  | literal body =>
    intro ts cs _ h
    obtain ⟨rest, hr, hts⟩ := skipBlank_of_spaced_cons h
    have text : skipBlank cs = '"' :: (body.chars ++ '"' :: rest) := by simp [hr, Token.text]
    obtain ⟨inner, hinner⟩ := readValue_eq levels
    rw [Form.value?, hinner]
    exact .of_eq (readNode_literal text) ((gives_literal body hts rfl).map _)
  | word word =>
    intro ts cs marked h
    obtain ⟨rest, hr, hts⟩ := skipBlank_of_spaced_cons h
    obtain ⟨inner, hinner⟩ := readValue_eq levels
    rw [Form.value?, hinner]
    refine .of_eq readNode_skipBlank.symm (.of_toOption ?_ hts)
    rw [hr]
    exact readNode_word word.isWord inner (endsBefore_of_spaced hts marked)
  | array items extra ih =>
    intro ts cs _ h
    simp only [Form.tokens, Bool.false_and, List.cons_append, List.append_assoc] at h
    obtain ⟨rest, hr, hrest⟩ := skipBlank_of_spaced_cons h
    cases levels with
    | zero => exact readNode_deep (.inl hr)
    | succ levels =>
      have steps : items.length < rest.length + 1 := by
        have := length_le_of_laid hrest
        have := length_items_le false true items
        simp only [List.length_append] at *
        omega
      exact .of_eq (readNode_array hr)
        ((gives_items (fun f hf => ih f hf levels) steps true hrest).map _)
  | object members extra ih =>
    intro ts cs _ h
    simp only [Form.tokens, Bool.false_and, List.cons_append, List.append_assoc] at h
    obtain ⟨rest, hr, hrest⟩ := skipBlank_of_spaced_cons h
    cases levels with
    | zero => exact readNode_deep (.inr hr)
    | succ levels =>
      have steps : members.length < rest.length + 1 := by
        have := length_le_of_laid hrest
        have := length_members_le false true members
        simp only [List.length_append] at *
        omega
      exact .of_eq (readNode_object hr)
        ((gives_members (fun m hm => ih m hm levels) steps true hrest).map _)

/-- Reading a whole text of a form. -/
theorem parse_spaced {form : Form} {cs : List Char} (h : Spaced (form.tokens false) cs) :
    (parse cs).toOption = form.value? maxLevels := by
  have read := readValue_form form maxLevels [] cs (by simp [MarkFirst]) (by simpa using h)
  cases hv : form.value? maxLevels with
  | none =>
    rw [hv] at read
    obtain ⟨refusal, hr⟩ := read
    simp only [parse, hr]
    rfl
  | some v =>
    rw [hv] at read
    obtain ⟨rest, hr, hrest⟩ := read
    simp only [parse, hr, bind, Except.bind, skipBlank_of_spaced_nil hrest]
    rfl

theorem isOk_parse_of_spaced {form : Form} {cs : List Char} (h : Spaced (form.tokens false) cs)
    (value : (form.value? maxLevels).isSome) : (parse cs).isOk := by
  rw [← parse_spaced h] at value
  cases hp : parse cs with
  | error refusal => simp [hp, Except.toOption] at value
  | ok v => rfl

end ScopedCheck.Json
