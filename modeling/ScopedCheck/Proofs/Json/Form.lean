import ScopedCheck.Proofs.Json.Lexeme
import ScopedCheck.Text.Blank

namespace ScopedCheck.Json

inductive Mark where
  | openArray
  | closeArray
  | openObject
  | closeObject
  | comma
  | colon
  deriving DecidableEq

def Mark.char : Mark → Char
  | openArray => '['
  | closeArray => ']'
  | openObject => '{'
  | closeObject => '}'
  | comma => ','
  | colon => ':'

/-- What stands between the quotes of a literal. -/
structure Body where
  chars : List Char
  isBody : Literal.IsBody chars

/-- A keyword or a number. -/
structure Word where
  chars : List Char
  isWord : IsWord chars

inductive Token where
  | mark (m : Mark)
  | literal (body : Body)
  | word (word : Word)

namespace Token

def text : Token → List Char
  | mark m => [m.char]
  | literal body => '"' :: (body.chars ++ ['"'])
  | word w => w.chars

def isMark : Token → Bool
  | mark _ => true
  | _ => false

def isComma : Token → Bool
  | mark .comma => true
  | _ => false

/-- Whether a token closes an array or an object. -/
def closes : Token → Bool
  | mark .closeArray | mark .closeObject => true
  | _ => false

theorem exists_mark {t : Token} (h : t.isMark) : ∃ m, t = mark m := by
  cases t with
  | mark m => exact ⟨m, rfl⟩
  | literal body => cases h
  | word word => cases h

theorem eq_comma {t : Token} (h : t.isComma) : t = mark .comma := by
  cases t with
  | mark m => cases m <;> first | rfl | cases h
  | literal body => cases h
  | word word => cases h

theorem isComma_of_closes {t : Token} (h : t.closes) : t.isComma = false := by
  cases t with
  | mark m => cases m <;> first | rfl | cases h
  | literal body => rfl
  | word word => rfl

end Token

/-- The texts that hold tokens in their order, with a gap before each of them and a last one at the
end. -/
inductive Laid (gap last : List Char → Prop) : List Token → List Char → Prop where
  | nil {g : List Char} (hg : last g) : Laid gap last [] g
  | cons {g : List Char} {t : Token} {ts : List Token} {cs : List Char} (hg : gap g)
      (rest : Laid gap last ts cs) : Laid gap last (t :: ts) (g ++ (t.text ++ cs))

def IsBlanks (cs : List Char) : Prop :=
  ∀ c ∈ cs, isBlank c

@[simp] theorem isBlanks_nil : IsBlanks [] := by
  simp [IsBlanks]

@[simp] theorem isBlanks_cons {c : Char} {cs : List Char} :
    IsBlanks (c :: cs) ↔ isBlank c ∧ IsBlanks cs := by
  simp [IsBlanks]

@[simp] theorem isBlanks_append {cs ds : List Char} :
    IsBlanks (cs ++ ds) ↔ IsBlanks cs ∧ IsBlanks ds := by
  simp [IsBlanks, or_imp, forall_and]

theorem isBlanks_replicate (n : Nat) : IsBlanks (List.replicate n ' ') := by
  intro c hc
  obtain ⟨-, rfl⟩ := List.mem_replicate.1 hc
  rfl

/-- The texts that hold tokens with nothing but blanks between them. -/
abbrev Spaced : List Token → List Char → Prop :=
  Laid IsBlanks IsBlanks

theorem spaced_append {g : List Char} (hg : IsBlanks g) {ts : List Token} {cs : List Char}
    (h : Spaced ts cs) : Spaced ts (g ++ cs) := by
  cases h with
  | nil hg' => exact .nil (isBlanks_append.2 ⟨hg, hg'⟩)
  | cons hg' rest =>
    rw [← List.append_assoc]
    exact .cons (isBlanks_append.2 ⟨hg, hg'⟩) rest

inductive Form where
  | literal (body : Body)
  | word (word : Word)
  | array (items : List Form) (extra : Bool)
  | object (members : List (Body × Form)) (extra : Bool)

/-- A comma, if it is wanted. -/
def commaIf (wanted : Bool) : List Token :=
  if wanted then [.mark .comma] else []

mutual

/-- The tokens of a form. No comma stands between the brackets of an empty array or object. -/
def Form.tokens (loose : Bool) : Form → List Token
  | .literal body => [.literal body]
  | .word word => [.word word]
  | .array items extra => .mark .openArray :: (itemTokens loose true items ++
      (commaIf (loose && extra && !items.isEmpty) ++ [.mark .closeArray]))
  | .object members extra => .mark .openObject :: (memberTokens loose true members ++
      (commaIf (loose && extra && !members.isEmpty) ++ [.mark .closeObject]))

def itemTokens (loose first : Bool) : List Form → List Token
  | [] => []
  | form :: forms => commaIf (!first) ++ (form.tokens loose ++ itemTokens loose false forms)

def memberTokens (loose first : Bool) : List (Body × Form) → List Token
  | [] => []
  | (key, form) :: members => commaIf (!first) ++
      (.literal key :: .mark .colon :: (form.tokens loose ++ memberTokens loose false members))

end

mutual

/-- The value that a form stands for, if its words and literals stand for something and it has no more
than so many levels of brackets. -/
def Form.value? : (levels : Nat) → Form → Option Value
  | _, .literal body => (Literal.chars? body.chars).map fun cs => .string (String.ofList cs)
  | _, .word word => wordValue? word.chars
  | 0, .array .. => none
  | levels + 1, .array items _ => (itemValues? levels items).map .array
  | 0, .object .. => none
  | levels + 1, .object members _ =>
    (memberValues? levels members).map fun pairs => .object (Members.ofPairs pairs)

def itemValues? : (levels : Nat) → List Form → Option (List Value)
  | _, [] => some []
  | levels, form :: forms =>
    (form.value? levels).bind fun v => (itemValues? levels forms).map (v :: ·)

def memberValues? : (levels : Nat) → List (Body × Form) → Option (List (String × Value))
  | _, [] => some []
  | levels, (key, form) :: members =>
    ((Literal.chars? key.chars).bind fun k => (form.value? levels).map (String.ofList k, ·)).bind
      fun m => (memberValues? levels members).map (m :: ·)

end

@[elab_as_elim]
theorem Form.induction {motive : Form → Prop} (literal : ∀ body, motive (.literal body))
    (word : ∀ word, motive (.word word))
    (array : ∀ items extra, (∀ form ∈ items, motive form) → motive (.array items extra))
    (object : ∀ members extra, (∀ m ∈ members, motive m.2) → motive (.object members extra))
    (form : Form) : motive form :=
  @Form.rec motive (fun items => ∀ form ∈ items, motive form)
    (fun members => ∀ m ∈ members, motive m.2) (fun m => motive m.2)
    literal word (fun items extra ih => array items extra ih)
    (fun members extra ih => object members extra ih)
    (by simp) (fun form forms h hs => by simpa using ⟨h, hs⟩)
    (by simp) (fun m ms h hs => by simpa using ⟨h, fun a b => hs (a, b)⟩)
    (fun _ _ h => h) form

end ScopedCheck.Json
