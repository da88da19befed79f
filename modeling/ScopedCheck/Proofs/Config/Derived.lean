import ScopedCheck.Proofs.Config.Tolerance
import ScopedCheck.Proofs.Json.Rendering

namespace ScopedCheck.Config

open Json (Value Members)

section

variable {members : Members} {v : Value} (key : String)

theorem whole_insert (h : Value.Whole (.object members)) (hv : v.Whole) :
    Value.Whole (.object (Members.insert key v members)) := by
  refine Value.whole_object_iff.2 fun m hm => ?_
  obtain rfl | hm := Members.mem_insert hm
  · exact hv
  · exact Value.whole_object_iff.1 h m hm

theorem distinct_insert (h : Value.Distinct (.object members)) (hv : v.Distinct) :
    Value.Distinct (.object (Members.insert key v members)) := by
  obtain ⟨keys, inner⟩ := Value.distinct_object_iff.1 h
  refine Value.distinct_object_iff.2 ⟨Members.nodup_keys_insert keys key v, fun m hm => ?_⟩
  obtain rfl | hm := Members.mem_insert hm
  · exact hv
  · exact inner m hm

theorem levels_insert_le {n : Nat} (h : Value.levels (.object members) ≤ n + 1)
    (hv : v.levels ≤ n) : Value.levels (.object (Members.insert key v members)) ≤ n + 1 := by
  refine Value.levels_object_le.2 fun m hm => ?_
  obtain rfl | hm := Members.mem_insert hm
  · exact hv
  · exact Value.levels_object_le.1 h m hm

end

/-- The compiler options are a member, or there are none. -/
theorem compilerOptions_cases (members : Members) :
    (∃ m ∈ members, m.2 = .object (compilerOptions members)) ∨ compilerOptions members = [] := by
  unfold compilerOptions
  split
  next options h => exact .inl ⟨_, Members.mem_of_get? h, rfl⟩
  next => exact .inr rfl

theorem whole_derived {members : Members} (h : Value.Whole (.object members)) (files : List String) :
    Value.Whole (.object (deriveMembers members files)) := by
  have options : Value.Whole (.object (compilerOptions members)) := by
    obtain ⟨m, hm, heq⟩ | heq := compilerOptions_cases members
    · rw [← heq]
      exact Value.whole_object_iff.1 h m hm
    · simp [heq, Value.Whole]
  refine whole_insert _ (whole_insert _ (whole_insert _ h (whole_insert _ options ?_)) ?_) ?_
  · simp [Value.Whole]
  · simp [Value.Whole]
  · simp [Value.Whole]

theorem distinct_derived {members : Members} (h : Value.Distinct (.object members))
    (files : List String) : Value.Distinct (.object (deriveMembers members files)) := by
  have options : Value.Distinct (.object (compilerOptions members)) := by
    obtain ⟨m, hm, heq⟩ | heq := compilerOptions_cases members
    · rw [← heq]
      exact (Value.distinct_object_iff.1 h).2 m hm
    · simp [heq, Value.distinct_object_iff]
  refine distinct_insert _ (distinct_insert _ (distinct_insert _ h (distinct_insert _ options ?_)) ?_) ?_
  · simp [Value.Distinct]
  · simp [Value.Distinct]
  · simp [Value.Distinct]

/-- Deriving goes no deeper than the config does, or than two levels. -/
theorem levels_derived_le (members : Members) (files : List String) :
    Value.levels (.object (deriveMembers members files)) ≤
      max 2 (Value.levels (.object members)) := by
  obtain ⟨n, hn⟩ : ∃ n, max 2 (Value.levels (.object members)) = n + 2 :=
    ⟨max 2 (Value.levels (.object members)) - 2, by omega⟩
  rw [hn]
  have root : Value.levels (.object members) ≤ n + 2 := by omega
  have options : Value.levels (.object (compilerOptions members)) ≤ n + 1 := by
    obtain ⟨m, hm, heq⟩ | heq := compilerOptions_cases members
    · rw [← heq]
      exact Value.levels_object_le.1 root m hm
    · simp [heq, Value.levels_object_le]
  refine levels_insert_le _ (levels_insert_le _ (levels_insert_le _ root
    (levels_insert_le _ options ?_)) ?_) ?_
  · exact Nat.zero_le n
  · refine Value.levels_array_le.2 fun v hv => ?_
    obtain ⟨file, -, rfl⟩ := List.mem_map.1 hv
    exact Nat.zero_le n
  · exact Value.levels_array_le.2 (by simp)

theorem accepted_members {path : Path} {text : String} {config : Config}
    (h : parse path text = .ok config) :
    Value.Distinct (.object config.members) ∧
      Value.levels (.object config.members) ≤ Json.maxLevels := by
  obtain ⟨-, h⟩ := parse_eq_ok_iff.1 h
  cases hp : Json.parse (strictText text) with
  | error refusal => simp [hp, Except.toOption] at h
  | ok v =>
    obtain ⟨form, hform⟩ := Json.exists_form hp
    rw [Json.parse_spaced hform] at h
    exact Json.distinct_and_levels_le h

/-- What is written is what was derived. -/
theorem parse_derived {path : Path} {text : String} {config : Config}
    (accepted : parse path text = .ok config) (whole : Value.Whole (.object config.members))
    (targets : List String) (declarations : List Path) :
    let derived := config.derive targets declarations
    Lenient.strip derived.text.toList = derived.text.toList ∧
    Json.parse derived.text.toList = .ok (.object derived) ∧
    (∀ path', parse path' derived.text = .ok ⟨path', derived⟩) ∧
    Value.levels (.object derived) ≤ max 2 (Value.levels (.object config.members)) := by
  intro derived
  obtain ⟨distinct, deep⟩ := accepted_members accepted
  have levels : Value.levels (.object derived) ≤ max 2 (Value.levels (.object config.members)) :=
    levels_derived_le _ _
  have text : derived.text.toList = Json.render 0 (.object derived) := String.toList_ofList
  obtain ⟨form, spaced, value⟩ : ∃ form : Json.Form,
      Json.Spaced (form.tokens false) derived.text.toList ∧
      form.value? Json.maxLevels = some (.object derived) := by
    rw [text]
    exact Json.exists_spaced_render (whole_derived whole _) (distinct_derived distinct _)
      (levels.trans (max_le (by decide) deep)) 0
  have read : (Json.parse derived.text.toList).toOption = some (.object derived) :=
    (Json.parse_spaced spaced).trans value
  refine ⟨Lenient.strip_of_spaced spaced, ?_, fun path' => ?_, levels⟩
  · cases h : Json.parse derived.text.toList with
    | error refusal => simp [h, Except.toOption] at read
    | ok v => simpa [h, Except.toOption] using read
  · refine parse_eq_ok_iff.2 ⟨rfl, ?_⟩
    rw [strictText_of_spaced spaced]
    exact read

/-- Keys and targets that look like markup, an empty container and a negative number. -/
theorem parse_derived_markup :
    let members : Members := [("//", .number (.whole (-5) (by decide))), ("compilerOptions", .array [])]
    let config : Config := ⟨⟨"tsconfig.json"⟩, members⟩
    let derived := config.derive ["a\"\\\n//,\x7d"] [⟨"é.d.ts"⟩]
    Value.Whole (.object members) ∧
    parse ⟨"tsconfig.json"⟩ "\x7b\"//\":-5,\"compilerOptions\":[]\x7d" = .ok config ∧
    parse ⟨"other.json"⟩ derived.text = .ok ⟨⟨"other.json"⟩, derived⟩ := by
  intro members config derived
  have whole : Value.Whole (.object members) := by simp [members, Value.Whole]
  have strict : strictText "\x7b\"//\":-5,\"compilerOptions\":[]\x7d" =
      ['{', '"', '/', '/', '"', ':', '-', '5', ',', '"', 'c', 'o', 'm', 'p', 'i', 'l', 'e', 'r', 'O',
        'p', 't', 'i', 'o', 'n', 's', '"', ':', '[', ']', '}'] := by rfl
  have accepted : parse ⟨"tsconfig.json"⟩ "\x7b\"//\":-5,\"compilerOptions\":[]\x7d" = .ok config := by
    refine parse_eq_ok_iff.2 ⟨rfl, ?_⟩
    rw [strict]
    rfl
  exact ⟨whole, accepted,
    (parse_derived accepted whole ["a\"\\\n//,\x7d"] [⟨"é.d.ts"⟩]).2.2.1 ⟨"other.json"⟩⟩

end ScopedCheck.Config
