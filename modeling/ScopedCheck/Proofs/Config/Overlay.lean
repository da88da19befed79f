import ScopedCheck.Proofs.Config.Derived

namespace ScopedCheck

namespace Json.Members

variable {key : String} {v : Value} {members : Members}

theorem get?_cons (key : String) (m : String × Value) (members : Members) :
    get? key (m :: members) = if key = m.1 then some m.2 else get? key members := by
  rw [get?, get?, List.lookup_cons]
  by_cases same : key = m.1
  · simp [same]
  · simp [same, beq_eq_false_iff_ne.2 same]

theorem get?_insert (key other : String) (v : Value) (members : Members) :
    get? other (insert key v members) = if other = key then some v else get? other members := by
  induction members with
  | nil => simp [insert, get?_cons]
  | cons m members ih =>
    by_cases same : m.1 = key
    · rw [insert, if_pos same, get?_cons, get?_cons, same]
      split_ifs <;> rfl
    · rw [insert, if_neg same, get?_cons, get?_cons, ih]
      by_cases first : other = m.1
      · rw [if_pos first, if_neg (first ▸ same), if_pos first]
      · rw [if_neg first, if_neg first]

theorem keys_insert (key : String) (v : Value) (members : Members) :
    keys (insert key v members) = keys members ++ if key ∈ keys members then [] else [key] := by
  induction members with
  | nil => simp [insert]
  | cons m members ih =>
    by_cases same : m.1 = key
    · simp [insert, same]
    · simp [insert, same, Ne.symm same, ih]

theorem insert_insert (key : String) (v w : Value) (members : Members) :
    insert key w (insert key v members) = insert key w members := by
  induction members with
  | nil => simp [insert]
  | cons m members ih =>
    by_cases same : m.1 = key
    · simp [insert, same]
    · simp [insert, same, ih]

/-- Members with distinct keys are told by their keys, in order, and the values of these. -/
theorem eq_of_keys {members members' : Members} (distinct : (keys members).Nodup)
    (same : keys members' = keys members)
    (values : ∀ key ∈ keys members, get? key members' = get? key members) : members' = members := by
  induction members generalizing members' with
  | nil => exact List.map_eq_nil_iff.1 same
  | cons m members ih =>
    cases members' with
    | nil => simp at same
    | cons m' members' =>
      rw [keys_cons, List.nodup_cons] at distinct
      obtain ⟨fresh, distinct⟩ := distinct
      obtain ⟨key, rest⟩ : m'.1 = m.1 ∧ keys members' = keys members := by simpa using same
      have value : m'.2 = m.2 := by
        have first := values m.1 (by simp)
        rw [get?_cons, get?_cons, if_pos key.symm, if_pos rfl] at first
        exact Option.some.inj first
      rw [Prod.ext key value, ih distinct rest]
      intro k mem
      have ne : k ≠ m.1 := fun same => fresh (same ▸ mem)
      have behind := values k (List.mem_cons_of_mem _ mem)
      rwa [get?_cons, get?_cons, key, if_neg ne, if_neg ne] at behind

/-- Whether members come from others by setting these keys in turn: those that were there keep their
places, those that were not follow at the end, and nothing else is changed. -/
structure Overlays (set : List String) (before after : Members) : Prop where
  keys_eq : keys after = keys before ++ set.filter (· ∉ keys before)
  kept : ∀ key, key ∉ set → get? key after = get? key before

namespace Overlays

variable {set : List String} {before after : Members}

theorem refl (members : Members) : Overlays [] members members :=
  ⟨by simp, fun _ _ => rfl⟩

theorem mem_keys (laid : Overlays set before after) (new : key ∉ set) :
    key ∈ keys after ↔ key ∈ keys before := by
  rw [laid.keys_eq, List.mem_append, List.mem_filter]
  simp [new]

theorem insert (laid : Overlays set before after) (new : key ∉ set) (v : Value) :
    Overlays (set ++ [key]) before (insert key v after) where
  keys_eq := by
    rw [keys_insert, List.filter_append, ← List.append_assoc, ← laid.keys_eq]
    by_cases there : key ∈ keys before <;> simp [laid.mem_keys new, there]
  kept other away := by
    rw [List.mem_append, not_or, List.mem_singleton] at away
    rw [get?_insert, if_neg away.2, laid.kept other away.1]

theorem nodup_keys (laid : Overlays set before after) (distinct : (keys before).Nodup)
    (apart : set.Nodup) : (keys after).Nodup := by
  rw [laid.keys_eq]
  refine distinct.append (apart.filter _) fun key mem added => ?_
  exact absurd mem (by simpa using (List.mem_filter.1 added).2)

/-- Setting keys again, from what they were set in before, is as good as setting them once. -/
theorem eq_of_again {again once : Members} (laid : Overlays set before after)
    (more : Overlays set after again) (direct : Overlays set before once)
    (distinct : (keys before).Nodup) (apart : set.Nodup)
    (same : ∀ key ∈ set, get? key again = get? key once) : again = once := by
  refine eq_of_keys (direct.nodup_keys distinct apart) ?_ fun key _ => ?_
  · have present : ∀ key ∈ set, key ∈ keys after := by
      intro key mem
      rw [laid.keys_eq, List.mem_append, List.mem_filter]
      by_cases there : key ∈ keys before <;> simp [there, mem]
    have nothing : set.filter (· ∉ keys after) = [] := by
      simpa [List.filter_eq_nil_iff] using present
    rw [more.keys_eq, nothing, List.append_nil, laid.keys_eq, direct.keys_eq]
  · by_cases mem : key ∈ set
    · exact same key mem
    · rw [more.kept key mem, laid.kept key mem, direct.kept key mem]

end Overlays

end Json.Members

namespace Config

open Json (Value Members)

/-- Whether these are the compiler options of members: those of the object of that name, or none if
there is no such object. -/
inductive HasOptions (members : Members) : Members → Prop where
  | given {options : Members}
      (there : Members.get? "compilerOptions" members = some (.object options)) :
      HasOptions members options
  | missing (absent : ∀ options, Members.get? "compilerOptions" members ≠ some (.object options)) :
      HasOptions members []

theorem hasOptions_compilerOptions (members : Members) :
    HasOptions members (compilerOptions members) := by
  unfold compilerOptions
  split
  · next options there => exact .given there
  · next other => exact .missing other

theorem compilerOptions_of_get? {members options : Members}
    (there : Members.get? "compilerOptions" members = some (.object options)) :
    compilerOptions members = options := by
  simp [compilerOptions, there]

section

variable (members : Members) (files : List String)

theorem overlays_deriveMembers :
    Members.Overlays ["compilerOptions", "files", "include"] members (deriveMembers members files) :=
  (((Members.Overlays.refl members).insert (by simp) _).insert (by simp) _).insert (by simp) _

theorem get?_compilerOptions_derived :
    Members.get? "compilerOptions" (deriveMembers members files) =
      some (.object (Members.insert "skipLibCheck" (.bool true) (compilerOptions members))) := by
  simp [deriveMembers, Members.get?_insert]

theorem get?_files_derived :
    Members.get? "files" (deriveMembers members files) = some (.array (files.map .string)) := by
  simp [deriveMembers, Members.get?_insert]

theorem get?_include_derived :
    Members.get? "include" (deriveMembers members files) = some (.array []) := by
  simp [deriveMembers, Members.get?_insert]

end

/-- A later derivation absorbs an earlier one. -/
theorem deriveMembers_deriveMembers {members : Members} (distinct : (Members.keys members).Nodup)
    (files files' : List String) :
    deriveMembers (deriveMembers members files) files' = deriveMembers members files' := by
  refine (overlays_deriveMembers members files).eq_of_again (overlays_deriveMembers _ files')
    (overlays_deriveMembers members files') distinct (by simp) fun key mem => ?_
  have options : compilerOptions (deriveMembers members files) =
      Members.insert "skipLibCheck" (.bool true) (compilerOptions members) :=
    compilerOptions_of_get? (get?_compilerOptions_derived members files)
  obtain rfl | rfl | rfl : key = "compilerOptions" ∨ key = "files" ∨ key = "include" := by
    simpa using mem
  · rw [get?_compilerOptions_derived, get?_compilerOptions_derived, options, Members.insert_insert]
  · rw [get?_files_derived, get?_files_derived]
  · rw [get?_include_derived, get?_include_derived]

/-- Deriving sets what it must and nothing else, at both levels, and absorbs earlier derivations. The
config that it starts from is a value, which stays as it is. -/
theorem derive_overlays {path : Path} {text : String} {config : Config}
    (accepted : parse path text = .ok config) (targets : List String) (declarations : List Path) :
    let derived := config.derive targets declarations
    (Members.keys derived).Nodup ∧
    Members.Overlays ["compilerOptions", "files", "include"] config.members derived ∧
    Members.get? "files" derived = some (.array (targets.map .string ++
      declarations.map fun declaration => .string declaration.text)) ∧
    Members.get? "include" derived = some (.array []) ∧
    (∃ options options', HasOptions config.members options ∧
      Members.get? "compilerOptions" derived = some (.object options') ∧
      Members.Overlays ["skipLibCheck"] options options' ∧
      Members.get? "skipLibCheck" options' = some (.bool true)) ∧
    ∀ path' targets' declarations',
      (⟨path', derived⟩ : Config).derive targets' declarations' =
        config.derive targets' declarations' := by
  intro derived
  have distinct := (Value.distinct_object_iff.1 (accepted_members accepted).1).1
  have laid : Members.Overlays ["compilerOptions", "files", "include"] config.members derived :=
    overlays_deriveMembers _ _
  refine ⟨laid.nodup_keys distinct (by simp), laid, ?_, get?_include_derived _ _, ?_, ?_⟩
  · refine (get?_files_derived _ _).trans ?_
    rw [List.map_append, List.map_map]
    rfl
  · exact ⟨_, _, hasOptions_compilerOptions config.members, get?_compilerOptions_derived _ _,
      (Members.Overlays.refl _).insert (by simp) _, by simp [Members.get?_insert]⟩
  · intro path' targets' declarations'
    exact deriveMembers_deriveMembers distinct _ _

/-- A list of files that is none, and an option that is set to the contrary. -/
theorem derive_overlays_contrary :
    let members : Members := [("files", .null), ("compilerOptions", .object
      [("skipLibCheck", .bool false), ("a", .number (.whole 1 (by decide)))])]
    let config : Config := ⟨⟨"tsconfig.json"⟩, members⟩
    let derived := config.derive ["a.ts", "a.ts"] [⟨"/w/b.d.ts"⟩]
    parse ⟨"tsconfig.json"⟩
        "\x7b\"files\":null,\"compilerOptions\":\x7b\"skipLibCheck\":false,\"a\":1\x7d\x7d" =
      .ok config ∧
    Members.keys derived = ["files", "compilerOptions", "include"] ∧
    Members.get? "files" derived =
      some (.array [.string "a.ts", .string "a.ts", .string "/w/b.d.ts"]) ∧
    (⟨⟨"other.json"⟩, derived⟩ : Config).derive [] [] = config.derive [] [] := by
  intro members config derived
  have strict : strictText
      "\x7b\"files\":null,\"compilerOptions\":\x7b\"skipLibCheck\":false,\"a\":1\x7d\x7d" =
      ['{', '"', 'f', 'i', 'l', 'e', 's', '"', ':', 'n', 'u', 'l', 'l', ',', '"', 'c', 'o', 'm', 'p', 'i', 'l',
        'e', 'r', 'O', 'p', 't', 'i', 'o', 'n', 's', '"', ':', '{', '"', 's', 'k', 'i', 'p', 'L', 'i', 'b',
        'C', 'h', 'e', 'c', 'k', '"', ':', 'f', 'a', 'l', 's', 'e', ',', '"', 'a', '"', ':', '1', '}', '}'] := by
    rfl
  have accepted : parse ⟨"tsconfig.json"⟩
      "\x7b\"files\":null,\"compilerOptions\":\x7b\"skipLibCheck\":false,\"a\":1\x7d\x7d" =
      .ok config := by
    refine parse_eq_ok_iff.2 ⟨rfl, ?_⟩
    rw [strict]
    rfl
  obtain ⟨-, laid, files, -, -, absorbed⟩ :=
    derive_overlays accepted ["a.ts", "a.ts"] [⟨"/w/b.d.ts"⟩]
  have keys : Members.keys config.members = ["files", "compilerOptions"] := rfl
  refine ⟨accepted, ?_, files, absorbed ⟨"other.json"⟩ [] []⟩
  rw [laid.keys_eq, keys]
  decide

end Config

end ScopedCheck
