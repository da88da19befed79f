import ScopedCheck.Proofs.FileSystem.Face

namespace ScopedCheck.Node

/-- Whether two trees only differ in the order in which their directories list their entries. -/
inductive Relisted : Node → Node → Prop where
  | refl (node : Node) : Relisted node node
  | trans {node node' node'' : Node} (first : Relisted node node') (second : Relisted node' node'') :
      Relisted node node''
  | order {entries entries' : Entries} (mode : Nat) (perm : entries.Perm entries') :
      Relisted (.directory entries mode) (.directory entries' mode)
  | inside (before after : Entries) (name : String) (mode : Nat) {node node' : Node}
      (relisted : Relisted node node') : Relisted (.directory (before ++ (name, node) :: after) mode)
        (.directory (before ++ (name, node') :: after) mode)

theorem faceAt?_cons (entries : Entries) (mode : Nat) (name : String) (place : Place) :
    (Node.directory entries mode).faceAt? (name :: place) =
      (Entries.get? name entries).bind fun node => node.faceAt? place := by
  cases found : Entries.get? name entries <;> simp [faceAt?, at?, found]

theorem get?_eq_some_iff {entries : Entries} (distinct : (entries.map Prod.fst).Nodup) {name : String}
    {node : Node} : Entries.get? name entries = some node ↔ (name, node) ∈ entries := by
  constructor
  · exact mem_of_get?
  · intro mem
    exact get?_of_mem distinct mem

theorem get?_perm {entries entries' : Entries} (distinct : (entries.map Prod.fst).Nodup)
    (perm : entries.Perm entries') (name : String) :
    Entries.get? name entries = Entries.get? name entries' := by
  have distinct' : (entries'.map Prod.fst).Nodup := (perm.map Prod.fst).nodup_iff.1 distinct
  apply Option.ext
  intro node
  rw [get?_eq_some_iff distinct, get?_eq_some_iff distinct', perm.mem_iff]

theorem get?_append (before after : Entries) (name : String) : Entries.get? name (before ++ after) =
    (Entries.get? name before).or (Entries.get? name after) :=
  List.lookup_append

/-- The same can be seen in both trees. -/
theorem Relisted.faceAt? {node node' : Node} (relisted : Relisted node node')
    (wellFormed : node.WellFormed) :
    node'.WellFormed ∧ ∀ place, node.faceAt? place = node'.faceAt? place := by
  induction relisted with
  | refl node => exact ⟨wellFormed, fun place => rfl⟩
  | trans _ _ ih ih' =>
    obtain ⟨wellFormed', same⟩ := ih wellFormed
    obtain ⟨wellFormed'', same'⟩ := ih' wellFormed'
    exact ⟨wellFormed'', fun place => (same place).trans (same' place)⟩
  | order mode perm =>
    cases wellFormed with
    | directory mode distinct named below =>
      constructor
      · apply WellFormed.directory mode
        · exact (perm.map Prod.fst).nodup_iff.1 distinct
        · intro entry mem
          exact named entry (perm.mem_iff.2 mem)
        · intro entry mem
          exact below entry (perm.mem_iff.2 mem)
      · intro place
        cases place with
        | nil => rfl
        | cons name rest => rw [faceAt?_cons, faceAt?_cons, get?_perm distinct perm]
  | inside before after name mode _ ih =>
    cases wellFormed with
    | directory mode distinct named below =>
      simp only [List.forall_mem_append, List.forall_mem_cons] at named below
      obtain ⟨wellFormed', same⟩ := ih below.2.1
      constructor
      · apply WellFormed.directory mode
        · simpa using distinct
        · simp only [List.forall_mem_append, List.forall_mem_cons]
          exact named
        · simp only [List.forall_mem_append, List.forall_mem_cons]
          exact ⟨below.1, wellFormed', below.2.2⟩
      · intro place
        cases place with
        | nil => rfl
        | cons other rest =>
          rw [faceAt?_cons, faceAt?_cons, get?_append, get?_append, get?_cons, get?_cons]
          cases Entries.get? other before with
          | some found => rfl
          | none =>
            by_cases this_one : other = name
            · simp [this_one, same rest]
            · simp [this_one]

end ScopedCheck.Node
