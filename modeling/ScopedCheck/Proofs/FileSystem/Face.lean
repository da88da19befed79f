import ScopedCheck.Proofs.FileSystem.Removal

namespace ScopedCheck.Node

/-- A node without what is inside of it. -/
def face : Node → Node
  | directory _ mode => directory [] mode
  | node => node

/-- What can be seen at a place. -/
def faceAt? (root : Node) (place : Place) : Option Node :=
  (root.at? place).map face

theorem face_of_leaf {node : Node} (leaf : node.isDirectory = false) : node.face = node := by
  cases node with
  | directory entries mode => simp [isDirectory] at leaf
  | _ => rfl

theorem at?_of_leaf {node : Node} (leaf : node.isDirectory = false) {place : Place}
    (below : place ≠ []) : node.at? place = none := by
  obtain ⟨name, rest, rfl⟩ := List.exists_cons_of_ne_nil below
  cases node with
  | directory entries mode => simp [isDirectory] at leaf
  | _ => rfl

theorem faceAt?_directory_iff {root : Node} {place : Place} {mode : Nat} :
    root.faceAt? place = some (.directory [] mode) ↔
      ∃ entries, root.at? place = some (.directory entries mode) := by
  unfold faceAt?
  cases root.at? place with
  | none => simp
  | some node => cases node <;> simp [face]

theorem faceAt?_file_iff {root : Node} {place : Place} {content : Utf8.Bytes}
    {attributes : Attributes} :
    root.faceAt? place = some (.file content attributes) ↔
      root.at? place = some (.file content attributes) := by
  unfold faceAt?
  cases root.at? place with
  | none => simp
  | some node => cases node <;> simp [face]

theorem isSome_faceAt? (root : Node) (place : Place) :
    (root.faceAt? place).isSome = (root.at? place).isSome := by
  simp [faceAt?]

theorem isSome_at?_of_faceAt? {root node : Node} {place : Place}
    (seen : root.faceAt? place = some node) : (root.at? place).isSome := by
  rw [← isSome_faceAt?, seen]
  rfl

theorem get?_insert (name other : String) (node : Node) (entries : Entries) :
    Entries.get? other (Entries.insert name node entries) =
      if other = name then some node else Entries.get? other entries := by
  induction entries with
  | nil => by_cases h : other = name <;> simp [Entries.insert, get?_cons, h]
  | cons entry entries ih =>
    by_cases hk : entry.1 = name
    · subst hk
      by_cases h : other = entry.1 <;> simp [Entries.insert, get?_cons, h]
    · by_cases h : other = name
      · have other' : other ≠ entry.1 := by rw [h]; exact fun same => hk same.symm
        rw [Entries.insert, if_neg hk, get?_cons, if_neg other', ih, if_pos h, if_pos h]
      · rw [Entries.insert, if_neg hk, get?_cons, ih, get?_cons, if_neg h]
        simp [h]

/-- Below the directory whose entries are changed one finds what was changed. -/
theorem at?_alter (change : Entries → Entries) (holder rest : Place) (root : Node) :
    (root.alter change holder).at? (holder ++ rest) =
      (root.at? holder).bind fun node => (node.alter change []).at? rest := by
  induction holder generalizing root with
  | nil => rfl
  | cons step holder ih =>
    cases root with
    | directory entries mode =>
      simp only [alter, List.cons_append, at?, get?_map]
      cases found : Entries.get? step entries with
      | none => rfl
      | some node => simpa using ih node
    | file content attributes => rfl
    | link target => rfl

theorem faceAt?_alter_apart (change : Entries → Entries) {holder place : Place}
    (apart : ¬holder <+: place) (root : Node) :
    (root.alter change holder).faceAt? place = root.faceAt? place := by
  induction holder generalizing root place with
  | nil => exact absurd ⟨place, rfl⟩ apart
  | cons step holder ih =>
    cases root with
    | directory entries mode =>
      cases place with
      | nil => rfl
      | cons first rest =>
        simp only [faceAt?, alter, at?, get?_map]
        cases found : Entries.get? first entries with
        | none => rfl
        | some node =>
          by_cases hf : first = step
          · subst hf
            have apart' : ¬holder <+: rest := by
              intro shared
              exact apart (List.cons_prefix_cons.2 ⟨rfl, shared⟩)
            simpa [faceAt?] using ih apart' node
          · simp [hf]
    | file content attributes => rfl
    | link target => rfl

/-- Directories whose entries differ under one name only look the same but there. -/
theorem faceAt?_directory {entries entries' : Entries} {mode : Nat} {name : String}
    (other : ∀ key, key ≠ name → Entries.get? key entries' = Entries.get? key entries)
    (leaf : ∀ node, Entries.get? name entries = some node → node.isDirectory = false)
    (leaf' : ∀ node, Entries.get? name entries' = some node → node.isDirectory = false)
    (place : Place) :
    (directory entries' mode).faceAt? place =
      if place = [name] then Entries.get? name entries' else (directory entries mode).faceAt? place := by
  cases place with
  | nil => rfl
  | cons first more =>
    by_cases hf : first = name
    · subst hf
      cases more with
      | nil =>
        simp only [faceAt?, at?, if_true]
        cases found : Entries.get? first entries' with
        | none => rfl
        | some node => simpa [at?] using face_of_leaf (leaf' node found)
      | cons second more =>
        rw [if_neg (by simp)]
        simp only [faceAt?, at?]
        cases found : Entries.get? first entries <;>
          cases found' : Entries.get? first entries' <;>
          simp_all [at?_of_leaf]
    · rw [if_neg (by simp [hf])]
      simp only [faceAt?, at?, other first hf]

/-- A change of the entries that shows under one name only is seen at one place only. -/
theorem faceAt?_alter {root : Node} {holder : Place} {entries : Entries} {mode : Nat}
    (there : root.at? holder = some (.directory entries mode)) {name : String}
    {change : Entries → Entries}
    (other : ∀ key, key ≠ name → Entries.get? key (change entries) = Entries.get? key entries)
    (leaf : ∀ node, Entries.get? name entries = some node → node.isDirectory = false)
    (leaf' : ∀ node, Entries.get? name (change entries) = some node → node.isDirectory = false)
    (place : Place) :
    (root.alter change holder).faceAt? place =
      if place = holder ++ [name] then Entries.get? name (change entries)
      else root.faceAt? place := by
  by_cases shared : holder <+: place
  · obtain ⟨rest, rfl⟩ := shared
    have after : (root.alter change holder).faceAt? (holder ++ rest) =
        (directory (change entries) mode).faceAt? rest := by
      rw [faceAt?, at?_alter, there]
      rfl
    have before : root.faceAt? (holder ++ rest) = (directory entries mode).faceAt? rest := by
      rw [faceAt?, at?_append, there]
      rfl
    simp only [after, before, faceAt?_directory other leaf leaf' rest, List.append_cancel_left_eq]
  · have ne : place ≠ holder ++ [name] := by
      rintro rfl
      exact shared (List.prefix_append _ _)
    rw [faceAt?_alter_apart change shared, if_neg ne]

theorem faceAt?_alter_insert {root : Node} {holder : Place} {entries : Entries} {mode : Nat}
    (there : root.at? holder = some (.directory entries mode)) {name : String} {node : Node}
    (leaf : ∀ old, Entries.get? name entries = some old → old.isDirectory = false)
    (leaf' : node.isDirectory = false) (place : Place) :
    (root.alter (Entries.insert name node) holder).faceAt? place =
      if place = holder ++ [name] then some node else root.faceAt? place := by
  have inserted := get?_insert name name node entries
  rw [if_pos rfl] at inserted
  rw [faceAt?_alter there (fun key ne => by rw [get?_insert, if_neg ne]) leaf
    (fun node' found => by rw [inserted] at found; rwa [← Option.some.inj found]) place, inserted]

theorem faceAt?_alter_erase {root : Node} {holder : Place} {entries : Entries} {mode : Nat}
    (there : root.at? holder = some (.directory entries mode)) {name : String}
    (leaf : ∀ old, Entries.get? name entries = some old → old.isDirectory = false) (place : Place) :
    (root.alter (Entries.erase name) holder).faceAt? place =
      if place = holder ++ [name] then none else root.faceAt? place := by
  have erased := get?_erase name name entries
  rw [if_pos rfl] at erased
  rw [faceAt?_alter there (fun key ne => by rw [get?_erase, if_neg ne]) leaf
    (fun node' found => by simp [erased] at found) place, erased]

theorem alter_alter (first second : Entries → Entries) (holder : Place) (root : Node) :
    (root.alter first holder).alter second holder = root.alter (second ∘ first) holder := by
  induction holder generalizing root with
  | nil => cases root <;> rfl
  | cons step holder ih =>
    cases root with
    | directory entries mode =>
      simp only [alter, List.map_map, directory.injEq, and_true]
      refine List.map_congr_left fun entry _ => ?_
      by_cases h : entry.1 = step <;> simp [h, ih]
    | file content attributes => rfl
    | link target => rfl

mutual

theorem rewrite_of_lt {identity : Nat} (change : Utf8.Bytes → Attributes → Node) :
    ∀ {node : Node}, node.greatestIdentity < identity → node.rewrite identity change = node
  | file content attributes, less => by
    have ne : attributes.identity ≠ identity := Nat.ne_of_lt (by simpa [greatestIdentity] using less)
    rw [rewrite, if_neg ne]
  | link target, _ => rfl
  | directory entries mode, less => by
    rw [rewrite, rewriteAll_of_lt change (by simpa [greatestIdentity] using less)]

theorem rewriteAll_of_lt {identity : Nat} (change : Utf8.Bytes → Attributes → Node) :
    ∀ {entries : List (String × Node)}, greatestIdentityOf entries < identity →
      rewriteAll identity change entries = entries
  | [], _ => rfl
  | (name, node) :: rest, less => by
    have both : node.greatestIdentity < identity ∧ greatestIdentityOf rest < identity := by
      simpa [greatestIdentityOf] using less
    rw [rewriteAll, rewrite_of_lt change both.1, rewriteAll_of_lt change both.2]

end

theorem greatestIdentity_le_of_get? {name : String} {node : Node} {entries : Entries}
    (found : Entries.get? name entries = some node) :
    node.greatestIdentity ≤ greatestIdentityOf entries := by
  induction entries with
  | nil => simp [Entries.get?] at found
  | cons entry entries ih =>
    rw [get?_cons] at found
    rw [greatestIdentityOf]
    split_ifs at found with h
    · obtain rfl := Option.some.inj found
      exact Nat.le_max_left _ _
    · exact (ih found).trans (Nat.le_max_right _ _)

theorem identity_le_greatestIdentity {root : Node} {place : Place} {content : Utf8.Bytes}
    {attributes : Attributes} (there : root.at? place = some (.file content attributes)) :
    attributes.identity ≤ root.greatestIdentity := by
  induction place generalizing root with
  | nil =>
    obtain rfl := Option.some.inj there
    exact Nat.le_refl _
  | cons name rest ih =>
    cases root with
    | directory entries mode =>
      simp only [at?] at there
      cases found : Entries.get? name entries with
      | none => simp [found] at there
      | some node =>
        rw [found] at there
        exact (ih there).trans (greatestIdentity_le_of_get? found)
    | file content attributes => simp [at?] at there
    | link target => simp [at?] at there

theorem get?_rewriteAll (identity : Nat) (change : Utf8.Bytes → Attributes → Node) (name : String)
    (entries : Entries) :
    Entries.get? name (rewriteAll identity change entries) =
      (Entries.get? name entries).map (rewrite identity change) := by
  induction entries with
  | nil => rfl
  | cons entry entries ih =>
    obtain ⟨key, node⟩ := entry
    rw [rewriteAll, get?_cons, get?_cons, ih]
    split_ifs <;> rfl

theorem isDirectory_rewrite (identity : Nat) {change : Utf8.Bytes → Attributes → Node}
    (leaf : ∀ content attributes, (change content attributes).isDirectory = false)
    (content : Utf8.Bytes) (attributes : Attributes) :
    ((file content attributes).rewrite identity change).isDirectory = false := by
  rw [rewrite]
  split_ifs
  · exact leaf content attributes
  · rfl

/-- A file that is rewritten is seen so at all of its places. -/
theorem faceAt?_rewrite {identity : Nat} {change : Utf8.Bytes → Attributes → Node}
    (leaf : ∀ content attributes, (change content attributes).isDirectory = false) (root : Node)
    (place : Place) :
    (root.rewrite identity change).faceAt? place =
      (root.faceAt? place).map (rewrite identity change) := by
  induction place generalizing root with
  | nil =>
    cases root with
    | file content attributes =>
      have same := face_of_leaf (isDirectory_rewrite identity leaf content attributes)
      exact congrArg some same
    | link target => rfl
    | directory entries mode => rfl
  | cons name rest ih =>
    cases root with
    | file content attributes =>
      have leaf' := isDirectory_rewrite identity leaf content attributes
      rw [faceAt?, at?_of_leaf leaf' (by simp)]
      rfl
    | link target => rfl
    | directory entries mode =>
      simp only [faceAt?, rewrite, at?, get?_rewriteAll]
      cases found : Entries.get? name entries with
      | none => rfl
      | some node => simpa [faceAt?] using ih node

theorem rewriteAll_insert (identity : Nat) (change : Utf8.Bytes → Attributes → Node) (name : String)
    (node : Node) (entries : Entries) :
    rewriteAll identity change (Entries.insert name node entries) =
      Entries.insert name (node.rewrite identity change) (rewriteAll identity change entries) := by
  induction entries with
  | nil => rfl
  | cons entry entries ih =>
    obtain ⟨key, old⟩ := entry
    by_cases h : key = name
    · simp [Entries.insert, rewriteAll, h]
    · simp [Entries.insert, rewriteAll, h, ih]

theorem rewriteAll_map {identity : Nat} {change : Utf8.Bytes → Attributes → Node} {step : String}
    {inner inner' : Node → Node}
    (commutes : ∀ node, (inner node).rewrite identity change = inner' (node.rewrite identity change))
    (entries : Entries) :
    rewriteAll identity change (entries.map fun entry =>
        if entry.1 = step then (step, inner entry.2) else entry) =
      (rewriteAll identity change entries).map fun entry =>
        if entry.1 = step then (step, inner' entry.2) else entry := by
  induction entries with
  | nil => rfl
  | cons entry entries ih =>
    obtain ⟨key, node⟩ := entry
    by_cases h : key = step <;> simp [rewriteAll, h, commutes, ih]

theorem alter_of_leaf {node : Node} (leaf : node.isDirectory = false) (change : Entries → Entries)
    (holder : Place) : node.alter change holder = node := by
  cases node with
  | directory entries mode => simp [isDirectory] at leaf
  | _ => cases holder <;> rfl

/-- A file that is added is rewritten like those beside it. -/
theorem rewrite_alter_insert {identity : Nat} {change : Utf8.Bytes → Attributes → Node}
    (leaf : ∀ content attributes, (change content attributes).isDirectory = false) (name : String)
    (node : Node) (holder : Place) (root : Node) :
    (root.alter (Entries.insert name node) holder).rewrite identity change =
      (root.rewrite identity change).alter
        (Entries.insert name (node.rewrite identity change)) holder := by
  have ofFile (content : Utf8.Bytes) (attributes : Attributes) (holder : Place) :
      ((file content attributes).alter (Entries.insert name node) holder).rewrite identity change =
        ((file content attributes).rewrite identity change).alter
          (Entries.insert name (node.rewrite identity change)) holder := by
    rw [alter_of_leaf rfl, alter_of_leaf (isDirectory_rewrite identity leaf content attributes)]
  induction holder generalizing root with
  | nil =>
    cases root with
    | file content attributes => exact ofFile content attributes []
    | link target => rfl
    | directory entries mode => simp only [alter, rewrite, rewriteAll_insert]
  | cons step holder ih =>
    cases root with
    | file content attributes => exact ofFile content attributes (step :: holder)
    | link target => rfl
    | directory entries mode =>
      simp only [alter, rewrite]
      rw [rewriteAll_map ih]

/-- Whether an entry can have a name. -/
def IsName (name : String) : Prop :=
  name ≠ "" ∧ name ≠ "." ∧ name ≠ ".." ∧ '/' ∉ name.toList

/-- Whether every directory has proper names, each of them once. -/
inductive WellFormed : Node → Prop where
  | file (content : Utf8.Bytes) (attributes : Attributes) : WellFormed (.file content attributes)
  | link (target : Path) : WellFormed (.link target)
  | directory {entries : Entries} (mode : Nat) (distinct : (entries.map Prod.fst).Nodup)
      (named : ∀ entry ∈ entries, IsName entry.1) (below : ∀ entry ∈ entries, entry.2.WellFormed) :
      WellFormed (.directory entries mode)

theorem WellFormed.distinct {entries : Entries} {mode : Nat}
    (wellFormed : (Node.directory entries mode).WellFormed) : (entries.map Prod.fst).Nodup := by
  cases wellFormed with
  | directory mode distinct named below => exact distinct

theorem WellFormed.inside {entries : Entries} {mode : Nat}
    (wellFormed : (Node.directory entries mode).WellFormed) : ∀ entry ∈ entries, entry.2.WellFormed := by
  cases wellFormed with
  | directory mode distinct named below => exact below

theorem mem_of_get? {name : String} {node : Node} {entries : Entries}
    (found : Entries.get? name entries = some node) : (name, node) ∈ entries := by
  obtain ⟨before, after, split, -⟩ := List.lookup_eq_some_iff.1 found
  simp [split]

theorem get?_of_mem {entries : Entries} (distinct : (entries.map Prod.fst).Nodup) {entry : String × Node}
    (mem : entry ∈ entries) : Entries.get? entry.1 entries = some entry.2 := by
  induction entries with
  | nil => simp at mem
  | cons first rest ih =>
    rw [List.map_cons, List.nodup_cons] at distinct
    obtain ⟨fresh, distinct'⟩ := distinct
    rw [get?_cons]
    obtain rfl | mem := List.mem_cons.1 mem
    · rw [if_pos rfl]
    · have other : entry.1 ≠ first.1 := by
        intro same
        apply fresh
        rw [← same]
        exact List.mem_map_of_mem mem
      rw [if_neg other, ih distinct' mem]

theorem WellFormed.at? {root node : Node} (wellFormed : root.WellFormed) {place : Place}
    (there : root.at? place = some node) :
    node.WellFormed ∧ ∀ name ∈ place, IsName name := by
  induction place generalizing root with
  | nil =>
    obtain rfl := Option.some.inj there
    exact ⟨wellFormed, by simp⟩
  | cons name rest ih =>
    cases wellFormed with
    | file content attributes => simp [Node.at?] at there
    | link target => simp [Node.at?] at there
    | @directory entries mode distinct named below =>
      simp only [Node.at?] at there
      cases found : Entries.get? name entries with
      | none => simp [found] at there
      | some next =>
        rw [found] at there
        have mem := mem_of_get? found
        obtain ⟨wellFormed', names⟩ := ih (below _ mem) there
        exact ⟨wellFormed', List.forall_mem_cons.2 ⟨named _ mem, names⟩⟩

/-- A change that does nothing to the entries of a directory does nothing to the tree. -/
theorem WellFormed.alter_eq_self {root : Node} (wellFormed : root.WellFormed)
    {change : Entries → Entries} {holder : Place} {entries : Entries} {mode : Nat}
    (there : root.at? holder = some (.directory entries mode)) (same : change entries = entries) :
    root.alter change holder = root := by
  induction holder generalizing root with
  | nil =>
    obtain rfl := Option.some.inj there
    rw [alter, same]
  | cons step holder ih =>
    cases wellFormed with
    | file content attributes => rfl
    | link target => rfl
    | @directory siblings mode' distinct named below =>
      simp only [Node.at?] at there
      cases found : Entries.get? step siblings with
      | none => simp [found] at there
      | some next =>
        rw [found] at there
        have mem := mem_of_get? found
        have inner := ih (below _ mem) there
        simp only [alter, Node.directory.injEq, and_true]
        refine (List.map_congr_left fun entry h => ?_).trans (List.map_id _)
        split_ifs with named'
        · -- There is one entry of this name only, the one that leads on.
          have only : entry = (step, next) :=
            List.inj_on_of_nodup_map distinct h mem named'
          simp [only, inner]
        · rfl

end ScopedCheck.Node
