import Mathlib.Tactic
import ScopedCheck.Declarations
import ScopedCheck.Proofs.FileSystem.Face
import ScopedCheck.Proofs.Text.Utf8

namespace ScopedCheck.Declarations

/-- The names on the way to a place, as bytes. Places are compared by these, name by name. -/
def key (place : Place) : List Utf8.Bytes :=
  place.map Utf8.encode

theorem nameLe_trans (a b c : String) (h : nameLe a b) (h' : nameLe b c) : nameLe a c := by
  simp only [nameLe, decide_eq_true_eq] at h h' ⊢
  exact List.le_trans h h'

theorem nameLe_total (a b : String) : nameLe a b || nameLe b a := by
  simp only [nameLe, Bool.or_eq_true, decide_eq_true_eq]
  exact List.le_total _ _

/-- The entries of a directory in the order of their names. -/
def inOrder (entries : Entries) : Entries :=
  entries.mergeSort fun a b => nameLe a.1 b.1

theorem perm_inOrder (entries : Entries) : (inOrder entries).Perm entries :=
  List.mergeSort_perm _ _

theorem pairwise_inOrder {entries : Entries} (distinct : (entries.map Prod.fst).Nodup) :
    (inOrder entries).Pairwise fun a b => Utf8.encode a.1 < Utf8.encode b.1 := by
  have sorted : (inOrder entries).Pairwise fun a b => nameLe a.1 b.1 := by
    apply List.pairwise_mergeSort
    · intro a b c
      exact nameLe_trans a.1 b.1 c.1
    · intro a b
      exact nameLe_total a.1 b.1
  have apart : (inOrder entries).Pairwise fun a b => a.1 ≠ b.1 := by
    have names : ((inOrder entries).map Prod.fst).Nodup :=
      ((perm_inOrder entries).map Prod.fst).nodup_iff.2 distinct
    exact List.pairwise_map.1 names
  refine (sorted.and apart).imp ?_
  intro a b h
  obtain ⟨le, ne⟩ := h
  have le' : Utf8.encode a.1 ≤ Utf8.encode b.1 := by simpa [nameLe] using le
  have ne' : Utf8.encode a.1 ≠ Utf8.encode b.1 := fun same => ne (Utf8.encode_injective same)
  exact Std.lt_of_le_of_ne le' ne'

/-- Whether a place in a tree is that of a declaration: no directory, named like one, and in no
directory of packages. -/
def IsDeclared (tree : Node) (place : Place) : Prop :=
  ∃ node name, tree.at? place = some node ∧ node.isDirectory = false ∧ place.getLast? = some name ∧
    isDeclaration name ∧ packageDirectory ∉ place.dropLast

/-- The path of a place below a path. -/
def descend (path : Path) (place : Place) : Path :=
  place.foldl Path.child path

/-- Whether a directory can be read by its path: this is not too long, and the directories allow it to
those who own some of the places. -/
structure Opens (path : Path) (owned : Place → Bool) (tree : Node) (place : Place) : Prop where
  short : (descend path place).isTooLong = false
  read : ∀ node, tree.at? place = some node → node.allows (owned place) .read
  enter : ∀ holder name node, place = holder ++ [name] → tree.at? holder = some node →
    node.allows (owned holder) .enter

/-- Whether every directory at and below a path can be read, but for those of packages. -/
def Readable (path : Path) (owned : Place → Bool) (tree : Node) : Prop :=
  ∀ place entries mode, packageDirectory ∉ place →
    tree.at? place = some (.directory entries mode) → Opens path owned tree place

/-- Whether exactly these places below a path were found, in their order. -/
def Finds (path : Path) (wanted : Place → Prop) (found : Except Failure (List Path)) : Prop :=
  ∃ places : List Place, found = .ok (places.map (descend path)) ∧
    (∀ place, place ∈ places ↔ wanted place) ∧ places.Pairwise fun p q => key p < key q

theorem not_isDeclared_nil (tree : Node) : ¬IsDeclared tree [] := by
  rintro ⟨node, name, -, -, last, -⟩
  simp at last

/-- What is wanted of an entry: itself, or what is declared inside of it. -/
def Wanted (name : String) (node : Node) (place : Place) : Prop :=
  (place = [] ∧ node.isDirectory = false ∧ isDeclaration name) ∨
    (name ≠ packageDirectory ∧ IsDeclared node place)

theorem isDeclared_cons_iff {entries : Entries} {mode : Nat} {name : String} {node : Node} {place : Place}
    (there : Entries.get? name entries = some node) :
    IsDeclared (.directory entries mode) (name :: place) ↔ Wanted name node place := by
  have inside : (Node.directory entries mode).at? (name :: place) = node.at? place := by
    simp [Node.at?, there]
  cases place with
  | nil =>
    constructor
    · rintro ⟨found, last, seen, leaf, same, declared, -⟩
      rw [inside] at seen
      obtain rfl : node = found := Option.some.inj seen
      obtain rfl : name = last := Option.some.inj same
      exact .inl ⟨rfl, leaf, declared⟩
    · rintro (⟨-, leaf, declared⟩ | ⟨-, below⟩)
      · exact ⟨node, name, inside, leaf, rfl, declared, by simp⟩
      · exact absurd below (not_isDeclared_nil node)
  | cons next rest =>
    have last : (name :: next :: rest).getLast? = (next :: rest).getLast? := List.getLast?_cons_cons
    constructor
    · rintro ⟨found, declaration, seen, leaf, same, declared, outside⟩
      rw [inside] at seen
      rw [last] at same
      simp only [List.dropLast_cons_cons, List.mem_cons, not_or] at outside
      exact .inr ⟨Ne.symm outside.1, found, declaration, seen, leaf, same, declared, outside.2⟩
    · rintro (⟨nothing, -⟩ | ⟨other, found, declaration, seen, leaf, same, declared, outside⟩)
      · simp at nothing
      · refine ⟨found, declaration, inside.trans seen, leaf, last.trans same, declared, ?_⟩
        simp only [List.dropLast_cons_cons, List.mem_cons, not_or]
        exact ⟨Ne.symm other, outside⟩

/-- What the search gives for an entry of a directory. -/
def belowEntry (directory : Path) (owned : Place → Bool) (reachable : Bool) (entry : String × Node) :
    Except Failure (List Path) :=
  below (directory.child entry.1) (fun place => owned (entry.1 :: place)) reachable entry.1 entry.2

theorem belowEach_eq (directory : Path) (owned : Place → Bool) (reachable : Bool) (entries : Entries) :
    belowEach directory owned reachable entries =
      entries.map fun entry => (entry.1, belowEntry directory owned reachable entry) := by
  induction entries with
  | nil => rfl
  | cons entry rest ih =>
    obtain ⟨name, node⟩ := entry
    rw [belowEach, ih, List.map_cons, belowEntry]

theorem mapM_ok {α β : Type} {f : α → Except Failure β} {g : α → β} {l : List α}
    (each : ∀ a ∈ l, f a = .ok (g a)) : l.mapM f = .ok (l.map g) := by
  induction l with
  | nil => rfl
  | cons a l ih =>
    obtain ⟨first, rest⟩ := List.forall_mem_cons.1 each
    rw [List.mapM_cons, first, ih rest]
    rfl

theorem inNameOrder_map (entries : Entries) (search : String × Node → Except Failure (List Path)) :
    inNameOrder (entries.map fun entry => (entry.1, search entry)) =
      ((inOrder entries).mapM search).map List.flatten := by
  have sorted : (entries.map fun entry => (entry.1, search entry)).mergeSort
      (fun a b => nameLe a.1 b.1) = (inOrder entries).map fun entry => (entry.1, search entry) :=
    (List.map_mergeSort (by intros; rfl)).symm
  have run : Prod.snd ∘ (fun entry => (entry.1, search entry)) = search := rfl
  rw [inNameOrder, sorted, List.mapM_map, run]

/-- When every entry can be searched, what was found is given in the order of the entries' names. -/
theorem inNameOrder_ok {entries : Entries} {search : String × Node → Except Failure (List Path)}
    {found : String × Node → List Path} (each : ∀ entry ∈ entries, search entry = .ok (found entry)) :
    inNameOrder (entries.map fun entry => (entry.1, search entry)) =
      .ok ((inOrder entries).flatMap found) := by
  have all : ∀ entry ∈ inOrder entries, search entry = .ok (found entry) := by
    intro entry mem
    exact each entry ((perm_inOrder entries).mem_iff.1 mem)
  rw [inNameOrder_map, mapM_ok all, List.flatMap_def]
  rfl

theorem finds_directory {path : Path} {owned : Place → Bool} {reachable : Bool} {entries : Entries}
    (mode : Nat) (distinct : (entries.map Prod.fst).Nodup)
    (each : ∀ entry ∈ entries, Finds (path.child entry.1) (Wanted entry.1 entry.2)
      (belowEntry path owned reachable entry)) :
    Finds path (IsDeclared (.directory entries mode))
      (inNameOrder (belowEach path owned reachable entries)) := by
  have some_places : ∀ entry, ∃ places : List Place, entry ∈ entries →
      belowEntry path owned reachable entry = .ok (places.map (descend (path.child entry.1))) ∧
      (∀ place, place ∈ places ↔ Wanted entry.1 entry.2 place) ∧
      places.Pairwise fun p q => key p < key q := by
    intro entry
    by_cases mem : entry ∈ entries
    · obtain ⟨places, h⟩ := each entry mem
      exact ⟨places, fun _ => h⟩
    · exact ⟨[], fun h => absurd h mem⟩
  -- What each entry gives is chosen first, so that the entries can be sorted instead of the results.
  choose places h using some_places
  refine ⟨(inOrder entries).flatMap fun entry => (places entry).map (entry.1 :: ·), ?_, ?_, ?_⟩
  · have found := inNameOrder_ok fun entry mem => (h entry mem).1
    rw [belowEach_eq, found, List.map_flatMap]
    simp only [List.map_map]
    rfl
  · intro place
    simp only [List.mem_flatMap, List.mem_map, (perm_inOrder entries).mem_iff]
    constructor
    · rintro ⟨entry, mem, rest, inside, rfl⟩
      have there := Node.get?_of_mem distinct mem
      exact (isDeclared_cons_iff there).2 (((h entry mem).2.1 rest).1 inside)
    · intro declared
      cases place with
      | nil => exact absurd declared (not_isDeclared_nil _)
      | cons name rest =>
        obtain ⟨node, there⟩ : ∃ node, Entries.get? name entries = some node := by
          obtain ⟨found, last, seen, -⟩ := declared
          cases there : Entries.get? name entries with
          | none => simp [Node.at?, there] at seen
          | some node => exact ⟨node, rfl⟩
        have mem := Node.mem_of_get? there
        have wanted := (isDeclared_cons_iff there).1 declared
        exact ⟨(name, node), mem, rest, ((h (name, node) mem).2.1 rest).2 wanted, rfl⟩
  · rw [List.pairwise_flatMap]
    constructor
    · intro entry mem
      rw [List.pairwise_map]
      refine ((h entry ((perm_inOrder entries).mem_iff.1 mem)).2.2).imp ?_
      intro p q less
      exact List.cons_lt_cons_iff.2 (.inr ⟨rfl, less⟩)
    · refine (pairwise_inOrder distinct).imp ?_
      intro a b less p hp q hq
      obtain ⟨p', -, rfl⟩ := List.mem_map.1 hp
      obtain ⟨q', -, rfl⟩ := List.mem_map.1 hq
      exact List.cons_lt_cons_iff.2 (.inl less)

theorem finds_leaf {path : Path} {name : String} {node : Node} (leaf : node.isDirectory = false) :
    Finds path (Wanted name node) (.ok (if isDeclaration name then [path] else [])) := by
  have nothing (place : Place) : ¬IsDeclared node place := by
    rintro ⟨found, last, seen, -, same, -⟩
    have below : place ≠ [] := by
      rintro rfl
      simp at same
    simp [Node.at?_of_leaf leaf below] at seen
  refine ⟨if isDeclaration name then [[]] else [], ?_, fun place => ?_, ?_⟩
  · split_ifs <;> rfl
  · cases declared : isDeclaration name <;> simp [Wanted, nothing, leaf, declared]
  · split_ifs <;> simp

section Readable

variable {path : Path} {owned : Place → Bool} {entries : Entries} {mode : Nat}

theorem Readable.here (readable : Readable path owned (.directory entries mode)) :
    Opens path owned (.directory entries mode) [] :=
  readable [] entries mode (by simp) rfl

/-- A directory below another one can be read if it can be read from there, and be reached. -/
theorem opens_cons_iff {name : String} {node : Node} (there : Entries.get? name entries = some node)
    (place : Place) : Opens path owned (.directory entries mode) (name :: place) ↔
      Opens (path.child name) (fun place => owned (name :: place)) node place ∧
        (place = [] → (Node.directory entries mode).allows (owned []) .enter) := by
  have inside (place : Place) : (Node.directory entries mode).at? (name :: place) = node.at? place := by
    simp [Node.at?, there]
  constructor
  · intro opens
    refine ⟨⟨opens.short, ?_, ?_⟩, ?_⟩
    · exact fun found seen => opens.read found ((inside place).trans seen)
    · rintro holder last found rfl seen
      exact opens.enter (name :: holder) last found rfl ((inside holder).trans seen)
    · rintro rfl
      exact opens.enter [] name _ rfl rfl
  · rintro ⟨opens, reachable⟩
    refine ⟨opens.short, ?_, ?_⟩
    · exact fun found seen => opens.read found ((inside place).symm.trans seen)
    · intro holder last found split seen
      cases holder with
      | nil =>
        obtain ⟨-, nothing⟩ := List.cons.inj split
        obtain rfl := Option.some.inj seen
        exact reachable nothing
      | cons first holder =>
        obtain ⟨rfl, rest⟩ := List.cons.inj split
        exact opens.enter holder last found rest ((inside holder).symm.trans seen)

theorem Readable.child (readable : Readable path owned (.directory entries mode)) {name : String}
    {node : Node} (there : Entries.get? name entries = some node) (other : name ≠ packageDirectory) :
    Readable (path.child name) (fun place => owned (name :: place)) node := by
  intro place entries' mode' outside seen
  have opens := readable (name :: place) entries' mode' (by simp [Ne.symm other, outside])
    (by simpa [Node.at?, there] using seen)
  exact ((opens_cons_iff there place).1 opens).1

/-- A directory that is searched for more than packages can be entered. -/
theorem Readable.reachable (readable : Readable path owned (.directory entries mode)) {name : String}
    {inside : Entries} {mode' : Nat} (there : Entries.get? name entries = some (.directory inside mode'))
    (other : name ≠ packageDirectory) : (Node.directory entries mode).allows (owned []) .enter := by
  have opens := readable [name] inside mode' (by simpa using Ne.symm other) (by simp [Node.at?, there])
  exact ((opens_cons_iff there []).1 opens).2 rfl

theorem requireListing_ok {reachable : Bool} {directory : Node}
    (short : path.isTooLong = false) (reached : reachable) (read : directory.allows (owned []) .read) :
    requireListing path reachable (owned []) directory = .ok () := by
  simp [requireListing, short, reached, read]

theorem exists_of_requireListing_error {path : Path} {reachable owned : Bool} {directory : Node}
    {failure : Failure} (h : requireListing path reachable owned directory = .error failure) :
    ∃ cause, failure = .directoryUnreadable path cause := by
  unfold requireListing at h
  split_ifs at h <;> exact ⟨_, (Except.error.inj h).symm⟩

/-- What has to be known of the entries of a directory that is searched. -/
theorem Readable.each (readable : Readable path owned (.directory entries mode))
    (wellFormed : (Node.directory entries mode).WellFormed) : ∀ entry ∈ entries,
      entry.2.WellFormed ∧
      (entry.1 ≠ packageDirectory → entry.2.isDirectory →
        (Node.directory entries mode).allows (owned []) .enter) ∧
      (entry.1 ≠ packageDirectory →
        Readable (path.child entry.1) (fun place => owned (entry.1 :: place)) entry.2) := by
  cases wellFormed with
  | directory mode distinct named inside =>
    intro entry mem
    have there := Node.get?_of_mem distinct mem
    refine ⟨inside entry mem, fun other folder => ?_, readable.child there⟩
    cases node : entry.2 with
    | directory inside mode' => exact readable.reachable (there.trans (congrArg some node)) other
    | file content attributes => simp [node, Node.isDirectory] at folder
    | link target => simp [node, Node.isDirectory] at folder

end Readable

-- An entry that is a directory is searched through its own entries: the induction is on the tree.
mutual

theorem finds_below (path : Path) (owned : Place → Bool) (reachable : Bool) (name : String) :
    ∀ node, node.WellFormed → (name ≠ packageDirectory → node.isDirectory → reachable) →
      (name ≠ packageDirectory → Readable path owned node) →
      Finds path (Wanted name node) (below path owned reachable name node)
  | .file content attributes => fun _ _ _ => finds_leaf rfl
  | .link target => fun _ _ _ => finds_leaf rfl
  | .directory entries mode => by
    intro wellFormed reached readable
    rw [below]
    by_cases package : name = packageDirectory
    · rw [if_pos package]
      refine ⟨[], rfl, fun place => ?_, List.Pairwise.nil⟩
      simp [Wanted, package, Node.isDirectory]
    · have opens := (readable package).here
      have listed : requireListing path reachable (owned []) (.directory entries mode) = .ok () :=
        requireListing_ok opens.short (reached package rfl) (opens.read _ rfl)
      have wanted : Wanted name (.directory entries mode) = IsDeclared (.directory entries mode) := by
        funext place
        simp [Wanted, package, Node.isDirectory]
      rw [if_neg package, listed, wanted]
      exact finds_directory mode wellFormed.distinct
        (finds_each path owned _ entries ((readable package).each wellFormed))

theorem finds_each (directory : Path) (owned : Place → Bool) (reachable : Bool) :
    ∀ entries : Entries,
    (∀ entry ∈ entries, entry.2.WellFormed ∧
      (entry.1 ≠ packageDirectory → entry.2.isDirectory → reachable) ∧
      (entry.1 ≠ packageDirectory →
        Readable (directory.child entry.1) (fun place => owned (entry.1 :: place)) entry.2)) →
    ∀ entry ∈ entries, Finds (directory.child entry.1) (Wanted entry.1 entry.2)
      (belowEntry directory owned reachable entry)
  | [], _, entry, mem => by simp at mem
  | (name, node) :: rest, each, entry, mem => by
    obtain ⟨⟨wellFormed, reached, readable⟩, others⟩ := List.forall_mem_cons.1 each
    obtain rfl | mem := List.mem_cons.1 mem
    · exact finds_below (directory.child name) _ reachable name node wellFormed reached readable
    · exact finds_each directory owned reachable rest others entry mem

end

theorem finds_inside (path : Path) (owned : Place → Bool) (entries : Entries) (mode : Nat)
    (wellFormed : (Node.directory entries mode).WellFormed)
    (readable : Readable path owned (.directory entries mode)) :
    Finds path (IsDeclared (.directory entries mode)) (inDirectory path owned entries mode) := by
  have opens := readable.here
  have listed : requireListing path true (owned []) (.directory entries mode) = .ok () :=
    requireListing_ok opens.short rfl (opens.read _ rfl)
  rw [inDirectory, listed]
  exact finds_directory mode wellFormed.distinct
    (finds_each path owned _ entries (readable.each wellFormed))

end ScopedCheck.Declarations
