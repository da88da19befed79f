import ScopedCheck.Proofs.Declarations.Listing
import ScopedCheck.Proofs.Except
import ScopedCheck.Proofs.FileSystem.Creation

namespace ScopedCheck.Declarations

/-- Whether a directory that is searched cannot be read. The tree it belongs to can be reached or not, as
what holds it allows. -/
structure Bars (path : Path) (owned : Place → Bool) (reachable : Bool) (tree : Node) (place : Place) :
    Prop where
  outside : packageDirectory ∉ place
  folder : ∃ entries mode, tree.at? place = some (.directory entries mode)
  closed : ¬(Opens path owned tree place ∧ (place = [] → reachable))

/-- Whether a search says rightly that there is no directory it cannot read, or which one is the first. -/
def Tells (path : Path) (owned : Place → Bool) (reachable : Bool) (tree : Node) :
    Except Failure (List Path) → Prop
  | .ok _ => ∀ place, ¬Bars path owned reachable tree place
  | .error failure => ∃ place cause, failure = .directoryUnreadable (descend path place) cause ∧
      Bars path owned reachable tree place ∧
      ∀ other, Bars path owned reachable tree other → key place ≤ key other

section Bars

variable {path : Path} {owned : Place → Bool} {reachable : Bool} {entries : Entries} {mode : Nat}

theorem bars_cons_iff {name : String} {node : Node} (there : Entries.get? name entries = some node)
    (other : name ≠ packageDirectory) (place : Place) :
    Bars path owned reachable (.directory entries mode) (name :: place) ↔
      Bars (path.child name) (fun place => owned (name :: place))
        ((Node.directory entries mode).allows (owned []) .enter) node place := by
  have inside : (Node.directory entries mode).at? (name :: place) = node.at? place := by
    simp [Node.at?, there]
  have opens : Opens path owned (.directory entries mode) (name :: place) ↔ _ :=
    opens_cons_iff there place
  constructor
  · rintro ⟨outside, folder, closed⟩
    refine ⟨fun mem => outside (List.mem_cons_of_mem _ mem), inside ▸ folder, fun open_ => closed ?_⟩
    exact ⟨opens.2 open_, by simp⟩
  · rintro ⟨outside, folder, closed⟩
    refine ⟨?_, inside.symm ▸ folder, fun open_ => closed (opens.1 open_.1)⟩
    simpa [Ne.symm other] using outside

theorem Bars.exists_entry {name : String} {place : Place}
    (bars : Bars path owned reachable (.directory entries mode) (name :: place)) :
    name ≠ packageDirectory ∧ ∃ node, Entries.get? name entries = some node := by
  obtain ⟨outside, ⟨inside, mode', seen⟩, -⟩ := bars
  refine ⟨fun same => outside (same ▸ List.mem_cons_self), ?_⟩
  cases there : Entries.get? name entries with
  | none => simp [Node.at?, there] at seen
  | some node => exact ⟨node, rfl⟩

theorem not_bars_leaf {node : Node} (leaf : node.isDirectory = false) (place : Place) :
    ¬Bars path owned reachable node place := by
  rintro ⟨-, ⟨entries, mode, seen⟩, -⟩
  cases place with
  | nil =>
    obtain rfl : node = .directory entries mode := Option.some.inj seen
    simp [Node.isDirectory] at leaf
  | cons name place => simp [Node.at?_of_leaf leaf] at seen

/-- Reading the directory is refused exactly if it bars the search itself. -/
theorem bars_nil_iff : Bars path owned reachable (.directory entries mode) [] ↔
    ∃ cause, requireListing path reachable (owned []) (.directory entries mode) =
      .error (.directoryUnreadable path cause) := by
  have opens : Opens path owned (.directory entries mode) [] ↔
      path.isTooLong = false ∧ (Node.directory entries mode).allows (owned []) .read := by
    refine ⟨fun opens => ⟨opens.short, opens.read _ rfl⟩, fun ⟨short, read⟩ => ⟨short, ?_, ?_⟩⟩
    · rintro node seen
      exact Option.some.inj seen ▸ read
    · intro holder name node split
      simp at split
  constructor
  · rintro ⟨-, -, closed⟩
    rw [opens] at closed
    unfold requireListing
    split_ifs with long ready
    · exact ⟨_, rfl⟩
    · simp_all
    · exact ⟨_, rfl⟩
  · rintro ⟨cause, refused⟩
    refine ⟨by simp, ⟨entries, mode, rfl⟩, fun ⟨open_, reached⟩ => ?_⟩
    obtain ⟨short, read⟩ := opens.1 open_
    rw [requireListing_ok short (reached rfl) read] at refused
    simp at refused

end Bars

/-- What an entry that is not a directory of packages has to tell, and that such a directory is not
searched. -/
def TellsEntry (path : Path) (owned : Place → Bool) (reachable : Bool) (entry : String × Node) : Prop :=
  (entry.1 = packageDirectory → (belowEntry path owned reachable entry).isOk) ∧
    (entry.1 ≠ packageDirectory →
      Tells (path.child entry.1) (fun place => owned (entry.1 :: place)) reachable entry.2
        (belowEntry path owned reachable entry))

section Tells

variable {path : Path} {owned : Place → Bool} {reachable : Bool} {entries : Entries} {mode : Nat}

theorem Tells.not_bars {tree : Node} {found : Except Failure (List Path)}
    (tells : Tells path owned reachable tree found) (ok : found.isOk) (place : Place) :
    ¬Bars path owned reachable tree place := by
  cases found with
  | ok paths => exact tells place
  | error failure => simp [Except.isOk, Except.toBool] at ok

/-- An entry that was searched without a failure holds no directory that bars the search. -/
theorem TellsEntry.not_bars {name : String} {node : Node}
    (tells : TellsEntry path owned ((Node.directory entries mode).allows (owned []) .enter) (name, node))
    (there : Entries.get? name entries = some node)
    (ok : (belowEntry path owned ((Node.directory entries mode).allows (owned []) .enter)
      (name, node)).isOk) (place : Place) :
    ¬Bars path owned reachable (.directory entries mode) (name :: place) := by
  intro bars
  obtain ⟨other, -⟩ := bars.exists_entry
  exact (tells.2 other).not_bars ok place ((bars_cons_iff there other place).1 bars)

/-- The first entry that cannot be searched has the first directory that cannot be read. -/
theorem tells_directory (distinct : (entries.map Prod.fst).Nodup)
    (listed : ¬Bars path owned reachable (.directory entries mode) [])
    (each : ∀ entry ∈ entries,
      TellsEntry path owned ((Node.directory entries mode).allows (owned []) .enter) entry) :
    Tells path owned reachable (.directory entries mode)
      (inNameOrder (belowEach path owned ((Node.directory entries mode).allows (owned []) .enter)
        entries)) := by
  rw [belowEach_eq, inNameOrder_map]
  cases searched : (inOrder entries).mapM (belowEntry path owned _) with
  | ok found =>
    intro place bars
    cases place with
    | nil => exact listed bars
    | cons name place =>
      obtain ⟨-, node, there⟩ := bars.exists_entry
      have mem := Node.mem_of_get? there
      have ok := isOk_of_mapM_ok searched _ ((perm_inOrder entries).mem_iff.2 mem)
      exact (each _ mem).not_bars there ok place bars
  | error failure =>
    obtain ⟨before, entry, after, split, earlier, failed⟩ := exists_of_mapM_error searched
    have mem : entry ∈ entries := (perm_inOrder entries).mem_iff.1 (by simp [split])
    have other : entry.1 ≠ packageDirectory := by
      intro package
      have ok := (each entry mem).1 package
      simp [failed, Except.isOk, Except.toBool] at ok
    have tells := (each entry mem).2 other
    rw [failed] at tells
    obtain ⟨place, cause, rfl, bars, least⟩ := tells
    have there := Node.get?_of_mem distinct mem
    refine ⟨entry.1 :: place, cause, rfl, (bars_cons_iff there other place).2 bars, ?_⟩
    intro rival barred
    cases rival with
    | nil => exact absurd barred listed
    | cons name rest =>
      obtain ⟨-, node, there'⟩ := barred.exists_entry
      have mem' : (name, node) ∈ inOrder entries :=
        (perm_inOrder entries).mem_iff.2 (Node.mem_of_get? there')
      have sorted := pairwise_inOrder distinct
      rw [split] at mem' sorted
      obtain before' | same | after' := by simpa using mem'
      · have tells' := each _ (Node.mem_of_get? there')
        exact absurd barred (tells'.not_bars there' (earlier _ before') rest)
      · subst same
        exact List.cons_le_cons_iff.2 (.inr ⟨rfl, least rest ((bars_cons_iff there other rest).1 barred)⟩)
      · obtain ⟨-, later, -⟩ := List.pairwise_append.1 sorted
        exact List.cons_le_cons_iff.2 (.inl ((List.pairwise_cons.1 later).1 _ after'))

theorem tells_refused {failure : Failure}
    (refused : requireListing path reachable (owned []) (.directory entries mode) = .error failure) :
    Tells path owned reachable (.directory entries mode) (.error failure) := by
  obtain ⟨cause, rfl⟩ := exists_of_requireListing_error refused
  exact ⟨[], cause, rfl, bars_nil_iff.2 ⟨cause, refused⟩, fun _ _ => List.nil_le _⟩

theorem not_bars_of_listed
    (listed : requireListing path reachable (owned []) (.directory entries mode) = .ok ()) :
    ¬Bars path owned reachable (.directory entries mode) [] := by
  intro bars
  obtain ⟨cause, refused⟩ := bars_nil_iff.1 bars
  simp [listed] at refused

end Tells

theorem isOk_below_package (path : Path) (owned : Place → Bool) (reachable : Bool) (node : Node) :
    (below path owned reachable packageDirectory node).isOk := by
  cases node with
  | directory entries mode =>
    rw [below, if_pos rfl]
    rfl
  | _ => rfl

mutual

theorem tells_below (path : Path) (owned : Place → Bool) (reachable : Bool) {name : String}
    (other : name ≠ packageDirectory) :
    ∀ node, node.WellFormed → Tells path owned reachable node (below path owned reachable name node)
  | .file content attributes => fun _ => not_bars_leaf rfl
  | .link target => fun _ => not_bars_leaf rfl
  | .directory entries mode => by
    intro wellFormed
    rw [below, if_neg other]
    cases listed : requireListing path reachable (owned []) (.directory entries mode) with
    | error failure => exact tells_refused listed
    | ok =>
      exact tells_directory wellFormed.distinct (not_bars_of_listed listed)
        (tells_belowEach path owned _ entries wellFormed.inside)

theorem tells_belowEach (directory : Path) (owned : Place → Bool) (reachable : Bool) :
    ∀ entries : Entries, (∀ entry ∈ entries, entry.2.WellFormed) →
      ∀ entry ∈ entries, TellsEntry directory owned reachable entry
  | [], _, entry, mem => by simp at mem
  | (name, node) :: rest, wellFormed, entry, mem => by
    obtain ⟨first, others⟩ := List.forall_mem_cons.1 wellFormed
    obtain rfl | mem := List.mem_cons.1 mem
    · refine ⟨?_, fun other => tells_below (directory.child name) _ reachable other node first⟩
      rintro rfl
      exact isOk_below_package _ _ reachable node
    · exact tells_belowEach directory owned reachable rest others entry mem

end

theorem tells_inDirectory (path : Path) (owned : Place → Bool) {entries : Entries} {mode : Nat}
    (wellFormed : (Node.directory entries mode).WellFormed) :
    Tells path owned true (.directory entries mode) (inDirectory path owned entries mode) := by
  rw [inDirectory]
  cases listed : requireListing path true (owned []) (.directory entries mode) with
  | error failure => exact tells_refused listed
  | ok =>
    exact tells_directory wellFormed.distinct (not_bars_of_listed listed)
      (tells_belowEach path owned _ entries wellFormed.inside)

theorem readable_iff {path : Path} {owned : Place → Bool} {tree : Node} :
    Readable path owned tree ↔ ∀ place, ¬Bars path owned true tree place := by
  constructor
  · rintro readable place ⟨outside, ⟨entries, mode, seen⟩, closed⟩
    exact closed ⟨readable place entries mode outside seen, fun _ => rfl⟩
  · intro none place entries mode outside seen
    by_contra closed
    exact none place ⟨outside, ⟨entries, mode, seen⟩, fun opens => closed opens.1⟩

/-- The search of a directory fails exactly if there is one below it that cannot be read, and it then tells
of the first one of them in the order of the components. -/
theorem collect_fails_iff {site : Site} {root : Path} {place : Place} {entries : Entries} {mode : Nat}
    (here : site.find false root = .ok (place, .directory entries mode))
    (wellFormed : (Node.directory entries mode).WellFormed) :
    ((collect site root).isOk ↔ Readable root (site.ownedBelow place) (.directory entries mode)) ∧
      ∀ failure, collect site root = .error failure → ∃ below cause,
        failure = .directoryUnreadable (descend root below) cause ∧
        Bars root (site.ownedBelow place) true (.directory entries mode) below ∧
        ∀ other, Bars root (site.ownedBelow place) true (.directory entries mode) other →
          key below ≤ key other := by
  have tells := tells_inDirectory root (site.ownedBelow place) wellFormed
  rw [collect_of_find here]
  refine ⟨⟨fun ok => readable_iff.2 (tells.not_bars ok), fun readable => ?_⟩, fun failure failed => ?_⟩
  · obtain ⟨places, found, -⟩ := finds_inside root _ entries mode wellFormed readable
    rw [found]
    rfl
  · rw [failed] at tells
    exact tells

/-- A search fails, if it does, for a directory that cannot be read. -/
theorem exists_of_collect_error {site : Site} (wellFormed : site.root.WellFormed) {root : Path}
    {failure : Failure} (h : collect site root = .error failure) :
    ∃ path cause, failure = .directoryUnreadable path cause := by
  have inside {followLast : Bool} {place : Place} {entries : Entries} {mode : Nat}
      (found : site.find followLast root = .ok (place, .directory entries mode)) {failure : Failure}
      (failed : inDirectory root (site.ownedBelow place) entries mode = .error failure) :
      ∃ path cause, failure = .directoryUnreadable path cause := by
    have tells := tells_inDirectory root (site.ownedBelow place) (Site.wellFormed_of_find wellFormed found)
    rw [failed] at tells
    obtain ⟨below, cause, rfl, -⟩ := tells
    exact ⟨_, cause, rfl⟩
  unfold collect at h
  split at h
  · exact ⟨root, _, (Except.error.inj h).symm⟩
  · next found => exact inside found h
  · simp at h
  · split at h
    · exact ⟨root, _, (Except.error.inj h).symm⟩
    · next place entries mode found =>
      cases searched : inDirectory root (site.ownedBelow place) entries mode with
      | ok paths => simp [searched, Except.map] at h
      | error failure' =>
        obtain rfl : failure' = failure := by simpa [searched, Except.map] using h
        exact inside found searched
    · simp at h

end ScopedCheck.Declarations
