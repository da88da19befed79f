import ScopedCheck.Proofs.Declarations.Scan
import ScopedCheck.Proofs.FileSystem.Relisting
import ScopedCheck.Proofs.Path

namespace ScopedCheck.Declarations

theorem isDeclared_iff_of_faces {tree tree' : Node}
    (same : ∀ place, tree.faceAt? place = tree'.faceAt? place) (place : Place) :
    IsDeclared tree place ↔ IsDeclared tree' place := by
  have leaf {tree tree' : Node} (same : tree.faceAt? place = tree'.faceAt? place) {node : Node}
      (there : tree.at? place = some node) (leaf : node.isDirectory = false) :
      tree'.at? place = some node := by
    rw [Node.faceAt?, there, Option.map_some, Node.face_of_leaf leaf, Node.faceAt?] at same
    obtain ⟨node', there', face⟩ := Option.map_eq_some_iff.1 same.symm
    cases node' with
    | directory entries mode =>
      rw [← face] at leaf
      simp [Node.face, Node.isDirectory] at leaf
    | file content attributes => exact there'.trans (congrArg some face)
    | link target => exact there'.trans (congrArg some face)
  constructor
  · rintro ⟨node, name, there, plain, rest⟩
    exact ⟨node, name, leaf (same place) there plain, plain, rest⟩
  · rintro ⟨node, name, there, plain, rest⟩
    exact ⟨node, name, leaf (same place).symm there plain, plain, rest⟩

theorem allows_face (owned : Bool) (access : Access) (node : Node) :
    node.face.allows owned access = node.allows owned access := by
  cases node <;> rfl

/-- What may be done at a place can be seen there. -/
theorem exists_allows_of_faces {tree tree' : Node} {place : Place} {node : Node} {owned : Bool}
    {access : Access} (same : tree.faceAt? place = tree'.faceAt? place)
    (there : tree'.at? place = some node)
    (allows : ∀ found, tree.at? place = some found → found.allows owned access) :
    node.allows owned access := by
  rw [Node.faceAt?, Node.faceAt?, there] at same
  obtain ⟨found, there', face⟩ := Option.map_eq_some_iff.1 same
  rw [← allows_face, ← face, allows_face]
  exact allows found there'

theorem Readable.of_faces {path : Path} {owned : Place → Bool} {tree tree' : Node}
    (readable : Readable path owned tree)
    (same : ∀ place, tree.faceAt? place = tree'.faceAt? place) : Readable path owned tree' := by
  intro place entries mode outside there
  have folder := Node.faceAt?_directory_iff.2 ⟨entries, there⟩
  rw [← same place] at folder
  obtain ⟨entries', there'⟩ := Node.faceAt?_directory_iff.1 folder
  have opens := readable place entries' mode outside there'
  exact {
    short := opens.short
    read := fun node there => exists_allows_of_faces (same place) there opens.read
    enter := fun holder name node split there =>
      exists_allows_of_faces (same holder) there fun found => opens.enter holder name found split }

theorem exists_of_faces {entries : Entries} {mode : Nat} {tree : Node}
    (same : ∀ place, (Node.directory entries mode).faceAt? place = tree.faceAt? place) :
    ∃ entries', tree = .directory entries' mode := by
  have folder : (Node.directory entries mode).faceAt? [] = some (.directory [] mode) := rfl
  rw [same] at folder
  obtain ⟨entries', there⟩ := Node.faceAt?_directory_iff.1 folder
  exact ⟨entries', Option.some.inj there⟩

/-- There is one order only in which all that is wanted can be found. -/
theorem Finds.unique {path : Path} {wanted : Place → Prop} {found found' : Except Failure (List Path)}
    (h : Finds path wanted found) (h' : Finds path wanted found') : found = found' := by
  obtain ⟨places, rfl, mem, sorted⟩ := h
  obtain ⟨places', rfl, mem', sorted'⟩ := h'
  have irrefl : Std.Irrefl fun p q : Place => key p < key q := ⟨fun p => List.lt_irrefl (key p)⟩
  have perm : places.Perm places' := by
    rw [List.perm_ext_iff_of_nodup sorted.nodup sorted'.nodup]
    intro place
    rw [mem, mem']
  have same : places = places' := by
    apply perm.eq_of_pairwise _ sorted sorted'
    intro p q _ _ less greater
    exact absurd (List.lt_trans less greater) (List.lt_irrefl _)
  rw [same]

theorem descend_concat (path : Path) (above : Place) (name : String) :
    descend path (above ++ [name]) = (descend path above).child name := by
  simp [descend]

theorem descend_eq_join (root : Path) {place : Place} (some : place ≠ [])
    (named : ∀ name ∈ place, Node.IsName name) : descend root place = root.join (.relative place) := by
  induction place using List.reverseRecOn with
  | nil => exact absurd rfl some
  | append_singleton above name ih =>
    obtain ⟨named', isName⟩ := List.forall_mem_append.1 named
    rw [List.forall_mem_singleton] at isName
    rw [descend_concat]
    by_cases nothing : above = []
    · subst nothing
      rw [List.nil_append, Path.relative_singleton]
      rfl
    · rw [ih nothing named', Path.child_join root nothing named' isName]

theorem isDeclared_names {tree : Node} (wellFormed : tree.WellFormed) {place : Place}
    (declared : IsDeclared tree place) : place ≠ [] ∧ ∀ name ∈ place, Node.IsName name := by
  constructor
  · rintro rfl
    exact not_isDeclared_nil tree declared
  · obtain ⟨node, name, there, -⟩ := declared
    exact (wellFormed.at? there).2

theorem collect_of_find {site : Site} {root : Path} {place : Place} {entries : Entries} {mode : Nat}
    (here : site.find false root = .ok (place, .directory entries mode)) :
    collect site root = inDirectory root (site.ownedBelow place) entries mode := by
  rw [collect, here]

/-- Below one path, the order of places is that of the components of their paths. -/
theorem pairwise_segments (root : Path) {places : List Place}
    (names : ∀ place ∈ places, place ≠ [] ∧ ∀ name ∈ place, Node.IsName name)
    (sorted : places.Pairwise fun p q => key p < key q) :
    (places.map fun place => root.join (.relative place)).Pairwise
      fun a b => key a.segments < key b.segments := by
  obtain ⟨above, segments⟩ := Path.exists_segments_join root
  rw [List.pairwise_map]
  refine sorted.imp_of_mem ?_
  intro p q hp hq less
  rw [segments p (names p hp).1 (names p hp).2, segments q (names q hq).1 (names q hq).2, key, key,
    List.map_append, List.map_append]
  exact List.append_left_lt less

/-- The search finds the declarations below its root, each once, in the order of their components. In
whatever order the directories list their entries, it gives the same to whoever owns the same of them. -/
theorem collect_exact {site : Site} {root : Path} {place : Place} {entries : Entries} {mode : Nat}
    (here : site.find false root = .ok (place, .directory entries mode))
    (wellFormed : (Node.directory entries mode).WellFormed)
    (readable : Readable root (site.ownedBelow place) (.directory entries mode)) :
    ∃ paths, collect site root = .ok paths ∧
      (∀ path, path ∈ paths ↔
        ∃ below, IsDeclared (.directory entries mode) below ∧ path = root.join (.relative below)) ∧
      paths.Nodup ∧ paths.Pairwise (fun a b => key a.segments < key b.segments) ∧
      ∀ site' place' tree', Site.find site' false root = .ok (place', tree') →
        site'.ownedBelow place' = site.ownedBelow place →
        Node.Relisted (.directory entries mode) tree' → collect site' root = .ok paths := by
  have finds := finds_inside root _ entries mode wellFormed readable
  obtain ⟨places, found, mem, sorted⟩ := finds
  have names : ∀ below ∈ places, below ≠ [] ∧ ∀ name ∈ below, Node.IsName name := by
    intro below inside
    exact isDeclared_names wellFormed ((mem below).1 inside)
  have joined : places.map (descend root) = places.map fun below => root.join (.relative below) := by
    apply List.map_congr_left
    intro below inside
    exact descend_eq_join root (names below inside).1 (names below inside).2
  have increasing := pairwise_segments root names sorted
  have irrefl : Std.Irrefl fun a b : Path => key a.segments < key b.segments :=
    ⟨fun a => List.lt_irrefl (key a.segments)⟩
  rw [collect_of_find here, found, joined]
  refine ⟨_, rfl, fun path => ?_, increasing.nodup, increasing, ?_⟩
  · simp only [List.mem_map, mem, eq_comm]
  · intro site' place' tree' here' owned relisted
    obtain ⟨wellFormed', same⟩ := relisted.faceAt? wellFormed
    obtain ⟨entries', rfl⟩ := exists_of_faces same
    have finds' := finds_inside root _ entries' mode wellFormed' (readable.of_faces same)
    have wanted : IsDeclared (.directory entries' mode) = IsDeclared (.directory entries mode) := by
      funext below
      exact propext (isDeclared_iff_of_faces same below).symm
    rw [wanted] at finds'
    rw [collect_of_find here', owned, finds'.unique ⟨places, found, mem, sorted⟩, found, joined]

/-- A directory named like a declaration, with a link in it that leads nowhere, and a package. -/
def mixedEntries : Entries :=
  [("b.d.ts", .file [] {}), ("node_modules", .directory [("p.d.ts", .file [] {})]),
    ("a.d.ts", .directory [("x.d.ts", .link ⟨"/gone"⟩)])]

/-- A site whose only directory beside the root holds these entries. -/
def siteOf (entries : Entries) : Site where
  root := .directory [("w", .directory entries)]
  directory := some []

theorem wellFormed_mixedEntries : (Node.directory mixedEntries).WellFormed := by
  have packages : (Node.directory [("p.d.ts", .file [] {})]).WellFormed :=
    .directory _ (by decide) (by simp [Node.IsName]) (by simpa using .file _ _)
  have links : (Node.directory [("x.d.ts", .link ⟨"/gone"⟩)]).WellFormed :=
    .directory _ (by decide) (by simp [Node.IsName]) (by simpa using .link _)
  refine .directory _ (by decide) (by simp [mixedEntries, Node.IsName]) ?_
  simpa [mixedEntries] using ⟨.file [] {}, packages, links⟩

theorem not_directory_of_leaf {node : Node} (leaf : node.isDirectory = false) (place : Place)
    (entries : Entries) (mode : Nat) : node.at? place ≠ some (.directory entries mode) := by
  intro there
  cases place with
  | nil =>
    obtain rfl := Option.some.inj there
    simp [Node.isDirectory] at leaf
  | cons name rest => simp [Node.at?_of_leaf leaf] at there

/-- There is one directory below the mixed one that has to be read. -/
theorem eq_of_at?_mixedEntries {below : Place} {entries : Entries} {mode : Nat} (proper : below ≠ [])
    (outside : packageDirectory ∉ below)
    (there : (Node.directory mixedEntries).at? below = some (.directory entries mode)) :
    below = ["a.d.ts"] := by
  obtain ⟨name, rest, rfl⟩ := List.exists_cons_of_ne_nil proper
  obtain ⟨node, found, inside⟩ : ∃ node, Entries.get? name mixedEntries = some node ∧
      node.at? rest = some (.directory entries mode) := by
    cases found : Entries.get? name mixedEntries with
    | none => simp [Node.at?, found] at there
    | some node => exact ⟨node, rfl, by simpa [Node.at?, found] using there⟩
  have mem := Node.mem_of_get? found
  simp only [mixedEntries, List.mem_cons, Prod.mk.injEq, List.not_mem_nil, or_false] at mem
  obtain ⟨rfl, rfl⟩ | ⟨rfl, rfl⟩ | ⟨rfl, rfl⟩ := mem
  · exact absurd inside (not_directory_of_leaf rfl _ _ _)
  · exact absurd List.mem_cons_self outside
  · cases rest with
    | nil => rfl
    | cons next rest =>
      by_cases link : next = "x.d.ts"
      · subst link
        exact absurd inside (not_directory_of_leaf rfl rest entries mode)
      · have missing : Entries.get? next [("x.d.ts", Node.link ⟨"/gone"⟩)] = none := by
          rw [Node.get?_cons, if_neg link]
          rfl
        simp [Node.at?, missing] at inside

theorem readable_mixedEntries :
    Readable ⟨"/w"⟩ ((siteOf mixedEntries).ownedBelow ["w"]) (.directory mixedEntries) := by
  intro below inside mode outside there
  by_cases proper : below = []
  · subst proper
    refine ⟨by decide +kernel, fun node found => ?_, fun holder name node split => by simp at split⟩
    obtain rfl := Option.some.inj found
    rfl
  · obtain rfl := eq_of_at?_mixedEntries proper outside there
    refine ⟨by decide +kernel, fun node found => ?_, fun holder name node split found => ?_⟩
    · have known : (Node.directory mixedEntries).at? ["a.d.ts"] =
          some (.directory [("x.d.ts", .link ⟨"/gone"⟩)]) := rfl
      obtain rfl := Option.some.inj (known.symm.trans found)
      rfl
    · have nothing : [] ++ ["a.d.ts"] = holder ++ [name] := split
      obtain ⟨rfl, -⟩ := List.append_inj' nothing rfl
      obtain rfl := Option.some.inj found
      rfl

theorem collect_exact_mixed : ∃ paths, collect (siteOf mixedEntries) ⟨"/w"⟩ = .ok paths ∧
    collect (siteOf mixedEntries.reverse) ⟨"/w"⟩ = .ok paths ∧ ⟨"/w/a.d.ts/x.d.ts"⟩ ∈ paths := by
  have here : (siteOf mixedEntries).find false ⟨"/w"⟩ = .ok (["w"], .directory mixedEntries) := by
    rfl
  have here' : (siteOf mixedEntries.reverse).find false ⟨"/w"⟩ =
      .ok (["w"], .directory mixedEntries.reverse) := by
    rfl
  have declared : IsDeclared (.directory mixedEntries) ["a.d.ts", "x.d.ts"] :=
    ⟨.link ⟨"/gone"⟩, "x.d.ts", rfl, rfl, rfl, by decide +kernel, by decide⟩
  have path : (⟨"/w/a.d.ts/x.d.ts"⟩ : Path) = (⟨"/w"⟩ : Path).join (.relative ["a.d.ts", "x.d.ts"]) := by
    decide +kernel
  obtain ⟨paths, found, mem, -, -, relisted⟩ :=
    collect_exact here wellFormed_mixedEntries readable_mixedEntries
  refine ⟨paths, found, ?_, (mem _).2 ⟨_, declared, path⟩⟩
  apply relisted _ _ _ here' rfl
  apply Node.Relisted.order
  exact (List.reverse_perm mixedEntries).symm

end ScopedCheck.Declarations
