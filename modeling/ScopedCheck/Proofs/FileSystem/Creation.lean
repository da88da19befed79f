import ScopedCheck.Proofs.FileSystem.Walk

namespace ScopedCheck

namespace Node

variable {root : Node} {holder spot : Place} {entries : Entries} {mode : Nat} {name : String}

theorem faceAt?_insert (there : root.at? holder = some (.directory entries mode))
    (free : Entries.get? name entries = none) (content : Utf8.Bytes) (attributes : Attributes)
    (place : Place) :
    (root.alter (Entries.insert name (.file content attributes)) holder).faceAt? place =
      if place = holder ++ [name] then some (.file content attributes) else root.faceAt? place :=
  faceAt?_alter_insert there (by simp [free]) rfl place

theorem faceAt?_of_free (there : root.at? holder = some (.directory entries mode))
    (free : Entries.get? name entries = none) : root.faceAt? (holder ++ [name]) = none := by
  simp [faceAt?, at?_child there, free]

theorem sameBut_insert (there : root.at? holder = some (.directory entries mode))
    (free : Entries.get? name entries = none) (content : Utf8.Bytes) (attributes : Attributes) :
    SameBut (holder ++ [name]) root
      (root.alter (Entries.insert name (.file content attributes)) holder) := by
  have seen := faceAt?_insert there free content attributes
  refine ⟨fun place ne => by rw [seen, if_neg ne], ?_, ?_⟩
  · intro node found
    simp [faceAt?_of_free there free] at found
  · intro node found
    rw [seen, if_pos rfl] at found
    exact ⟨content, attributes, (Option.some.inj found).symm⟩

/-- The directory above something. -/
theorem exists_of_at?_concat {node : Node} (there : root.at? (holder ++ [name]) = some node) :
    ∃ entries mode, root.at? holder = some (.directory entries mode) ∧
      Entries.get? name entries = some node := by
  rw [at?_append] at there
  obtain ⟨above, habove, below⟩ := Option.bind_eq_some_iff.1 there
  cases above with
  | directory entries mode =>
    refine ⟨entries, mode, habove, ?_⟩
    rw [at?] at below
    cases found : Entries.get? name entries with
    | none => simp [found] at below
    | some next => simpa [found, at?] using below
  | file content attributes => simp [at?] at below
  | link target => simp [at?] at below

theorem faceAt?_erase {node : Node} (there : root.at? (holder ++ [name]) = some node)
    (leaf : node.isDirectory = false) (place : Place) :
    (root.alter (Entries.erase name) holder).faceAt? place =
      if place = holder ++ [name] then none else root.faceAt? place := by
  obtain ⟨entries, mode, above, found⟩ := exists_of_at?_concat there
  refine faceAt?_alter_erase above (fun old found' => ?_) place
  obtain rfl := Option.some.inj (found.symm.trans found')
  exact leaf

/-- Whether a file has an identity of its own and no other name. -/
def IsSole (root : Node) (spot : Place) (identity : Nat) : Prop :=
  identity ≠ 0 ∧ ∀ place content attributes,
    root.at? place = some (.file content attributes) → attributes.identity = identity → place = spot

/-- A file with one name is rewritten at one place. -/
theorem faceAt?_rewrite_of_isSole {identity : Nat} (sole : root.IsSole spot identity)
    {content : Utf8.Bytes} {attributes : Attributes}
    (there : root.at? spot = some (.file content attributes)) (own : attributes.identity = identity)
    {change : Utf8.Bytes → Attributes → Node}
    (leaf : ∀ content attributes, (change content attributes).isDirectory = false) (place : Place) :
    (root.rewrite identity change).faceAt? place =
      if place = spot then some (change content attributes) else root.faceAt? place := by
  rw [faceAt?_rewrite leaf]
  split_ifs with h
  · rw [h, faceAt?_file_iff.2 there, Option.map_some, rewrite, if_pos own]
  · cases seen : root.faceAt? place with
    | none => rfl
    | some node =>
      cases node with
      | link target => rfl
      | directory entries mode =>
        obtain ⟨inside, seen'⟩ : ∃ inside, root.at? place = some (.directory inside mode) := by
          unfold faceAt? at seen
          cases found : root.at? place with
          | none => simp [found] at seen
          | some node => cases node <;> simp_all [face]
        have same : root.faceAt? place = some (.directory [] mode) :=
          faceAt?_directory_iff.2 ⟨inside, seen'⟩
        obtain rfl : entries = [] := by
          rw [seen] at same
          simpa using same
        rfl
      | file content' attributes' =>
        have other : attributes'.identity ≠ identity :=
          fun same => h (sole.2 place content' attributes' (faceAt?_file_iff.1 seen) same)
        rw [Option.map_some, rewrite, if_neg other]

end Node

namespace Site

variable {site : Site} {path : Path} {holder : Place} {name : String}

/-- What is known of a new file besides its content. -/
def newAttributes (site : Site) (mode : Nat) : Attributes :=
  { mode := mode, modified := site.now, identity := site.nextIdentity }

theorem newFile_eq (site : Site) (content : Utf8.Bytes) (mode : Nat) :
    site.newFile content mode = .file content (site.newAttributes mode) :=
  rfl

theorem greatestIdentity_lt_nextIdentity (site : Site) :
    site.root.greatestIdentity < site.nextIdentity :=
  Nat.lt_succ_of_le (Nat.le_max_left _ _)

theorem exists_of_create {site' : Site} {content : Utf8.Bytes} {mode : Nat}
    (created : site.create path content mode = .ok site') :
    ∃ holder name, site.locate false path = .ok (.vacant holder name) ∧
      site.requireChange holder = .ok () ∧
      site' = site.alter holder
        (Entries.insert name (site.newFile content (site.permitted mode))) := by
  obtain ⟨arrival, located, created⟩ := exists_of_bind_eq_ok created
  cases arrival with
  | existing place => simp at created
  | vacant holder name =>
    obtain ⟨⟨⟩, allowed, created⟩ := exists_of_bind_eq_ok created
    exact ⟨holder, name, located, allowed, (Except.ok.inj created).symm⟩

theorem exists_of_locate_vacant {followLast : Bool} (absolute : path.isAbsolute)
    (vacant : site.locate followLast path = .ok (.vacant holder name)) :
    ∃ entries mode, site.root.at? holder = some (.directory entries mode) ∧
      Entries.get? name entries = none :=
  Node.exists_of_resolve_vacant (locate_absolute absolute vacant)

/-- What decides whether a path can be located at all is the path itself. -/
theorem locate_of_resolve {followLast followLast' : Bool} {arrival arrival' : Arrival} {root : Node}
    (absolute : path.isAbsolute) (located : site.locate followLast path = .ok arrival)
    (h : root.resolve site.domain followLast' maxLinks [] path.segments = .ok arrival') :
    ({ site with root := root } : Site).locate followLast' path = .ok arrival' := by
  unfold locate at located ⊢
  split_ifs at located ⊢
  simpa [absolute] using h

/-- A path whose last name was missing leads to the file of that name. -/
theorem locate_insert (absolute : path.isAbsolute)
    (vacant : site.locate false path = .ok (.vacant holder name)) (content : Utf8.Bytes)
    (attributes : Attributes) (followLast : Bool) :
    (site.alter holder (Entries.insert name (.file content attributes))).locate followLast path =
      .ok (.existing (holder ++ [name])) := by
  obtain ⟨entries, mode, there, free⟩ := exists_of_locate_vacant absolute vacant
  have trees := Node.sameBut_insert there free content attributes
  have made := Node.faceAt?_insert there free content attributes (holder ++ [name])
  refine locate_of_resolve absolute vacant ?_
  exact trees.resolve_vacant (Node.faceAt?_of_free there free) (by simp [made]) rfl rfl
    (locate_absolute absolute vacant) followLast

theorem at?_insert (absolute : path.isAbsolute)
    (vacant : site.locate false path = .ok (.vacant holder name)) (content : Utf8.Bytes)
    (attributes : Attributes) :
    (site.alter holder (Entries.insert name (.file content attributes))).root.at? (holder ++ [name]) =
      some (.file content attributes) := by
  obtain ⟨entries, mode, there, free⟩ := exists_of_locate_vacant absolute vacant
  have made := Node.faceAt?_insert there free content attributes (holder ++ [name])
  rw [if_pos rfl] at made
  exact Node.faceAt?_file_iff.1 made

theorem find_of_locate {followLast : Bool} {place : Place} {node : Node}
    (located : site.locate followLast path = .ok (.existing place))
    (there : site.root.at? place = some node) : site.find followLast path = .ok (place, node) := by
  simp [find, located, there, bind, Except.bind, pure, Except.pure]

theorem wellFormed_of_find {site : Site} (wellFormed : site.root.WellFormed) {followLast : Bool}
    {path : Path} {place : Place} {node : Node} (h : site.find followLast path = .ok (place, node)) :
    node.WellFormed := by
  obtain ⟨-, there | rfl⟩ := exists_of_find h
  · exact (wellFormed.at? there).1
  · exact .directory _ List.nodup_nil (by simp) (by simp)

/-- The file that was added last is written in the place where it is. -/
theorem writeOpen_insert (site : Site) (holder : Place) (name : String) (content : Utf8.Bytes)
    (mode : Nat) :
    (site.alter holder (Entries.insert name (site.newFile [] mode))).writeOpen site.nextIdentity
        content =
      site.alter holder (Entries.insert name (site.newFile content mode)) := by
  have fresh := site.greatestIdentity_lt_nextIdentity
  have own : (site.newAttributes mode).identity = site.nextIdentity := rfl
  rw [newFile_eq, newFile_eq]
  simp only [writeOpen, alter]
  rw [Node.rewrite_alter_insert (fun _ _ => rfl), Node.rewrite_of_lt _ fresh, Node.rewrite,
    if_pos own]
  rfl

theorem eraseAt_concat (site : Site) (holder : Place) (name : String) :
    site.eraseAt (holder ++ [name]) = site.alter holder (Entries.erase name) := by
  simp [eraseAt]

theorem allows_of_at? {site site' : Site} {entries entries' : Entries} {mode : Nat}
    (there : site.root.at? holder = some (.directory entries mode))
    (there' : site'.root.at? holder = some (.directory entries' mode))
    (domain : site'.domain = site.domain) (access : Access) :
    site'.allows access holder = site.allows access holder := by
  simp only [allows, there, there', domain]
  rfl

theorem requireChange_of_at? {site site' : Site} {entries entries' : Entries} {mode : Nat}
    (there : site.root.at? holder = some (.directory entries mode))
    (there' : site'.root.at? holder = some (.directory entries' mode))
    (domain : site'.domain = site.domain) :
    site'.requireChange holder = site.requireChange holder := by
  simp only [requireChange, require, allows_of_at? there there' domain]

theorem erase_insert {entries : Entries} (free : Entries.get? name entries = none) (node : Node) :
    Entries.erase name (Entries.insert name node entries) = entries := by
  induction entries with
  | nil => simp [Entries.insert, Entries.erase]
  | cons entry entries ih =>
    rw [Node.get?_cons] at free
    split_ifs at free with h
    have ne : entry.1 ≠ name := fun same => h same.symm
    have rest := ih free
    rw [Entries.erase] at rest
    rw [Entries.insert, if_neg ne, Entries.erase, List.filter_cons, rest]
    simp [ne]

/-- Removing a file that was added gives back the tree that it was added to. -/
theorem remove_insert (wellFormed : site.root.WellFormed) (absolute : path.isAbsolute)
    (vacant : site.locate false path = .ok (.vacant holder name))
    (allowed : site.requireChange holder = .ok ()) (content : Utf8.Bytes)
    (attributes : Attributes) :
    (site.alter holder (Entries.insert name (.file content attributes))).remove path = .ok site := by
  obtain ⟨entries, mode, there, free⟩ := exists_of_locate_vacant absolute vacant
  have found := find_of_locate (locate_insert absolute vacant content attributes false)
    (at?_insert absolute vacant content attributes)
  have there' : (site.alter holder (Entries.insert name (.file content attributes))).root.at? holder =
      some (.directory (Entries.insert name (.file content attributes) entries) mode) := by
    have inside := Node.at?_alter (Entries.insert name (.file content attributes)) holder [] site.root
    rw [List.append_nil, there] at inside
    exact inside
  have allowed' : (site.alter holder (Entries.insert name (.file content attributes))).requireChange
      holder = .ok () := by
    rw [requireChange_of_at? there there' rfl, allowed]
  have back : (site.root.alter (Entries.insert name (.file content attributes)) holder).alter
      (Entries.erase name) holder = site.root := by
    rw [Node.alter_alter]
    exact wellFormed.alter_eq_self there (erase_insert free _)
  simp only [remove, found, bind, Except.bind, List.dropLast_concat, allowed', Node.isDirectory,
    eraseAt_concat, pure, Except.pure]
  simp only [alter] at back ⊢
  rw [back]
  rfl

end Site

end ScopedCheck
