import ScopedCheck.Proofs.Config.Writing

namespace ScopedCheck

namespace Node

variable {root root' : Node}

/-- Whether two nodes, if there are any, look the same or are both files. -/
def IsKin (seen seen' : Option Node) : Prop :=
  seen = seen' ∨ ∃ content attributes content' attributes',
    seen = some (.file content attributes) ∧ seen' = some (.file content' attributes')

theorem advance_of_isKin (kin : ∀ place, IsKin (root.faceAt? place) (root'.faceAt? place))
    (domain : Place) (followLast : Bool) (here : Place) (segments : List String) :
    root'.advance domain followLast here segments = root.advance domain followLast here segments := by
  induction segments generalizing here with
  | nil => rfl
  | cons segment rest ih =>
    rw [advance_cons, advance_cons]
    obtain same | ⟨content, attributes, content', attributes', seen, seen'⟩ := kin here
    · rw [same]
      cases looked : stride? domain here segment (root'.faceAt? here) with
      | some step =>
        cases step with
        | inl stop => rfl
        | inr place => exact ih place
      | none =>
        obtain same' | ⟨content, attributes, content', attributes', seen, seen'⟩ :=
          kin (here ++ [segment])
        · rw [same']
          cases next : root'.faceAt? (here ++ [segment]) with
          | none => rfl
          | some node =>
            cases node with
            | link target => rfl
            | file content attributes => exact ih _
            | directory entries mode => exact ih _
        · rw [seen, seen']
          exact ih _
    · rw [seen, seen']
      rfl

/-- Where a path leads does not depend on what is in files. -/
theorem resolve_of_isKin (kin : ∀ place, IsKin (root.faceAt? place) (root'.faceAt? place))
    (domain : Place) (followLast : Bool) (links : Nat) (here : Place) (segments : List String) :
    root'.resolve domain followLast links here segments =
      root.resolve domain followLast links here segments := by
  induction links generalizing here segments with
  | zero => rw [resolve, resolve, advance_of_isKin kin]
  | succ links ih =>
    rw [resolve, resolve, advance_of_isKin kin]
    cases root.advance domain followLast here segments with
    | link holder target rest => exact ih _ _
    | _ => rfl

end Node

namespace Site

variable {site site' : Site} {path : Path} {spot : Place} {content : Utf8.Bytes}
  {attributes : Attributes}

/-- Whether a path leads to a file with this content that has no other name. -/
structure Holds (site : Site) (path : Path) (spot : Place) (content : Utf8.Bytes)
    (attributes : Attributes) : Prop where
  absolute : path.isAbsolute
  leads : ∀ followLast, site.locate followLast path = .ok (.existing spot)
  there : site.root.at? spot = some (.file content attributes)
  regular : attributes.kind = .regular
  sole : site.root.IsSole spot attributes.identity

/-- Whether a site was changed at one place at most, where it has a file with a new or a sole name. -/
structure ChangesAt (site : Site) (spot : Place) (site' : Site) : Prop where
  frame : site' = { site with root := site'.root }
  trees : Node.SameBut spot site.root site'.root
  sole : ∀ content attributes, site'.root.at? spot = some (.file content attributes) →
    ∀ place content' attributes', site.root.at? place = some (.file content' attributes') →
      attributes'.identity = attributes.identity → place = spot

theorem Holds.find (held : site.Holds path spot content attributes) :
    site.find false path = .ok (spot, .file content attributes) :=
  find_of_locate (held.leads false) held.there

/-- A change elsewhere leaves a file to the one who holds it. -/
theorem Holds.of_changesAt {other : Place} (held : site.Holds path spot content attributes)
    (changes : ChangesAt site other site') (apart : spot ≠ other) :
    site'.Holds path spot content attributes := by
  have known : (site.root.at? spot).isSome := by rw [held.there]; rfl
  have inner : [] ≠ other := (changes.trees.ne_nil known apart).symm
  refine ⟨held.absolute, fun followLast => ?_, ?_, held.regular, held.sole.1, ?_⟩
  · have resolved := locate_absolute held.absolute (held.leads followLast)
    rw [changes.frame]
    exact locate_of_resolve held.absolute (held.leads followLast)
      (changes.trees.resolve rfl inner apart resolved)
  · rw [← Node.faceAt?_file_iff, changes.trees.same spot apart, Node.faceAt?_file_iff]
    exact held.there
  · intro place content' attributes' there same
    by_cases changed : place = other
    · subst changed
      exact absurd (changes.sole _ _ there spot _ _ held.there same.symm) apart
    · rw [← Node.faceAt?_file_iff, changes.trees.same place changed, Node.faceAt?_file_iff] at there
      exact held.sole.2 place content' attributes' there same

theorem holds_create {mode : Nat} (absolute : path.isAbsolute)
    (created : site.create path [] mode = .ok site') :
    ∃ spot attributes, attributes.identity = site.nextIdentity ∧ site.root.at? spot = none ∧
      ChangesAt site spot site' ∧ site'.Holds path spot [] attributes := by
  obtain ⟨holder, name, vacant, -, rfl⟩ := exists_of_create created
  obtain ⟨entries, mode', there, free⟩ := exists_of_locate_vacant absolute vacant
  rw [newFile_eq]
  generalize hattributes : site.newAttributes (site.permitted mode) = attributes
  have identity : attributes.identity = site.nextIdentity := by
    rw [← hattributes]
    rfl
  have fresh : site.root.greatestIdentity < attributes.identity := by
    rw [identity]
    exact site.greatestIdentity_lt_nextIdentity
  have seen := Node.faceAt?_insert there free [] attributes
  have made := at?_insert absolute vacant [] attributes
  refine ⟨holder ++ [name], attributes, identity, ?_,
    ⟨rfl, Node.sameBut_insert there free [] attributes, ?_⟩, absolute, fun followLast => locate_insert absolute vacant [] attributes followLast, made, ?_, ?_, ?_⟩
  · rw [Node.at?_child there, free]
  · intro content' attributes' there' place _ _ old same
    obtain ⟨-, rfl⟩ : [] = content' ∧ attributes = attributes' := by simpa using made.symm.trans there'
    have := Node.identity_le_greatestIdentity old
    omega
  · rw [← hattributes]
    rfl
  · omega
  · intro place content' attributes' there' same
    by_contra away
    have old : site.root.at? place = some (.file content' attributes') := by
      rw [← Node.faceAt?_file_iff, ← Node.faceAt?_file_iff.2 there']
      exact ((seen place).trans (if_neg away)).symm
    have := Node.identity_le_greatestIdentity old
    omega

/-- Whether a tree is as before but for the file at a spot, which still has its identity. -/
structure Rewrites (root : Node) (spot : Place) (attributes : Attributes) (content' : Utf8.Bytes)
    (attributes' : Attributes) (root' : Node) : Prop where
  seen : ∀ place, root'.faceAt? place =
    if place = spot then some (.file content' attributes') else root.faceAt? place
  regular : attributes'.kind = .regular
  identity : attributes'.identity = attributes.identity

namespace Rewrites

variable {root' : Node} {content' : Utf8.Bytes} {attributes' : Attributes}

theorem there (rewrites : Rewrites site.root spot attributes content' attributes' root') :
    root'.at? spot = some (.file content' attributes') := by
  rw [← Node.faceAt?_file_iff, rewrites.seen, if_pos rfl]

/-- The file has no other name, as before. -/
theorem isSole (rewrites : Rewrites site.root spot attributes content' attributes' root')
    (sole : site.root.IsSole spot attributes.identity) : root'.IsSole spot attributes'.identity := by
  refine ⟨rewrites.identity ▸ sole.1, fun place content'' attributes'' there same => ?_⟩
  by_contra away
  have other : site.root.at? place = some (.file content'' attributes'') := by
    rw [← Node.faceAt?_file_iff, ← Node.faceAt?_file_iff.2 there]
    exact ((rewrites.seen place).trans (if_neg away)).symm
  exact away (sole.2 place _ _ other (same.trans rewrites.identity))

theorem isKin (rewrites : Rewrites site.root spot attributes content' attributes' root')
    (held : site.Holds path spot content attributes) (place : Place) :
    Node.IsKin (site.root.faceAt? place) (root'.faceAt? place) := by
  rw [rewrites.seen]
  split_ifs with same
  · exact .inr ⟨content, attributes, content', attributes',
      same ▸ Node.faceAt?_file_iff.2 held.there, rfl⟩
  · exact .inl rfl

theorem holds (rewrites : Rewrites site.root spot attributes content' attributes' root')
    (held : site.Holds path spot content attributes) :
    ({ site with root := root' } : Site).Holds path spot content' attributes' := by
  refine ⟨held.absolute, fun followLast => ?_, rewrites.there, rewrites.regular,
    rewrites.isSole held.sole⟩
  have resolved := locate_absolute held.absolute (held.leads followLast)
  rw [← Node.resolve_of_isKin (rewrites.isKin held)] at resolved
  exact locate_of_resolve held.absolute (held.leads followLast) resolved

theorem changesAt (rewrites : Rewrites site.root spot attributes content' attributes' root')
    (held : site.Holds path spot content attributes) :
    ChangesAt site spot { site with root := root' } := by
  refine ⟨rfl, ⟨fun place away => (rewrites.seen place).trans (if_neg away), ?_, ?_⟩, ?_⟩
  · intro node found
    have old := Node.faceAt?_file_iff.2 held.there
    exact ⟨content, attributes, Option.some.inj (found.symm.trans old)⟩
  · intro node found
    have new := Node.faceAt?_file_iff.2 rewrites.there
    exact ⟨content', attributes', Option.some.inj (found.symm.trans new)⟩
  · intro content'' attributes'' there' place _ _ other same
    obtain ⟨-, rfl⟩ : content' = content'' ∧ attributes' = attributes'' := by
      simpa using rewrites.there.symm.trans there'
    exact held.sole.2 place _ _ other (same.trans rewrites.identity)

end Rewrites

theorem holds_writeOpen (held : site.Holds path spot content attributes) (content' : Utf8.Bytes) :
    ChangesAt site spot (site.writeOpen attributes.identity content') ∧
      ∃ attributes', (site.writeOpen attributes.identity content').Holds path spot content'
        attributes' := by
  have rewrites : Rewrites site.root spot attributes content'
      { attributes with modified := site.now }
      (site.writeOpen attributes.identity content').root :=
    ⟨Node.faceAt?_rewrite_of_isSole held.sole held.there rfl fun _ _ => rfl, held.regular, rfl⟩
  exact ⟨rewrites.changesAt held, _, rewrites.holds held⟩

theorem changesAt_remove (held : site.Holds path spot content attributes)
    (removed : site.remove path = .ok site') : ChangesAt site spot site' := by
  obtain ⟨place, node, located, there, leaf, rfl⟩ := exists_of_remove removed
  obtain rfl : spot = place := by simpa using (held.leads false).symm.trans located
  have plain : Node.IsPlain (site.root.faceAt? spot) := by
    intro node found
    exact ⟨content, attributes, Option.some.inj (found.symm.trans (Node.faceAt?_file_iff.2 held.there))⟩
  obtain rfl | ⟨holder, name, rfl⟩ := List.eq_nil_or_concat spot
  · refine ⟨rfl, ⟨fun _ _ => rfl, plain, plain⟩, ?_⟩
    intro content' attributes' there' place _ _ other same
    obtain ⟨-, rfl⟩ : content = content' ∧ attributes = attributes' := by
      simpa using held.there.symm.trans there'
    exact held.sole.2 place _ _ other same
  · rw [List.concat_eq_append] at there plain ⊢
    have seen := Node.faceAt?_erase there leaf
    have gone : (site.root.alter (Entries.erase name) holder).faceAt? (holder ++ [name]) = none := by
      rw [seen, if_pos rfl]
    rw [eraseAt_concat]
    refine ⟨rfl, ⟨fun place away => (seen place).trans (if_neg away), plain, ?_⟩, ?_⟩
    · intro node found
      simp [alter, gone] at found
    · intro content' attributes' there'
      rw [← Node.faceAt?_file_iff] at there'
      simp [alter, gone] at there'

theorem attempt_cases (held : site.Holds path spot content attributes) :
    (Remover.attempt path site).2 = site ∨ ChangesAt site spot (Remover.attempt path site).2 := by
  cases removed : site.remove path with
  | error cause => exact .inl (by simp [Remover.attempt, removed])
  | ok site' =>
    have attempted : (Remover.attempt path site).2 = site' := by simp [Remover.attempt, removed]
    rw [attempted]
    exact .inr (changesAt_remove held removed)

end Site

/-- An open file that is held is filled, or the attempt to remove it is made. -/
theorem Config.fill_held {site : Site} {file : OpenFile} {spot : Place} {content : Utf8.Bytes}
    {attributes : Attributes} (held : site.Holds file.path spot content attributes)
    (opened : attributes.identity = file.identity) (trouble : Trouble) (content' : Utf8.Bytes) :
    (∃ cause, fill site trouble file content' = (.error cause, (Remover.attempt file.path site).2)) ∨
    ∃ site' attributes', fill site trouble file content' = (.ok (), site') ∧
      Site.ChangesAt site spot site' ∧ site'.Holds file.path spot content' attributes' := by
  unfold fill
  cases trouble.first? with
  | some cause =>
    refine .inl ⟨cause, ?_⟩
    cases removed : site.remove file.path <;> simp [Remover.attempt, removed, Except.toOption]
  | none =>
    obtain ⟨changes, attributes', held'⟩ := Site.holds_writeOpen held content'
    rw [opened] at changes held'
    exact .inr ⟨_, attributes', rfl, changes, held'⟩

end ScopedCheck
