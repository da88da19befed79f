import Mathlib.Tactic
import ScopedCheck.FileSystem.Site
import ScopedCheck.Proofs.Except

namespace ScopedCheck

/-- The place that a walk has come to, unless it ends there for want of something. -/
def Stop.reached? : Stop → Option Place
  | .arrived place => some place
  | .link holder _ _ => some holder
  | _ => none

namespace Node

theorem at?_append (root : Node) (above below : Place) :
    root.at? (above ++ below) = (root.at? above).bind (·.at? below) := by
  induction above generalizing root with
  | nil => simp [at?]
  | cons name above ih =>
    cases root with
    | directory entries mode =>
      simp only [List.cons_append, at?]
      cases Entries.get? name entries with
      | none => rfl
      | some node => exact ih node
    | file content attributes => rfl
    | link target => rfl

theorem isSome_at?_dropLast {root : Node} {here : Place} (h : (root.at? here).isSome) :
    (root.at? here.dropLast).isSome := by
  obtain rfl | ne := eq_or_ne here []
  · exact h
  · rw [← List.dropLast_append_getLast ne, at?_append] at h
    exact Option.isSome_of_isSome_bind h

/-- What follows directly after a directory. -/
theorem at?_child {root : Node} {here : Place} {entries : Entries} {mode : Nat}
    (h : root.at? here = some (.directory entries mode)) (name : String) :
    root.at? (here ++ [name]) = Entries.get? name entries := by
  rw [at?_append, h]
  cases hn : Entries.get? name entries <;> simp [at?, hn]

/-- Whether two nodes look the same to one who does not look inside of directories. -/
def Alike : Node → Node → Prop
  | file content attributes, file content' attributes' =>
    content = content' ∧ attributes = attributes'
  | link target, link target' => target = target'
  | directory _ mode, directory _ mode' => mode = mode'
  | _, _ => False

theorem alike_refl (node : Node) : node.Alike node := by
  cases node <;> simp [Alike]

/-- Whether all that is in one tree is in another one as well. -/
def IsWithin (root' root : Node) : Prop :=
  ∀ place node', root'.at? place = some node' →
    ∃ node, root.at? place = some node ∧ node'.Alike node

theorem get?_cons (other : String) (entry : String × Node) (entries : Entries) :
    Entries.get? other (entry :: entries) =
      if other = entry.1 then some entry.2 else Entries.get? other entries := by
  obtain ⟨key, node⟩ := entry
  by_cases h : other = key
  · simp [Entries.get?, h]
  · have : (other == key) = false := by simpa using h
    simp [Entries.get?, List.lookup_cons, this, h]

theorem get?_erase (name other : String) (entries : Entries) :
    Entries.get? other (Entries.erase name entries) =
      if other = name then none else Entries.get? other entries := by
  induction entries with
  | nil => simp [Entries.get?, Entries.erase]
  | cons entry entries ih =>
    simp only [Entries.erase] at ih
    by_cases hk : entry.1 = name
    · simp only [Entries.erase, List.filter_cons, hk, ne_eq, not_true, decide_false,
        Bool.false_eq_true, if_false, get?_cons] at ih ⊢
      rw [ih]
      split_ifs <;> rfl
    · simp only [Entries.erase, List.filter_cons, hk, ne_eq, not_false_eq_true, decide_true,
        if_true, get?_cons] at ih ⊢
      rw [ih]
      split_ifs <;> simp_all

/-- What was changed inside an entry is found under its name. -/
theorem get?_map (name other : String) (change : Node → Node) (entries : Entries) :
    Entries.get? other (entries.map fun entry =>
      if entry.1 = name then (name, change entry.2) else entry) =
      (Entries.get? other entries).map fun node => if other = name then change node else node := by
  induction entries with
  | nil => rfl
  | cons entry entries ih =>
    rw [List.map_cons, get?_cons, ih, get?_cons]
    by_cases hk : entry.1 = name
    · by_cases ho : other = name <;> simp [hk, ho]
    · by_cases ho : other = entry.1 <;> simp [hk, ho]

theorem isWithin_alter (name : String) (holder : Place) (root : Node) :
    (root.alter (Entries.erase name) holder).IsWithin root := by
  intro place node' h
  induction holder generalizing root place with
  | nil =>
    cases root with
    | directory entries mode =>
      cases place with
      | nil =>
        obtain rfl := Option.some.inj h
        exact ⟨_, rfl, rfl⟩
      | cons first rest =>
        simp only [alter, at?, get?_erase] at h
        by_cases hf : first = name
        · simp [hf] at h
        · rw [if_neg hf] at h
          exact ⟨node', h, alike_refl node'⟩
    | file content attributes => exact ⟨node', h, alike_refl node'⟩
    | link target => exact ⟨node', h, alike_refl node'⟩
  | cons step holder ih =>
    cases root with
    | directory entries mode =>
      cases place with
      | nil =>
        obtain rfl := Option.some.inj h
        exact ⟨_, rfl, rfl⟩
      | cons first rest =>
        simp only [alter, at?, get?_map] at h ⊢
        cases found : Entries.get? first entries with
        | none => simp [found] at h
        | some node =>
          simp only [found, Option.map_some] at h ⊢
          split_ifs at h with hf
          · exact ih node rest h
          · exact ⟨node', h, alike_refl node'⟩
    | file content attributes => exact ⟨node', h, alike_refl node'⟩
    | link target => exact ⟨node', h, alike_refl node'⟩

theorem at?_alter_erase (name : String) (holder : Place) (root : Node) :
    (root.alter (Entries.erase name) holder).at? (holder ++ [name]) = none := by
  induction holder generalizing root with
  | nil => cases root <;> simp [alter, at?, get?_erase]
  | cons step holder ih =>
    cases root with
    | directory entries mode =>
      simp only [alter, List.cons_append, at?, get?_map]
      cases found : Entries.get? step entries with
      | none => rfl
      | some node => simpa using ih node
    | file content attributes => rfl
    | link target => rfl

section Walks

variable {root' root : Node} {domain : Place} {followLast : Bool}

/-- Where a segment leads that names an entry of the directory at a place. -/
def descend (root : Node) (domain : Place) (followLast : Bool) (here : Place) (segment : String)
    (rest : List String) : Node → Stop
  | link target =>
    if rest = [] && !followLast then .arrived (here ++ [segment]) else .link here target rest
  | _ => root.advance domain followLast (here ++ [segment]) rest

theorem advance_found {here : Place} {segment : String} {rest : List String} {entries : Entries}
    {mode : Nat} {next : Node} (h : root.at? here = some (.directory entries mode))
    (plain : segment ≠ "" ∧ segment ≠ "." ∧ segment ≠ "..")
    (opened : (directory entries mode).allows (domain.isPrefixOf here) .enter)
    (short : ¬maxNameBytes < (Utf8.encode segment).length)
    (found : Entries.get? segment entries = some next) :
    root.advance domain followLast here (segment :: rest) =
      root.descend domain followLast here segment rest next := by
  obtain ⟨empty, dot, up⟩ := plain
  simp only [advance, h, if_neg empty, opened, Bool.not_true, Bool.false_eq_true, if_false, if_neg dot,
    if_neg up, if_neg short, found]
  cases next <;> rfl

/-- An entry of the smaller tree leads on like the one of the larger tree, if the walks from there do. -/
theorem descend_isWithin {here place : Place} {segment : String} {rest : List String}
    {next next' : Node} (alike : next'.Alike next) (known : (root'.at? here).isSome)
    (there : (root'.at? (here ++ [segment])).isSome)
    (further : (root'.advance domain followLast (here ++ [segment]) rest).reached? = some place →
      root.advance domain followLast (here ++ [segment]) rest =
        root'.advance domain followLast (here ++ [segment]) rest ∧ (root'.at? place).isSome)
    (reached : (root'.descend domain followLast here segment rest next').reached? = some place) :
    root.descend domain followLast here segment rest next =
      root'.descend domain followLast here segment rest next' ∧ (root'.at? place).isSome := by
  cases next' with
  | file content attributes => cases next <;> first | exact further reached | exact alike.elim
  | directory entries mode => cases next <;> first | exact further reached | exact alike.elim
  | link target =>
    cases next with
    | file content attributes => exact alike.elim
    | directory entries mode => exact alike.elim
    | link target' =>
      obtain rfl : target = target' := alike
      refine ⟨rfl, ?_⟩
      unfold descend at reached
      split_ifs at reached
      · obtain rfl := Option.some.inj reached
        exact there
      · obtain rfl := Option.some.inj reached
        exact known

/-- A walk in the smaller tree that arrives, or comes to a link, does so in the larger one as well. -/
theorem advance_isWithin (within : root'.IsWithin root) {here place : Place}
    {segments : List String} (known : (root'.at? here).isSome)
    (reached : (root'.advance domain followLast here segments).reached? = some place) :
    root.advance domain followLast here segments = root'.advance domain followLast here segments ∧
      (root'.at? place).isSome := by
  induction segments generalizing here with
  | nil =>
    simp only [advance, Stop.reached?, Option.some.injEq] at reached
    subst reached
    exact ⟨rfl, known⟩
  | cons segment rest ih =>
    obtain ⟨node', h'⟩ := Option.isSome_iff_exists.1 known
    obtain ⟨node, h, alike⟩ := within here node' h'
    cases node' with
    | file content attributes => simp [advance, h', Stop.reached?] at reached
    | link target => simp [advance, h', Stop.reached?] at reached
    | directory entries' mode' =>
      cases node with
      | file content attributes => exact alike.elim
      | link target => exact alike.elim
      | directory entries mode =>
        obtain rfl : mode' = mode := alike
        have same (owned : Bool) : (directory entries mode').allows owned .enter =
            (directory entries' mode').allows owned .enter := rfl
        by_cases empty : segment = ""
        · simp only [advance, h, h', if_pos empty] at reached ⊢
          exact ih known reached
        cases closed : (directory entries' mode').allows (domain.isPrefixOf here) .enter with
        | false => simp [advance, h', empty, closed, Stop.reached?] at reached
        | true =>
          by_cases dot : segment = "."
          · simp only [advance, h, h', same, closed, dot] at reached ⊢
            exact ih known reached
          by_cases up : segment = ".."
          · simp only [advance, h, h', same, closed, up] at reached ⊢
            exact ih (isSome_at?_dropLast known) reached
          by_cases long : maxNameBytes < (Utf8.encode segment).length
          · simp [advance, h', empty, closed, dot, up, long, Stop.reached?] at reached
          cases found' : Entries.get? segment entries' with
          | none =>
            simp only [advance, h', empty, closed, dot, up, long, found', Bool.not_true,
              Bool.false_eq_true, if_false] at reached
            split_ifs at reached <;> simp [Stop.reached?] at reached
          | some next' =>
            have there : root'.at? (here ++ [segment]) = some next' := (at?_child h' segment).trans found'
            obtain ⟨next, hnext, alike⟩ := within _ next' there
            have found : Entries.get? segment entries = some next :=
              (at?_child h segment).symm.trans hnext
            have known' : (root'.at? (here ++ [segment])).isSome := by rw [there]; rfl
            have plain : segment ≠ "" ∧ segment ≠ "." ∧ segment ≠ ".." := ⟨empty, dot, up⟩
            rw [advance_found h' plain closed long found'] at reached ⊢
            rw [advance_found h plain ((same _).trans closed) long found]
            exact descend_isWithin alike known known' (ih known') reached

/-- What a path leads to in the smaller tree is what it leads to in the larger one. -/
theorem resolve_isWithin (within : root'.IsWithin root) {links : Nat} {here place : Place}
    {segments : List String} (known : (root'.at? here).isSome)
    (h : root'.resolve domain followLast links here segments = .ok (.existing place)) :
    root.resolve domain followLast links here segments = .ok (.existing place) ∧
      (root'.at? place).isSome := by
  rw [resolve] at h ⊢
  cases stop : root'.advance domain followLast here segments with
  | arrived q =>
    obtain ⟨same, there⟩ := advance_isWithin within known (by rw [stop]; rfl)
    obtain rfl : q = place := by simpa [stop] using h
    rw [same, stop]
    exact ⟨rfl, there⟩
  | vacant holder name => simp [stop] at h
  | refused cause => simp [stop] at h
  | link holder target rest =>
    obtain ⟨same, there⟩ := advance_isWithin within known (by rw [stop]; rfl)
    rw [same]
    simp only [stop] at h ⊢
    match links with
    | 0 => simp at h
    | links + 1 =>
      refine resolve_isWithin within ?_ h
      split_ifs
      · rfl
      · exact there

/-- No path with a segment leads to a root that is no directory. -/
theorem resolve_ne_nil (plain : root.isDirectory = false) {links : Nat} {segments : List String}
    (segment : segments ≠ []) :
    root.resolve domain followLast links [] segments ≠ .ok (.existing []) := by
  obtain ⟨s, rest, rfl⟩ := List.exists_cons_of_ne_nil segment
  cases root with
  | directory entries mode => simp [isDirectory] at plain
  | file content attributes => simp [resolve, advance, at?]
  | link target => simp [resolve, advance, at?]

end Walks

end Node

namespace Site

theorem locate_absolute {site : Site} {followLast : Bool} {path : Path} {arrival : Arrival}
    (absolute : path.isAbsolute) (h : site.locate followLast path = .ok arrival) :
    site.root.resolve site.domain followLast maxLinks [] path.segments = .ok arrival := by
  unfold locate at h
  split_ifs at h
  simpa [absolute] using h

theorem exists_of_find {site : Site} {followLast : Bool} {path : Path} {place : Place} {node : Node}
    (h : site.find followLast path = .ok (place, node)) :
    site.locate followLast path = .ok (.existing place) ∧
      (site.root.at? place = some node ∨ node = .directory []) := by
  obtain ⟨arrival, hlocate, h⟩ := exists_of_bind_eq_ok h
  cases arrival with
  | vacant holder name => simp at h
  | existing q =>
    dsimp only at h
    cases found : site.root.at? q with
    | some n =>
      obtain ⟨rfl, rfl⟩ : q = place ∧ n = node := by simpa [found, pure, Except.pure] using h
      exact ⟨hlocate, .inl found⟩
    | none =>
      rw [found] at h
      dsimp only at h
      split_ifs at h
      obtain ⟨rfl, rfl⟩ := Prod.mk.inj (Except.ok.inj h)
      exact ⟨hlocate, .inr rfl⟩

theorem exists_of_remove {site site' : Site} {path : Path} (h : site.remove path = .ok site') :
    ∃ place node, site.locate false path = .ok (.existing place) ∧
      site.root.at? place = some node ∧ node.isDirectory = false ∧ site' = site.eraseAt place := by
  obtain ⟨⟨place, node⟩, hfind, h⟩ := exists_of_bind_eq_ok h
  obtain ⟨hlocate, there⟩ := exists_of_find hfind
  obtain ⟨-, -, h⟩ := exists_of_bind_eq_ok h
  cases plain : node.isDirectory with
  | true => simp [plain, bind, Except.bind] at h
  | false =>
    obtain there | rfl := there
    · obtain rfl : site.eraseAt place = site' := by simpa [plain, pure, Except.pure] using h
      exact ⟨place, node, hlocate, there, plain, rfl⟩
    · simp [Node.isDirectory] at plain

/-- Once a file has been removed, nothing is at its path. -/
theorem occupied_of_remove {site site' : Site} {path : Path} (absolute : path.isAbsolute)
    (h : site.remove path = .ok site') : site'.occupied path = false := by
  obtain ⟨place, node, hplace, hnode, plain, rfl⟩ := exists_of_remove h
  have arrived := locate_absolute absolute hplace
  have segment : path.segments ≠ [] := by
    simpa [Path.segments] using Text.split_ne_nil '/' path.text.toList
  have ne : place ≠ [] := by
    rintro rfl
    obtain rfl : site.root = node := Option.some.inj hnode
    exact Node.resolve_ne_nil plain segment arrived
  have erased : site.eraseAt place =
      site.alter place.dropLast (Entries.erase (place.getLast ne)) := by
    simp [eraseAt, List.getLast?_eq_getLast_of_ne_nil ne]
  rw [erased]
  have within := Node.isWithin_alter (place.getLast ne) place.dropLast site.root
  have gone := Node.at?_alter_erase (place.getLast ne) place.dropLast site.root
  rw [List.dropLast_append_getLast ne] at gone
  -- Whatever was found now would have been found before, at the place that is empty now.
  cases found : (site.alter place.dropLast (Entries.erase (place.getLast ne))).find false path with
  | error cause => simp [occupied, found, Except.isOk, Except.toBool]
  | ok p =>
    obtain ⟨hlocate, -⟩ := exists_of_find found
    obtain ⟨before, there⟩ := Node.resolve_isWithin within rfl (locate_absolute absolute hlocate)
    have same : place = p.1 := by
      simpa using arrived.symm.trans before
    rw [← same, gone] at there
    simp at there

end Site

end ScopedCheck
