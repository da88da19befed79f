import ScopedCheck.Proofs.FileSystem.Walk
import ScopedCheck.Proofs.Path

namespace ScopedCheck

namespace Node

variable {root : Node} {domain here place : Place} {followLast : Bool} {entries : Entries}
  {mode : Nat} {name : String}

theorem stride?_of_isName (isName : IsName name) {seen : Option Node} {step : Stop ⊕ Place}
    (looked : stride? domain here name seen = some step) : ∃ cause, step = .inl (.refused cause) := by
  obtain ⟨full, dot, up, -⟩ := isName
  match seen with
  | none =>
    rw [stride?, if_neg (by simp [full, dot]), if_neg up] at looked
    exact ⟨_, (Option.some.inj looked).symm⟩
  | some (.file content attributes) => exact ⟨_, (Option.some.inj looked).symm⟩
  | some (.link target) => exact ⟨_, (Option.some.inj looked).symm⟩
  | some (.directory entries mode) =>
    rw [stride?, if_neg full] at looked
    split_ifs at looked
    · exact ⟨_, (Option.some.inj looked).symm⟩
    · exact ⟨_, (Option.some.inj looked).symm⟩

/-- A walk down to a directory arrives there, unless it is refused on the way. -/
theorem advance_names (domain : Place) (followLast : Bool) (here : Place) {names : List String}
    (named : ∀ name ∈ names, IsName name)
    (folder : root.at? (here ++ names) = some (.directory entries mode)) (rest : List String) :
    (∃ cause, root.advance domain followLast here (names ++ rest) = .refused cause) ∨
      root.advance domain followLast here (names ++ rest) =
        root.advance domain followLast (here ++ names) rest := by
  induction names generalizing here with
  | nil => simp
  | cons name names ih =>
    obtain ⟨isName, named'⟩ := List.forall_mem_cons.1 named
    have split : here ++ name :: names = here ++ [name] ++ names := by simp
    rw [split] at folder ⊢
    rw [List.cons_append, advance_cons]
    cases looked : stride? domain here name (root.faceAt? here) with
    | some step =>
      obtain ⟨cause, rfl⟩ := stride?_of_isName isName looked
      exact .inl ⟨cause, rfl⟩
    | none =>
      -- The directory is at or below this entry, which must be a directory itself.
      obtain ⟨inside, mode', next⟩ : ∃ inside mode',
          root.faceAt? (here ++ [name]) = some (.directory inside mode') := by
        rw [at?_append] at folder
        obtain ⟨node, there, below⟩ := Option.bind_eq_some_iff.1 folder
        rw [faceAt?, there]
        cases node with
        | directory inside mode' => exact ⟨[], mode', rfl⟩
        | file content attributes => cases names <;> simp [at?] at below
        | link target => cases names <;> simp [at?] at below
      simp only [next]
      exact ih _ named' folder

theorem advance_name (root : Node) (domain place : Place) (isName : IsName name) :
    (∃ cause, root.advance domain false place [name] = .refused cause) ∨
      root.advance domain false place [name] = .vacant place name ∨
      root.advance domain false place [name] = .arrived (place ++ [name]) := by
  rw [advance_cons]
  cases looked : stride? domain place name (root.faceAt? place) with
  | some step =>
    obtain ⟨cause, rfl⟩ := stride?_of_isName isName looked
    exact .inl ⟨cause, rfl⟩
  | none =>
    right
    cases next : root.faceAt? (place ++ [name]) with
    | none => exact .inl rfl
    | some node => cases node <;> exact .inr rfl

theorem exists_directory_of_at? (folder : root.at? place = some (.directory entries mode)) :
    ∃ inside mode', root = .directory inside mode' := by
  cases root with
  | directory inside mode' => exact ⟨inside, mode', rfl⟩
  | file content attributes => cases place <;> simp [at?] at folder
  | link target => cases place <;> simp [at?] at folder

/-- A path from the root through the names of a directory goes on from there. -/
theorem resolve_names {links : Nat} {segments : List String} {arrival : Arrival}
    (named : ∀ name ∈ place, IsName name) (folder : root.at? place = some (.directory entries mode))
    (led : root.resolve domain followLast links [] ("" :: (place ++ segments)) = .ok arrival) :
    root.resolve domain followLast links place segments = .ok arrival := by
  obtain ⟨inside, mode', rfl⟩ := exists_directory_of_at? folder
  have first : (directory inside mode').advance domain followLast [] ("" :: (place ++ segments)) =
      (directory inside mode').advance domain followLast [] (place ++ segments) := by
    rw [advance]
    rfl
  rw [resolve, first] at led
  obtain ⟨cause, refused⟩ | walked := advance_names domain followLast [] named folder segments
  · simp [refused] at led
  · rw [walked, List.nil_append] at led
    rw [resolve]
    exact led

/-- A name that is looked up in a directory and missing is missing there. -/
theorem eq_of_resolve_name {links : Nat} {holder : Place} {leaf : String} (isName : IsName name)
    (vacant : root.resolve domain false links place [name] = .ok (.vacant holder leaf)) :
    holder = place ∧ leaf = name := by
  rw [resolve] at vacant
  obtain ⟨cause, stop⟩ | stop | stop := advance_name root domain place isName
  · simp [stop] at vacant
  · obtain ⟨rfl, rfl⟩ : place = holder ∧ name = leaf := by simpa [stop] using vacant
    exact ⟨rfl, rfl⟩
  · simp [stop] at vacant

/-- What a path through the names of a directory finds missing is an entry of that directory. -/
theorem eq_of_resolve_vacant {links : Nat} {holder : Place} {leaf : String}
    (named : ∀ name ∈ place, IsName name) (isName : IsName name)
    (folder : root.at? place = some (.directory entries mode))
    (vacant : root.resolve domain false links [] ("" :: (place ++ [name])) =
      .ok (.vacant holder leaf)) : holder = place ∧ leaf = name :=
  eq_of_resolve_name isName (resolve_names named folder vacant)

end Node

namespace Site

/-- Whether a site can be: its tree is well-formed, and the directory that it is seen from, if there is
one, is in the tree. -/
structure WellFormed (site : Site) : Prop where
  tree : site.root.WellFormed
  here : ∀ place, site.directory = some place →
    ∃ entries mode, site.root.at? place = some (.directory entries mode)

/-- A name that is missing in a directory is missing there. -/
theorem eq_of_locate_child {site : Site} {place holder : Place} {name leaf : String}
    {entries : Entries} {mode : Nat} (named : ∀ name ∈ place, Node.IsName name)
    (isName : Node.IsName name) (folder : site.root.at? place = some (.directory entries mode))
    (vacant : site.locate false ((Path.ofNames place).child name) = .ok (.vacant holder leaf)) :
    holder = place ∧ leaf = name := by
  have proper : ∀ name' ∈ place ++ [name], Node.IsName name' := by
    intro name' mem
    obtain mem | mem := List.mem_append.1 mem
    · exact named name' mem
    · rwa [List.mem_singleton.1 mem]
  rw [Path.child_ofNames named isName] at vacant
  have resolved := locate_absolute (Path.isAbsolute_ofNames _) vacant
  rw [Path.segments_ofNames (by simp) proper] at resolved
  exact Node.eq_of_resolve_vacant named isName folder resolved

end Site

end ScopedCheck
