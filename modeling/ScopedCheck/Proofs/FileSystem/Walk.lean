import ScopedCheck.Proofs.FileSystem.Face

namespace ScopedCheck

/-- What becomes of a stop once there is something at a spot: where its name was missing a walk arrives,
and a link on the way is still there. -/
def Stop.once? (spot : Place) : Stop → Option Stop
  | .vacant holder name => if holder ++ [name] = spot then some (.arrived spot) else none
  | .link holder target rest => some (.link holder target rest)
  | _ => none

namespace Node

variable {root root' : Node} {domain here spot : Place} {followLast : Bool}

/-- What a segment does for which no entry is looked up, given what is seen where the walk is: the walk
ends, or it goes on from a place. -/
def stride? (domain here : Place) (segment : String) : Option Node → Option (Stop ⊕ Place)
  | some (.directory entries mode) =>
    if segment = "" then some (.inr here)
    else if !(directory entries mode).allows (domain.isPrefixOf here) .enter then
      some (.inl (.refused .permissionDenied))
    else if segment = "." then some (.inr here)
    else if segment = ".." then some (.inr here.dropLast)
    else if maxNameBytes < (Utf8.encode segment).length then some (.inl (.refused .nameTooLong))
    else none
  | some _ => some (.inl (.refused .notDirectory))
  | none =>
    if segment = "" || segment = "." then some (.inr here)
    else if segment = ".." then some (.inr here.dropLast)
    else some (.inl (.refused .notFound))

/-- A walk goes by what is seen where it is and where it goes. -/
theorem advance_cons (root : Node) (domain : Place) (followLast : Bool) (here : Place)
    (segment : String) (rest : List String) :
    root.advance domain followLast here (segment :: rest) =
      match stride? domain here segment (root.faceAt? here) with
      | some (.inl stop) => stop
      | some (.inr place) => root.advance domain followLast place rest
      | none =>
        match root.faceAt? (here ++ [segment]) with
        | none => if rest = [] then .vacant here segment else .refused .notFound
        | some node => root.descend domain followLast here segment rest node := by
  rw [advance]
  cases there : root.at? here with
  | none =>
    simp only [faceAt?, there, Option.map_none, stride?]
    split_ifs <;> rfl
  | some node =>
    cases node with
    | file content attributes => simp only [faceAt?, there, Option.map_some, face, stride?]
    | link target => simp only [faceAt?, there, Option.map_some, face, stride?]
    | directory entries mode =>
      have allowed (owned : Bool) : (directory [] mode).allows owned .enter =
          (directory entries mode).allows owned .enter := rfl
      have seen : root.faceAt? here = some (directory [] mode) := by rw [faceAt?, there]; rfl
      simp only [seen, stride?, allowed]
      by_cases empty : segment = ""
      · simp only [if_pos empty]
      by_cases closed : (!(directory entries mode).allows (domain.isPrefixOf here) .enter) = true
      · simp only [if_neg empty, if_pos closed]
      by_cases dot : segment = "."
      · simp only [if_neg empty, if_neg closed, if_pos dot]
      by_cases up : segment = ".."
      · simp only [if_neg empty, if_neg closed, if_neg dot, if_pos up]
      by_cases long : maxNameBytes < (Utf8.encode segment).length
      · simp only [if_neg empty, if_neg closed, if_neg dot, if_neg up, if_pos long]
      simp only [if_neg empty, if_neg closed, if_neg dot, if_neg up, if_neg long]
      rw [faceAt?, at?_child there]
      cases Entries.get? segment entries with
      | none => rfl
      | some node => cases node <;> rfl

theorem descend_file (root : Node) (domain : Place) (followLast : Bool) (here : Place)
    (segment : String) (rest : List String) (content : Utf8.Bytes) (attributes : Attributes) :
    root.descend domain followLast here segment rest (.file content attributes) =
      root.advance domain followLast (here ++ [segment]) rest :=
  rfl

/-- An entry is looked up only where a directory is. -/
theorem exists_of_stride?_eq_none {segment : String}
    (looked : stride? domain here segment (root.faceAt? here) = none) :
    ∃ entries mode, root.at? here = some (.directory entries mode) := by
  unfold faceAt? at looked
  cases there : root.at? here with
  | none =>
    simp only [there, Option.map_none, stride?] at looked
    split_ifs at looked
  | some node =>
    cases node with
    | file content attributes => simp [there, face, stride?] at looked
    | link target => simp [there, face, stride?] at looked
    | directory entries mode => exact ⟨entries, mode, rfl⟩

theorem stride?_cases {segment : String} {seen : Option Node} {step : Stop ⊕ Place}
    (looked : stride? domain here segment seen = some step) :
    (∃ cause, step = .inl (.refused cause)) ∨ step = .inr here ∨ step = .inr here.dropLast := by
  match seen with
  | none =>
    simp only [stride?] at looked
    split_ifs at looked <;> simp [← Option.some.inj looked]
  | some (.file content attributes) => simp [← Option.some.inj looked]
  | some (.link target) => simp [← Option.some.inj looked]
  | some (.directory entries mode) =>
    simp only [stride?] at looked
    split_ifs at looked <;> simp [← Option.some.inj looked]

/-- A walk that arrives, or comes to a link, has come to something. -/
theorem isSome_of_reached {segments : List String} {place : Place}
    (known : (root.at? here).isSome)
    (reached : (root.advance domain followLast here segments).reached? = some place) :
    (root.at? place).isSome :=
  (advance_isWithin (fun _ node there => ⟨node, there, alike_refl node⟩) known reached).2

theorem exists_of_advance_vacant {segments : List String} {holder : Place} {name : String}
    (vacant : root.advance domain followLast here segments = .vacant holder name) :
    ∃ entries mode, root.at? holder = some (.directory entries mode) ∧
      Entries.get? name entries = none := by
  induction segments generalizing here with
  | nil => simp [advance] at vacant
  | cons segment rest ih =>
    rw [advance_cons] at vacant
    cases looked : stride? domain here segment (root.faceAt? here) with
    | some step =>
      rw [looked] at vacant
      obtain ⟨cause, rfl⟩ | rfl | rfl := stride?_cases looked
      · simp at vacant
      · exact ih vacant
      · exact ih vacant
    | none =>
      simp only [looked] at vacant
      cases next : root.faceAt? (here ++ [segment]) with
      | some node =>
        simp only [next] at vacant
        cases node with
        | link target =>
          rw [descend] at vacant
          split_ifs at vacant
        | file content attributes => exact ih vacant
        | directory entries mode => exact ih vacant
      | none =>
        simp only [next] at vacant
        split_ifs at vacant
        obtain ⟨rfl, rfl⟩ : here = holder ∧ segment = name := by simpa using vacant
        obtain ⟨entries, mode, there⟩ := exists_of_stride?_eq_none looked
        refine ⟨entries, mode, there, ?_⟩
        simpa [faceAt?, at?_child there] using next

theorem exists_of_resolve_vacant {links : Nat} {segments : List String} {holder : Place}
    {name : String}
    (vacant : root.resolve domain followLast links here segments = .ok (.vacant holder name)) :
    ∃ entries mode, root.at? holder = some (.directory entries mode) ∧
      Entries.get? name entries = none := by
  induction links generalizing here segments with
  | zero =>
    rw [resolve] at vacant
    cases stop : root.advance domain followLast here segments with
    | vacant holder' name' =>
      simp only [stop, Except.ok.injEq, Arrival.vacant.injEq] at vacant
      obtain ⟨rfl, rfl⟩ := vacant
      exact exists_of_advance_vacant stop
    | _ => simp [stop] at vacant
  | succ links ih =>
    rw [resolve] at vacant
    cases stop : root.advance domain followLast here segments with
    | vacant holder' name' =>
      simp only [stop, Except.ok.injEq, Arrival.vacant.injEq] at vacant
      obtain ⟨rfl, rfl⟩ := vacant
      exact exists_of_advance_vacant stop
    | link holder' target rest =>
      simp only [stop] at vacant
      exact ih vacant
    | _ => simp [stop] at vacant

/-- Whether there is a file or nothing. -/
def IsPlain (seen : Option Node) : Prop :=
  ∀ node, seen = some node → ∃ content attributes, node = .file content attributes

/-- Whether two trees look the same but at one place, where each of them has a file or nothing. -/
structure SameBut (spot : Place) (root root' : Node) : Prop where
  same : ∀ place, place ≠ spot → root'.faceAt? place = root.faceAt? place
  plain : IsPlain (root.faceAt? spot)
  plain' : IsPlain (root'.faceAt? spot)

namespace SameBut

theorem ne_nil (trees : SameBut spot root root') (known : (root.at? here).isSome)
    (off : here ≠ spot) : spot ≠ [] := by
  rintro rfl
  obtain ⟨content, attributes, file⟩ := trees.plain root.face rfl
  have leaf : root.isDirectory = false := by
    cases root with
    | directory entries mode => simp [face] at file
    | _ => rfl
  simp [at?_of_leaf leaf off] at known

/-- Nothing is below a file. -/
theorem dropLast_ne (trees : SameBut spot root root') (known : (root.at? here).isSome)
    (off : here ≠ spot) : here.dropLast ≠ spot := by
  rintro rfl
  obtain rfl | ne := eq_or_ne here []
  · exact off rfl
  rw [← List.dropLast_append_getLast ne, at?_append] at known
  obtain ⟨node, there⟩ := Option.isSome_iff_exists.1 (Option.isSome_of_isSome_bind known)
  obtain ⟨content, attributes, file⟩ := trees.plain node.face (by rw [faceAt?, there]; rfl)
  have leaf : node.isDirectory = false := by
    cases node with
    | directory entries mode => simp [face] at file
    | _ => rfl
  simp [there, at?_of_leaf leaf] at known

/-- A walk does not go on from a file. -/
theorem advance_spot {seen : Node} (plain : IsPlain (root.faceAt? spot))
    (there : root.faceAt? spot = some seen) {segments : List String} {place : Place}
    (reached : (root.advance domain followLast spot segments).reached? = some place) :
    root.advance domain followLast spot segments = .arrived spot := by
  cases segments with
  | nil => rfl
  | cons segment rest =>
    obtain ⟨content, attributes, rfl⟩ := plain seen there
    rw [advance_cons, there] at reached
    simp [stride?, Stop.reached?] at reached

/-- A walk to something else is the same in both trees. -/
theorem advance (trees : SameBut spot root root') {segments : List String} {place : Place}
    (known : (root.at? here).isSome) (off : here ≠ spot)
    (reached : (root.advance domain followLast here segments).reached? = some place)
    (away : root.advance domain followLast here segments ≠ .arrived spot) :
    root'.advance domain followLast here segments = root.advance domain followLast here segments ∧
      place ≠ spot := by
  induction segments generalizing here with
  | nil =>
    obtain rfl : here = place := by simpa [Node.advance, Stop.reached?] using reached
    exact ⟨rfl, off⟩
  | cons segment rest ih =>
    rw [advance_cons] at reached away
    rw [advance_cons, advance_cons, trees.same here off]
    cases looked : stride? domain here segment (root.faceAt? here) with
    | some step =>
      simp only [looked] at reached away ⊢
      obtain ⟨cause, rfl⟩ | rfl | rfl := stride?_cases looked
      · simp [Stop.reached?] at reached
      · exact ih known off reached away
      · exact ih (isSome_at?_dropLast known) (trees.dropLast_ne known off) reached away
    | none =>
      simp only [looked] at reached away ⊢
      cases next : root.faceAt? (here ++ [segment]) with
      | none =>
        simp only [next] at reached
        split_ifs at reached <;> simp [Stop.reached?] at reached
      | some node =>
        simp only [next] at reached away
        have off' : here ++ [segment] ≠ spot := by
          intro spotted
          rw [spotted] at next
          obtain ⟨content, attributes, rfl⟩ := trees.plain node next
          rw [descend_file, spotted] at reached away
          exact away (advance_spot trees.plain next reached)
        rw [trees.same _ off', next]
        have known' := isSome_at?_of_faceAt? next
        cases node with
        | link target =>
          refine ⟨rfl, ?_⟩
          rw [descend] at reached
          split_ifs at reached
          · obtain rfl := Option.some.inj reached
            exact off'
          · obtain rfl := Option.some.inj reached
            exact off
        | file content attributes => exact ih known' off' reached away
        | directory entries mode => exact ih known' off' reached away

/-- A path that leads to something else leads there in both trees. -/
theorem resolve (trees : SameBut spot root root') {links : Nat} {here : Place} {segments : List String}
    {place : Place} (known : (root.at? here).isSome) (off : here ≠ spot) (away : place ≠ spot)
    (h : root.resolve domain followLast links here segments = .ok (.existing place)) :
    root'.resolve domain followLast links here segments = .ok (.existing place) := by
  rw [Node.resolve] at h ⊢
  cases stop : root.advance domain followLast here segments with
  | arrived q =>
    obtain rfl : q = place := by simpa [stop] using h
    have ne : root.advance domain followLast here segments ≠ .arrived spot := by
      rw [stop]
      simpa using away
    obtain ⟨same, -⟩ := trees.advance known off (by rw [stop]; rfl) ne
    rw [same, stop]
  | vacant holder name => simp [stop] at h
  | refused cause => simp [stop] at h
  | link holder target rest =>
    have reached : (root.advance domain followLast here segments).reached? = some holder := by
      rw [stop]
      rfl
    obtain ⟨same, off'⟩ := trees.advance known off reached (by rw [stop]; simp)
    have known' := isSome_of_reached known reached
    rw [same]
    simp only [stop] at h ⊢
    cases links with
    | zero => simp at h
    | succ links =>
      refine trees.resolve ?_ ?_ away h
      · split_ifs
        · rfl
        · exact known'
      · split_ifs
        · exact (trees.ne_nil known off).symm
        · exact off'

/-- A walk that found its last name missing, or came to a link on its way, once there is something at
the spot; whether a link at the end is to be followed makes no difference. -/
theorem advance_once (trees : SameBut spot root root') (free : root.faceAt? spot = none)
    (made : (root'.faceAt? spot).isSome) {segments : List String} {stop : Stop}
    (known : (root.at? here).isSome)
    (going : (root.advance domain false here segments).once? spot = some stop) (follow : Bool) :
    root'.advance domain follow here segments = stop := by
  induction segments generalizing here with
  | nil => simp [Node.advance, Stop.once?] at going
  | cons segment rest ih =>
    have off : here ≠ spot := by
      rintro rfl
      simp [← isSome_faceAt?, free] at known
    rw [advance_cons] at going ⊢
    rw [trees.same here off]
    cases looked : stride? domain here segment (root.faceAt? here) with
    | some step =>
      simp only [looked] at going ⊢
      obtain ⟨cause, rfl⟩ | rfl | rfl := stride?_cases looked
      · simp [Stop.once?] at going
      · exact ih known going
      · exact ih (isSome_at?_dropLast known) going
    | none =>
      simp only [looked] at going ⊢
      cases next : root.faceAt? (here ++ [segment]) with
      | none =>
        simp only [next] at going
        split_ifs at going with last
        · simp only [Stop.once?] at going
          split_ifs at going with named
          obtain rfl := Option.some.inj going
          obtain ⟨node, there⟩ := Option.isSome_iff_exists.1 made
          obtain ⟨content, attributes, rfl⟩ := trees.plain' node there
          simp only [named, there, descend_file, last]
          rfl
        · simp [Stop.once?] at going
      | some node =>
        have elsewhere : here ++ [segment] ≠ spot := by
          intro same
          simp [same, free] at next
        have known' := isSome_at?_of_faceAt? next
        rw [trees.same _ elsewhere, next]
        simp only [next] at going ⊢
        cases node with
        | link target =>
          rw [descend] at going ⊢
          split_ifs at going with ends
          · simp [Stop.once?] at going
          · have goesOn : ¬rest = [] := by simpa using ends
            rw [if_neg (by simp [goesOn])]
            exact Option.some.inj going
        | file content attributes => exact ih known' going
        | directory entries mode => exact ih known' going

/-- A path that found only its last name missing leads to what is there then. -/
theorem resolve_vacant (trees : SameBut spot root root') (free : root.faceAt? spot = none)
    (made : (root'.faceAt? spot).isSome) {links : Nat} {here : Place} {segments : List String}
    {holder : Place} {name : String} (known : (root.at? here).isSome)
    (named : holder ++ [name] = spot)
    (vacant : root.resolve domain false links here segments = .ok (.vacant holder name))
    (follow : Bool) :
    root'.resolve domain follow links here segments = .ok (.existing spot) := by
  rw [Node.resolve] at vacant ⊢
  cases stop : root.advance domain false here segments with
  | arrived place => simp [stop] at vacant
  | refused cause => simp [stop] at vacant
  | vacant holder' name' =>
    obtain ⟨rfl, rfl⟩ : holder' = holder ∧ name' = name := by simpa [stop] using vacant
    have going : (root.advance domain false here segments).once? spot = some (.arrived spot) := by
      rw [stop, Stop.once?, if_pos named]
    rw [trees.advance_once free made known going follow]
  | link holder' target rest =>
    have reached : (root.advance domain false here segments).reached? = some holder' := by
      rw [stop]
      rfl
    have known' := isSome_of_reached known reached
    have going : (root.advance domain false here segments).once? spot =
        some (.link holder' target rest) := by
      rw [stop, Stop.once?]
    rw [trees.advance_once free made known going follow]
    simp only [stop] at vacant ⊢
    cases links with
    | zero => simp at vacant
    | succ links =>
      refine trees.resolve_vacant free made ?_ named vacant follow
      split_ifs
      · rfl
      · exact known'

end SameBut

end Node

end ScopedCheck
