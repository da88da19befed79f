import ScopedCheck.Proofs.FileSystem.Entering

namespace ScopedCheck

namespace Path

/-- Whether a segment goes to another place, and does not only ask for a directory. -/
def isStep (segment : String) : Bool :=
  segment ≠ "" && segment ≠ "."

/-- The steps of a path. -/
def names (path : Path) : List String :=
  path.segments.filter isStep

variable {path below : Path}

theorem names_join (path : Path) (relative : below.isAbsolute = false) :
    (path.join below).names = path.names ++ below.names := by
  by_cases empty : path.text = ""
  · have nothing : path.names = [] := by simp [names, segments, empty, Text.split, isStep]
    rw [join, if_pos (by simp [empty]), nothing, List.nil_append]
  by_cases slash : path.text.toList.getLast? = some '/'
  · obtain ⟨before, segments, joined⟩ := segments_join_of_slash slash
    rw [names, joined below relative, names, segments, names]
    simp [isStep]
  · rw [names, segments_join_of_not_slash empty slash relative, List.filter_append, names, names]

theorem isAbsolute_join_of_relative (path : Path) (relative : below.isAbsolute = false) :
    (path.join below).isAbsolute = path.isAbsolute := by
  cases absolute : path.isAbsolute with
  | true => exact isAbsolute_join absolute below
  | false =>
    cases text : path.text.toList with
    | nil =>
      have empty : path.text = "" := by simpa using text
      rw [join, if_pos (by simp [empty]), relative]
    | cons c cs =>
      have first : c ≠ '/' := by simpa [isAbsolute, text] using absolute
      have full : path.text ≠ "" := by
        intro empty
        simp [empty] at text
      rw [join, if_neg (by simp [relative, full])]
      split_ifs <;> simp [isAbsolute, text, first]

end Path

namespace Node

variable {root root' : Node} {domain here : Place} {followLast : Bool} {segments : List String}

/-- A segment that does not go up ends the walk, leaves it where it is or asks for an entry. -/
theorem stride?_of_ne_up {segment : String} (down : segment ≠ "..") (domain here : Place)
    (seen : Option Node) :
    (∃ cause, stride? domain here segment seen = some (.inl (.refused cause))) ∨
      (Path.isStep segment = false ∧ stride? domain here segment seen = some (.inr here)) ∨
      (Path.isStep segment ∧ stride? domain here segment seen = none) := by
  match seen with
  | none =>
    rw [stride?]
    split_ifs with idle
    · exact .inr (.inl ⟨by simpa [Path.isStep, or_iff_not_imp_left] using idle, rfl⟩)
    · exact .inl ⟨_, rfl⟩
  | some (.file content attributes) => exact .inl ⟨_, rfl⟩
  | some (.link target) => exact .inl ⟨_, rfl⟩
  | some (.directory entries mode) =>
    rw [stride?]
    split_ifs with empty closed dot long
    · exact .inr (.inl ⟨by simp [Path.isStep, empty], rfl⟩)
    · exact .inl ⟨_, rfl⟩
    · exact .inr (.inl ⟨by simp [Path.isStep, dot], rfl⟩)
    · exact .inl ⟨_, rfl⟩
    · exact .inr (.inr ⟨by simp [Path.isStep, empty, dot], rfl⟩)

/-- Whether the same can be seen in two trees on the way from a place down through names. -/
def SameAlong (root root' : Node) (here : Place) (names : List String) : Prop :=
  ∀ down, down <+: names → root'.faceAt? (here ++ down) = root.faceAt? (here ++ down)

/-- Whether there is no link on the way from a place down through names. -/
def Unlinked (root : Node) (here : Place) (names : List String) : Prop :=
  ∀ down, down <+: names → ∀ target, root.faceAt? (here ++ down) ≠ some (.link target)

def isLink : Node → Bool
  | link _ => true
  | _ => false

theorem unlinked_iff {names : List String} : root.Unlinked here names ↔
    ∀ down ∈ names.inits, (root.faceAt? (here ++ down)).any isLink = false := by
  simp only [Unlinked, List.mem_inits]
  refine forall_congr' fun down => imp_congr_right fun shorter => ?_
  cases root.faceAt? (here ++ down) with
  | none => simp
  | some node => cases node <;> simp [isLink]

instance (root : Node) (here : Place) (names : List String) : Decidable (root.Unlinked here names) :=
  decidable_of_iff _ unlinked_iff.symm

theorem SameAlong.symm {names : List String} (same : SameAlong root root' here names) :
    SameAlong root' root here names :=
  fun down shorter => (same down shorter).symm

theorem SameAlong.tail {name : String} {names : List String}
    (same : SameAlong root root' here (name :: names)) :
    SameAlong root root' (here ++ [name]) names := by
  intro down shorter
  rw [List.append_assoc]
  exact same _ (List.cons_prefix_cons.2 ⟨rfl, shorter⟩)

theorem Unlinked.tail {name : String} {names : List String}
    (unlinked : root.Unlinked here (name :: names)) : root.Unlinked (here ++ [name]) names := by
  intro down shorter
  rw [List.append_assoc]
  exact unlinked _ (List.cons_prefix_cons.2 ⟨rfl, shorter⟩)

/-- A walk straight down is the same in trees that look the same on its way. -/
theorem advance_of_sameAlong (straight : ".." ∉ segments)
    (same : SameAlong root root' here (segments.filter Path.isStep)) :
    root'.advance domain followLast here segments = root.advance domain followLast here segments := by
  induction segments generalizing here with
  | nil => rfl
  | cons segment rest ih =>
    obtain ⟨down, straight'⟩ := not_or.1 (List.mem_cons.not.1 straight)
    have seen : root'.faceAt? here = root.faceAt? here := by simpa using same [] List.nil_prefix
    rw [advance_cons, advance_cons, seen]
    obtain ⟨cause, stride⟩ | ⟨idle, stride⟩ | ⟨step, stride⟩ :=
      stride?_of_ne_up (Ne.symm down) domain here (root.faceAt? here)
    · rw [stride]
    · rw [List.filter_cons_of_neg (by simp [idle])] at same
      rw [stride]
      exact ih straight' same
    · rw [List.filter_cons_of_pos step] at same
      have next : root'.faceAt? (here ++ [segment]) = root.faceAt? (here ++ [segment]) :=
        same [segment] (List.cons_prefix_cons.2 ⟨rfl, List.nil_prefix⟩)
      have further := ih straight' same.tail
      simp only [stride, next]
      cases root.faceAt? (here ++ [segment]) with
      | none => rfl
      | some node =>
        cases node with
        | link target => rfl
        | file content attributes => exact further
        | directory entries mode => exact further

/-- A walk straight down comes to no link, and it arrives where its steps lead. -/
theorem advance_of_unlinked (domain : Place) (followLast : Bool) (straight : ".." ∉ segments)
    (unlinked : root.Unlinked here (segments.filter Path.isStep)) :
    (∃ cause, root.advance domain followLast here segments = .refused cause) ∨
      (∃ holder name, root.advance domain followLast here segments = .vacant holder name) ∨
      root.advance domain followLast here segments = .arrived (here ++ segments.filter Path.isStep) := by
  induction segments generalizing here with
  | nil => simp [advance]
  | cons segment rest ih =>
    obtain ⟨down, straight'⟩ := not_or.1 (List.mem_cons.not.1 straight)
    rw [advance_cons]
    obtain ⟨cause, stride⟩ | ⟨idle, stride⟩ | ⟨step, stride⟩ :=
      stride?_of_ne_up (Ne.symm down) domain here (root.faceAt? here)
    · exact .inl ⟨cause, by rw [stride]⟩
    · rw [List.filter_cons_of_neg (by simp [idle])] at unlinked ⊢
      rw [stride]
      exact ih straight' unlinked
    · rw [List.filter_cons_of_pos step] at unlinked ⊢
      have further := ih straight' unlinked.tail
      rw [List.append_assoc, List.singleton_append] at further
      simp only [stride]
      cases next : root.faceAt? (here ++ [segment]) with
      | none =>
        dsimp only
        split_ifs
        · exact .inr (.inl ⟨_, _, rfl⟩)
        · exact .inl ⟨_, rfl⟩
      | some node =>
        cases node with
        | link target =>
          exact absurd next (unlinked [segment] (List.cons_prefix_cons.2 ⟨rfl, List.nil_prefix⟩) target)
        | file content attributes => exact further
        | directory entries mode => exact further

theorem resolve_of_sameAlong {links : Nat} (straight : ".." ∉ segments)
    (unlinked : root.Unlinked here (segments.filter Path.isStep))
    (same : SameAlong root root' here (segments.filter Path.isStep)) :
    root'.resolve domain followLast links here segments =
      root.resolve domain followLast links here segments := by
  rw [resolve, resolve, advance_of_sameAlong straight same]
  obtain ⟨cause, stop⟩ | ⟨holder, name, stop⟩ | stop :=
    advance_of_unlinked domain followLast straight unlinked
  all_goals simp only [stop]

theorem eq_of_resolve_existing {links : Nat} {place : Place} (straight : ".." ∉ segments)
    (unlinked : root.Unlinked here (segments.filter Path.isStep))
    (led : root.resolve domain followLast links here segments = .ok (.existing place)) :
    place = here ++ segments.filter Path.isStep := by
  rw [resolve] at led
  obtain ⟨cause, stop⟩ | ⟨holder, name, stop⟩ | stop :=
    advance_of_unlinked domain followLast straight unlinked
  · simp [stop] at led
  · simp [stop] at led
  · simpa [stop, eq_comm] using led

/-- A tree is within another one if what is seen in it is seen in the other. -/
theorem isWithin_iff : root.IsWithin root' ↔
    ∀ place, (root.faceAt? place).isSome → root'.faceAt? place = root.faceAt? place := by
  have alike_iff (node node' : Node) : node.Alike node' ↔ node'.face = node.face := by
    cases node <;> cases node' <;> simp [Alike, face, eq_comm]
  constructor
  · intro within place there
    rw [isSome_faceAt?] at there
    obtain ⟨node, there⟩ := Option.isSome_iff_exists.1 there
    obtain ⟨node', there', alike⟩ := within place node there
    rw [faceAt?, faceAt?, there, there', Option.map_some, Option.map_some, (alike_iff _ _).1 alike]
  · intro same place node there
    have seen : root'.faceAt? place = some node.face := by
      rw [same place (by rw [isSome_faceAt?, there]; rfl), faceAt?, there, Option.map_some]
    obtain ⟨node', there', face⟩ := Option.map_eq_some_iff.1 seen
    exact ⟨node', there', (alike_iff _ _).2 face⟩

/-- Nothing changes on the way to something that was there already. -/
theorem sameAlong_of_isWithin (within : root.IsWithin root') {names : List String}
    (there : (root.faceAt? (here ++ names)).isSome) : SameAlong root root' here names := by
  rintro down ⟨rest, rfl⟩
  rw [← List.append_assoc, isSome_faceAt?, at?_append] at there
  have above : (root.faceAt? (here ++ down)).isSome := by
    rw [isSome_faceAt?]
    exact Option.isSome_of_isSome_bind there
  exact isWithin_iff.1 within _ above

/-- Where a walk arrives, or comes to a link, it does so in a larger tree as well, if the way to where it
starts is the same; it may start at a place where nothing is. -/
theorem advance_of_still (within : root.IsWithin root') (still : SameAlong root root' [] here)
    {segments : List String} {place : Place}
    (reached : (root.advance domain followLast here segments).reached? = some place) :
    root'.advance domain followLast here segments = root.advance domain followLast here segments ∧
      SameAlong root root' [] place := by
  induction segments generalizing here with
  | nil =>
    obtain rfl : here = place := by simpa [advance, Stop.reached?] using reached
    exact ⟨rfl, still⟩
  | cons segment rest ih =>
    have seen : root'.faceAt? here = root.faceAt? here := still here List.prefix_rfl
    rw [advance_cons] at reached
    rw [advance_cons, advance_cons, seen]
    cases looked : stride? domain here segment (root.faceAt? here) with
    | some step =>
      simp only [looked] at reached ⊢
      obtain ⟨cause, rfl⟩ | rfl | rfl := stride?_cases looked
      · simp [Stop.reached?] at reached
      · exact ih still reached
      · exact ih (fun down shorter => still down (shorter.trans here.dropLast_prefix)) reached
    | none =>
      simp only [looked] at reached ⊢
      cases next : root.faceAt? (here ++ [segment]) with
      | none =>
        simp only [next] at reached
        split_ifs at reached <;> simp [Stop.reached?] at reached
      | some node =>
        have there : (root.faceAt? ([] ++ (here ++ [segment]))).isSome := by simp [next]
        have still' := sameAlong_of_isWithin within there
        have next' : root'.faceAt? (here ++ [segment]) = some node :=
          (still' _ List.prefix_rfl).trans next
        simp only [next] at reached
        rw [next']
        cases node with
        | link target =>
          refine ⟨rfl, ?_⟩
          rw [descend] at reached
          split_ifs at reached
          · obtain rfl := Option.some.inj reached
            exact still'
          · obtain rfl := Option.some.inj reached
            exact still
        | file content attributes => exact ih still' reached
        | directory entries mode => exact ih still' reached

theorem resolve_of_still (within : root.IsWithin root') {links : Nat} {here : Place}
    (still : SameAlong root root' [] here) {segments : List String} {place : Place}
    (led : root.resolve domain followLast links here segments = .ok (.existing place)) :
    root'.resolve domain followLast links here segments = .ok (.existing place) := by
  rw [resolve] at led ⊢
  cases stop : root.advance domain followLast here segments with
  | vacant holder name => simp [stop] at led
  | refused cause => simp [stop] at led
  | arrived place' =>
    rw [(advance_of_still within still (by rw [stop]; rfl)).1, stop]
    rwa [stop] at led
  | link holder target rest =>
    obtain ⟨same, still'⟩ := advance_of_still within still (by rw [stop]; rfl)
    rw [same]
    simp only [stop] at led ⊢
    cases links with
    | zero => simp at led
    | succ links =>
      refine resolve_of_still within ?_ led
      split_ifs
      · exact sameAlong_of_isWithin within rfl
      · exact still'

end Node

namespace Site

variable {site site' : Site} {path : Path} {here place : Place}

/-- Where the first step of a path starts. -/
def origin? (site : Site) (path : Path) : Option Place :=
  if path.isAbsolute then some [] else site.directory

/-- Whether a path neither goes up nor through a link. -/
structure IsDirect (site : Site) (path : Path) : Prop where
  straight : ".." ∉ path.segments
  unlinked : ∀ here ∈ site.origin? path, site.root.Unlinked here path.names

theorem isDirect_iff : site.IsDirect path ↔
    ".." ∉ path.segments ∧ ∀ here ∈ site.origin? path, site.root.Unlinked here path.names :=
  ⟨fun direct => ⟨direct.straight, direct.unlinked⟩, fun ⟨straight, unlinked⟩ => ⟨straight, unlinked⟩⟩

instance (site : Site) (path : Path) : Decidable (site.IsDirect path) :=
  decidable_of_iff _ isDirect_iff.symm

theorem isFile_iff : site.isFile path ↔ ∃ place content attributes,
    site.locate true path = .ok (.existing place) ∧
      site.root.faceAt? place = some (.file content attributes) ∧ attributes.kind = .regular := by
  constructor
  · intro file
    cases found : site.find true path with
    | error cause => simp [isFile, node, found, Except.map] at file
    | ok seen =>
      obtain ⟨place, node⟩ := seen
      have kept : node.isFile := by simpa [isFile, Site.node, found, Except.map] using file
      obtain ⟨located, there | rfl⟩ := exists_of_find found
      · cases node with
        | file content attributes =>
          exact ⟨place, content, attributes, located, Node.faceAt?_file_iff.2 there,
            by simpa [Node.isFile] using kept⟩
        | link target => simp [Node.isFile] at kept
        | directory entries mode => simp [Node.isFile] at kept
      · simp [Node.isFile] at kept
  · rintro ⟨place, content, attributes, located, there, regular⟩
    rw [isFile, Site.node, find_of_locate located (Node.faceAt?_file_iff.1 there)]
    simpa [Except.map, Node.isFile] using regular

theorem exists_of_locate {arrival : Arrival} (located : site.locate true path = .ok arrival) :
    ∃ here, site.origin? path = some here ∧
      site.root.resolve site.domain true maxLinks here path.segments = .ok arrival := by
  unfold locate at located
  split_ifs at located with _ _ _ absolute
  · exact ⟨[], if_pos absolute, located⟩
  · cases start : site.directory with
    | none => simp [start] at located
    | some here =>
      rw [start] at located
      exact ⟨here, by rw [origin?, if_neg absolute, start], located⟩

/-- What decides whether a path can be located at all is the path and the directory it is seen from. -/
theorem locate_of_resolve_eq (here : site'.directory = site.directory)
    (same : ∀ here, site.origin? path = some here →
      site'.root.resolve site'.domain true maxLinks here path.segments =
        site.root.resolve site.domain true maxLinks here path.segments) :
    site'.locate true path = site.locate true path := by
  unfold locate
  split_ifs with _ _ _ absolute
  · rfl
  · rfl
  · rfl
  · exact same [] (if_pos absolute)
  · rw [here]
    cases start : site.directory with
    | none => rfl
    | some here => exact same here (by rw [origin?, if_neg absolute, start])

/-- What a direct path leads to depends on what is seen on its way only. -/
theorem isFile_of_sameAlong (direct : site.IsDirect path) (here : site'.directory = site.directory)
    (domain : site'.domain = site.domain)
    (same : ∀ here, site.origin? path = some here →
      Node.SameAlong site.root site'.root here path.names) :
    site'.isFile path = site.isFile path := by
  have located : site'.locate true path = site.locate true path := by
    refine locate_of_resolve_eq here fun start origin => ?_
    rw [domain]
    exact Node.resolve_of_sameAlong direct.straight (direct.unlinked start origin) (same start origin)
  have seen (place : Place) (there : site.locate true path = .ok (.existing place)) :
      site'.root.faceAt? place = site.root.faceAt? place := by
    obtain ⟨start, origin, led⟩ := exists_of_locate there
    rw [Node.eq_of_resolve_existing direct.straight (direct.unlinked start origin) led]
    exact same start origin _ List.prefix_rfl
  rw [Bool.eq_iff_iff, isFile_iff, isFile_iff]
  refine exists_congr fun place => exists_congr fun content => exists_congr fun attributes => ?_
  rw [located]
  exact and_congr_right fun there => by rw [seen place there]

/-- A file that a direct path leads to is where the steps of the path lead. -/
theorem exists_of_isFile (direct : site.IsDirect path) (file : site.isFile path) :
    ∃ here, site.origin? path = some here ∧ (site.root.faceAt? (here ++ path.names)).isSome := by
  obtain ⟨place, content, attributes, located, there, -⟩ := isFile_iff.1 file
  obtain ⟨here, origin, led⟩ := exists_of_locate located
  refine ⟨here, origin, ?_⟩
  rw [Path.names, ← Node.eq_of_resolve_existing direct.straight (direct.unlinked here origin) led, there]
  rfl

/-- Where there is a file there still is one when the tree has grown. -/
theorem isFile_of_isWithin (within : site.root.IsWithin site'.root)
    (here : site'.directory = site.directory) (domain : site'.domain = site.domain)
    (still : ∀ here, site.origin? path = some here → Node.SameAlong site.root site'.root [] here)
    (file : site.isFile path) : site'.isFile path := by
  obtain ⟨place, content, attributes, located, there, regular⟩ := isFile_iff.1 file
  have located' : site'.locate true path = site.locate true path := by
    refine locate_of_resolve_eq here fun start origin => ?_
    obtain ⟨start', origin', led⟩ := exists_of_locate located
    obtain rfl : start = start' := Option.some.inj (origin.symm.trans origin')
    rw [domain, led]
    exact Node.resolve_of_still within (still start origin) led
  have there' : site'.root.faceAt? place = some (.file content attributes) := by
    rw [Node.isWithin_iff.1 within place (by rw [there]; rfl), there]
  exact isFile_iff.2 ⟨place, content, attributes, located'.trans located, there', regular⟩

end Site

end ScopedCheck
