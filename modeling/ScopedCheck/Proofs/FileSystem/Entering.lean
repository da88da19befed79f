import ScopedCheck.Proofs.FileSystem.Creation
import ScopedCheck.Proofs.FileSystem.Descent

namespace ScopedCheck

/-- What becomes of a walk that goes on by more segments: where it arrived it goes on from that place,
and where a link interrupted it these segments come after the others. -/
def Stop.goOn (go : Place → List String → Stop) (more : List String) : Stop → Stop
  | .arrived place => go place more
  | .vacant .. => .refused .notFound
  | .link holder target rest => .link holder target (rest ++ more)
  | .refused cause => .refused cause

namespace Node

variable {root : Node} {domain here holder place : Place} {links : Nat} {segments : List String}
  {name : String}

/-- A walk of which more is left goes through all links on its way. -/
theorem advance_append (root : Node) (domain : Place) (followLast : Bool) (here : Place)
    (segments : List String) {more : List String} (some : more ≠ []) :
    root.advance domain followLast here (segments ++ more) =
      (root.advance domain true here segments).goOn (root.advance domain followLast) more := by
  induction segments generalizing here with
  | nil => rfl
  | cons segment rest ih =>
    rw [List.cons_append, advance_cons, advance_cons]
    cases looked : stride? domain here segment (root.faceAt? here) with
    | some step =>
      obtain ⟨cause, rfl⟩ | rfl | rfl := stride?_cases looked
      · rfl
      · exact ih here
      · exact ih here.dropLast
    | none =>
      dsimp only
      cases root.faceAt? (here ++ [segment]) with
      | none =>
        rw [if_neg (by simp [some])]
        split_ifs <;> rfl
      | some node =>
        cases node with
        | link target => simp [descend, some, Stop.goOn]
        | file content attributes => exact ih (here ++ [segment])
        | directory entries mode => exact ih (here ++ [segment])

/-- A path that leads somewhere goes through the place that its first segments lead to. -/
theorem exists_of_resolve_append {followLast : Bool} {links : Nat} {here : Place}
    {segments more : List String} (some : more ≠ []) {arrival : Arrival}
    (led : root.resolve domain followLast links here (segments ++ more) = .ok arrival) :
    ∃ place links', root.resolve domain true links here segments = .ok (.existing place) ∧
      root.resolve domain followLast links' place more = .ok arrival := by
  rw [resolve, advance_append root domain followLast here segments some] at led
  cases stop : root.advance domain true here segments with
  | arrived place =>
    refine ⟨place, links, by rw [resolve, stop], ?_⟩
    rw [stop, Stop.goOn] at led
    rw [resolve]
    exact led
  | link holder target rest =>
    cases links with
    | zero => simp [stop, Stop.goOn] at led
    | succ links =>
      -- The segments behind those of the link's target are still the last ones, so the walk from the
      -- target has the same form, with one link less to follow.
      simp only [stop, Stop.goOn] at led
      rw [← List.append_assoc] at led
      obtain ⟨place, links', first, onward⟩ := exists_of_resolve_append some led
      exact ⟨place, links', by rw [resolve, stop]; exact first, onward⟩
  | vacant holder name => simp [stop, Stop.goOn] at led
  | refused cause => simp [stop, Stop.goOn] at led

/-- A slash after a path to a directory changes nothing. -/
theorem resolve_append_empty {links : Nat} {here : Place} {segments : List String}
    {entries : Entries} {mode : Nat}
    (led : root.resolve domain true links here segments = .ok (.existing place))
    (folder : root.at? place = some (.directory entries mode)) :
    root.resolve domain true links here (segments ++ [""]) = .ok (.existing place) := by
  rw [resolve] at led ⊢
  rw [advance_append root domain true here segments (by simp)]
  cases stop : root.advance domain true here segments with
  | arrived arrived =>
    obtain rfl : arrived = place := by simpa [stop] using led
    simp [Stop.goOn, advance, folder]
  | link holder target rest =>
    cases links with
    | zero => simp [stop] at led
    | succ links =>
      simp only [stop] at led
      simp only [Stop.goOn]
      rw [← List.append_assoc]
      exact resolve_append_empty led folder
  | vacant holder name => simp [stop] at led
  | refused cause => simp [stop] at led

/-- The name that is missing at the end of a path is missing in the directory that the rest leads to. -/
theorem resolve_of_vacant {leaf : String} (isName : IsName name)
    (vacant : root.resolve domain false links here (segments ++ [name]) =
      .ok (.vacant holder leaf)) :
    root.resolve domain true links here segments = .ok (.existing holder) ∧ leaf = name := by
  obtain ⟨place, links', led, onward⟩ := exists_of_resolve_append (by simp) vacant
  obtain ⟨rfl, rfl⟩ := eq_of_resolve_name isName onward
  exact ⟨led, rfl⟩

end Node

namespace Path

variable {path : Path}

theorem text_ne_of_isAbsolute (absolute : path.isAbsolute) : path.text ≠ "" := by
  intro empty
  simp [isAbsolute, empty] at absolute

theorem prefix_front (path : Path) : path.text.toList <+: path.front := by
  unfold front
  split_ifs with empty last
  · simp [empty]
  · exact List.prefix_rfl
  · exact List.prefix_append _ _

theorem segments_join_of_slash (slash : path.text.toList.getLast? = some '/') :
    ∃ before, path.segments = before ++ [""] ∧ ∀ below : Path, below.isAbsolute = false →
      (path.join below).segments = before ++ below.segments := by
  obtain ⟨cs, text⟩ := List.getLast?_eq_some_iff.1 slash
  have full : path.text ≠ "" := by
    intro empty
    simp [empty] at text
  refine ⟨(Text.split '/' cs).map String.ofList, ?_, fun below relative => ?_⟩
  · rw [segments, text, Text.split_cut]
    simp [Text.split]
  · rw [segments, toList_join path relative, front, if_neg full, if_pos slash, text, List.append_assoc,
      List.singleton_append, Text.split_cut, List.map_append, segments]

theorem segments_join_of_not_slash (full : path.text ≠ "")
    (slash : path.text.toList.getLast? ≠ some '/') {below : Path} (relative : below.isAbsolute = false) :
    (path.join below).segments = path.segments ++ below.segments := by
  rw [segments, toList_join path relative, front, if_neg full, if_neg slash, List.append_assoc,
    List.singleton_append, Text.split_cut, List.map_append, segments, segments]

theorem segments_name {name : String} (isName : Node.IsName name) : (⟨name⟩ : Path).segments = [name] := by
  rw [segments, Text.split_uncut isName.2.2.2]
  simp

/-- A path seen from a directory goes through the names of that directory. -/
theorem segments_join_ofNames {names : List String} (named : ∀ name ∈ names, Node.IsName name)
    {below : Path} (relative : below.isAbsolute = false) :
    ((ofNames names).join below).segments = "" :: (names ++ below.segments) := by
  obtain rfl | some := eq_or_ne names []
  · have slash : (ofNames []).text.toList.getLast? = some '/' := by decide
    obtain ⟨before, root, joined⟩ := segments_join_of_slash slash
    obtain rfl : before = [""] := by
      have two : (ofNames []).segments = [""] ++ [""] := by decide
      exact List.append_cancel_right (root.symm.trans two)
    exact joined below relative
  · have full : (ofNames names).text ≠ "" := text_ne_of_isAbsolute (isAbsolute_ofNames names)
    rw [segments_join_of_not_slash full (getLast?_ofNames some named) relative,
      segments_ofNames some named, List.cons_append]

end Path

namespace Site

variable {site : Site} {path : Path} {holder place : Place} {name leaf : String}

/-- A path whose text is part of that of another one can be located if that can be. -/
theorem locate_of_part {path' : Path} {followLast followLast' : Bool} {arrival arrival' : Arrival}
    {start : Place} (part : path.text.toList.Sublist path'.text.toList) (full : path.text ≠ "")
    (located : site.locate followLast' path' = .ok arrival')
    (first : (if path.isAbsolute then some [] else site.directory) = some start)
    (led : site.root.resolve site.domain followLast maxLinks start path.segments = .ok arrival) :
    site.locate followLast path = .ok arrival := by
  have nul : ¬path'.text.toList.contains '\x00' := by
    intro there
    rw [locate, if_pos there] at located
    cases located
  have long : ¬path'.isTooLong := by
    intro there
    unfold locate at located
    split_ifs at located
  have nul' : ¬path.text.toList.contains '\x00' := by
    simp only [List.contains_iff_mem] at nul ⊢
    exact fun mem => nul (part.subset mem)
  have long' : ¬path.isTooLong := by
    have bytes : (Utf8.encode path.text).length ≤ (Utf8.encode path'.text).length :=
      (part.flatMap String.utf8EncodeChar).length_le
    simp only [Path.isTooLong, decide_eq_true_eq, Nat.not_lt] at long ⊢
    exact bytes.trans long
  rw [locate, if_neg nul', if_neg full, if_neg long', first]
  exact led

/-- A name that is missing in a directory is missing where the path of the directory leads. -/
theorem locate_of_child_vacant (absolute : path.isAbsolute) (isName : Node.IsName name)
    (vacant : site.locate false (path.child name) = .ok (.vacant holder leaf)) :
    site.locate true path = .ok (.existing holder) ∧ leaf = name := by
  have relative := Path.isAbsolute_name isName
  have full := Path.text_ne_of_isAbsolute absolute
  have resolved := locate_absolute (Path.isAbsolute_join absolute _) vacant
  obtain ⟨entries, mode, folder, -⟩ := Node.exists_of_resolve_vacant resolved
  have part : path.text.toList.Sublist (path.child name).text.toList := by
    rw [Path.child, Path.toList_join path relative]
    exact (path.prefix_front.trans (List.prefix_append _ _)).sublist
  suffices led : site.root.resolve site.domain true maxLinks [] path.segments =
      .ok (.existing holder) ∧ leaf = name from
    ⟨locate_of_part part full vacant (if_pos absolute) led.1, led.2⟩
  by_cases slash : path.text.toList.getLast? = some '/'
  · obtain ⟨before, segments, joined⟩ := Path.segments_join_of_slash slash
    rw [joined _ relative, Path.segments_name isName] at resolved
    obtain ⟨led, rfl⟩ := Node.resolve_of_vacant isName resolved
    rw [segments]
    exact ⟨Node.resolve_append_empty led folder, rfl⟩
  · rw [Path.segments_join_of_not_slash full slash relative, Path.segments_name isName] at resolved
    exact Node.resolve_of_vacant isName resolved

/-- Where a directory is. The empty path stands for the directory that the site is seen from. -/
def LeadsTo (site : Site) (directory : Path) (place : Place) : Prop :=
  if directory.text = "" then site.directory = some place
  else site.locate true directory = .ok (.existing place)

/-- A relative path leads to where it leads from the directory that the site is seen from. -/
theorem leadsTo_of_join {directory : Path} {entries : Entries} {mode : Nat}
    (wellFormed : site.root.WellFormed) (here : site.directory = some place)
    (folder : site.root.at? place = some (.directory entries mode))
    (relative : directory.isAbsolute = false)
    (located : site.locate true ((Path.ofNames place).join directory) = .ok (.existing holder)) :
    site.LeadsTo directory holder := by
  have named := (wellFormed.at? folder).2
  have led := locate_absolute (Path.isAbsolute_join (Path.isAbsolute_ofNames place) _) located
  rw [Path.segments_join_ofNames named relative] at led
  have led := Node.resolve_names named folder led
  unfold LeadsTo
  split_ifs with empty
  · have segments : directory.segments = [""] := by simp [Path.segments, empty, Text.split]
    rw [segments, Node.resolve, Node.advance, folder] at led
    obtain rfl : place = holder := by simpa [Node.advance] using led
    exact here
  · refine locate_of_part ?_ empty located (by simp [relative, here]) led
    rw [Path.toList_join _ relative]
    exact (List.suffix_append _ _).sublist

end Site

end ScopedCheck
