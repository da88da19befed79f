import ScopedCheck.Proofs.Config.Blanking
import ScopedCheck.Proofs.Config.Tolerance
import ScopedCheck.Proofs.Text.Utf8

namespace ScopedCheck.Json.Position

theorem eq_of_parts {p q : Position} (line : p.line = q.line) (column : p.column = q.column) : p = q := by
  cases p
  cases q
  exact congrArg₂ mk line column

theorem after_append {bytes rest : Utf8.Bytes} (same_line : 10 ∉ rest) :
    after (bytes ++ rest) = ⟨(after bytes).line, (after bytes).column + rest.length⟩ := by
  have none_there : rest.count 10 = 0 := List.count_eq_zero.2 same_line
  have all : ∀ b ∈ rest.reverse, decide (b ≠ 10) = true := by
    intro b hb
    have other : b ≠ 10 := by
      rintro rfl
      exact same_line (List.mem_reverse.1 hb)
    simp [other]
  simp only [after, List.count_append, none_there, List.reverse_append,
    List.takeWhile_append_of_pos all, List.length_append, List.length_reverse, mk.injEq]
  omega

theorem after_lineEnd (bytes : Utf8.Bytes) : after (bytes ++ [10]) = ⟨(after bytes).line + 1, 0⟩ := by
  simp [after, Nat.add_assoc]

end ScopedCheck.Json.Position

namespace ScopedCheck.Lenient

open Json (Position)

/-- The position behind so many characters of a text and so many bytes of the next one. -/
def place (cs : List Char) (n e : Nat) : Position :=
  .after ((Utf8.encodeChars cs).take (Utf8.byteLength (cs.take n) + e))

/-- Whether there is a place behind so many characters and so many bytes of the next one. -/
def IsPlace (cs : List Char) (n e : Nat) : Prop :=
  n ≤ cs.length ∧ (e = 0 ∨ ∃ c, cs[n]? = some c ∧ e < c.utf8Size)

/-- Every number of bytes is that of some characters and a part of the next one. -/
theorem exists_place {cs : List Char} {b : Nat} (h : b ≤ Utf8.byteLength cs) :
    ∃ n e, IsPlace cs n e ∧ b = Utf8.byteLength (cs.take n) + e := by
  induction cs generalizing b with
  | nil =>
    have none_left : b = 0 := Nat.le_zero.1 h
    exact ⟨0, 0, ⟨Nat.le_refl 0, .inl rfl⟩, none_left⟩
  | cons c cs ih =>
    by_cases within : b < c.utf8Size
    · exact ⟨0, b, ⟨Nat.zero_le _, .inr ⟨c, rfl, within⟩⟩, by simp [Utf8.byteLength]⟩
    · have rest : b - c.utf8Size ≤ Utf8.byteLength cs := by
        simp only [Utf8.byteLength] at h
        omega
      have whole : b = c.utf8Size + (b - c.utf8Size) := by omega
      obtain ⟨n, e, ⟨bound, part⟩, same⟩ := ih rest
      refine ⟨n + 1, e, ⟨by simpa using bound, by simpa using part⟩, ?_⟩
      rw [List.take_succ_cons, Utf8.byteLength, Nat.add_assoc, ← same]
      exact whole

theorem encodeChars_append (cs ds : List Char) :
    Utf8.encodeChars (cs ++ ds) = Utf8.encodeChars cs ++ Utf8.encodeChars ds :=
  List.flatMap_append

section

variable {cs : List Char} {n e : Nat} {c : Char}

theorem encodeChars_split (there : cs[n]? = some c) : Utf8.encodeChars cs =
    Utf8.encodeChars (cs.take n) ++ (String.utf8EncodeChar c ++ Utf8.encodeChars (cs.drop (n + 1))) := by
  obtain ⟨bound, same⟩ := List.getElem?_eq_some_iff.1 there
  have parts : cs = cs.take n ++ c :: cs.drop (n + 1) := by
    rw [← same, List.getElem_cons_drop, List.take_append_drop]
  have whole := congrArg Utf8.encodeChars parts
  rw [encodeChars_append] at whole
  exact whole

theorem place_zero (cs : List Char) (n : Nat) : place cs n 0 = .after (Utf8.encodeChars (cs.take n)) := by
  have parts := encodeChars_append (cs.take n) (cs.drop n)
  rw [List.take_append_drop] at parts
  rw [place, parts, Nat.add_zero, ← Utf8.length_encodeChars, List.take_left]

theorem place_succ (there : cs[n]? = some c) : place cs (n + 1) 0 = if c = '\n'
    then ⟨(place cs n 0).line + 1, 0⟩
    else ⟨(place cs n 0).line, (place cs n 0).column + c.utf8Size⟩ := by
  have step : Utf8.encodeChars (cs.take (n + 1)) =
      Utf8.encodeChars (cs.take n) ++ String.utf8EncodeChar c := by
    rw [List.take_add_one, there, Option.toList_some, encodeChars_append]
    simp [Utf8.encodeChars]
  rw [place_zero, place_zero, step]
  split_ifs with line_end
  · subst line_end
    exact Position.after_lineEnd _
  · rw [Position.after_append (Utf8.lineEnd_not_mem line_end), String.length_utf8EncodeChar]

theorem place_part (there : cs[n]? = some c) (part : e < c.utf8Size) :
    place cs n e = ⟨(place cs n 0).line, (place cs n 0).column + e⟩ := by
  by_cases line_end : c = '\n'
  · subst line_end
    obtain rfl : e = 0 := by
      have : ('\n').utf8Size = 1 := rfl
      omega
    rfl
  have bytes : (Utf8.encodeChars cs).take (Utf8.byteLength (cs.take n) + e) =
      Utf8.encodeChars (cs.take n) ++ (String.utf8EncodeChar c).take e := by
    have short : e ≤ (String.utf8EncodeChar c).length := by
      rw [String.length_utf8EncodeChar]
      omega
    rw [encodeChars_split there, ← Utf8.length_encodeChars, List.take_length_add_append,
      List.take_append_of_le_length short]
  have same_line : 10 ∉ (String.utf8EncodeChar c).take e := by
    intro h
    exact Utf8.lineEnd_not_mem line_end (List.mem_of_mem_take h)
  have size : ((String.utf8EncodeChar c).take e).length = e := by
    rw [List.length_take, String.length_utf8EncodeChar]
    omega
  rw [place, bytes, Position.after_append same_line, size, place_zero]

end

/-- The bytes that a character loses, unless it is a line end. -/
def lost (m : Mode × Char) : Nat :=
  if m.1.isComment then m.2.utf8Size - 1 else 0

/-- The characters before a place on its line, the nearest first, with what they belong to. -/
def onLine (cs : List Char) (n : Nat) : List (Mode × Char) :=
  ((label .code cs).take n).reverse.takeWhile fun m => m.2 ≠ '\n'

/-- The bytes that are missing before a place on its line. -/
def hidden (cs : List Char) (n : Nat) : Nat :=
  ((onLine cs n).map lost).sum

section

variable {cs : List Char} {n : Nat} {m : Mode × Char}

theorem hidden_succ (there : (label .code cs)[n]? = some m) :
    hidden cs (n + 1) = if m.2 = '\n' then 0 else hidden cs n + lost m := by
  have step : onLine cs (n + 1) = if m.2 = '\n' then [] else m :: onLine cs n := by
    rw [onLine, List.take_add_one, there, Option.toList_some, List.reverse_append, List.reverse_singleton,
      List.singleton_append, List.takeWhile_cons]
    by_cases line_end : m.2 = '\n' <;> simp [line_end, onLine]
  rw [hidden, step]
  split_ifs with line_end
  · rfl
  · rw [List.map_cons, List.sum_cons, hidden, Nat.add_comm]

theorem hidden_eq_zero_iff :
    hidden cs n = 0 ↔ ∀ m ∈ onLine cs n, m.1.isComment → m.2.utf8Size = 1 := by
  have nothing (m : Mode × Char) : lost m = 0 ↔ (m.1.isComment → m.2.utf8Size = 1) := by
    have some_byte := m.2.utf8Size_pos
    unfold lost
    split_ifs with comment
    · simp only [comment, forall_const]
      omega
    · simp [comment]
  simp only [hidden, List.sum_eq_zero_iff, List.forall_mem_map, nothing]

/-- What stripping makes of a character has the bytes that are not lost. -/
theorem strip_cases (there : (label .code cs)[n]? = some m) : ∃ c, (strip cs)[n]? = some c ∧
    (c = '\n' ↔ m.2 = '\n') ∧ (m.2 ≠ '\n' → m.2.utf8Size = c.utf8Size + lost m) ∧
    (1 < c.utf8Size → c = m.2) := by
  obtain ⟨mode, c⟩ := m
  have blank : (' ').utf8Size = 1 := rfl
  obtain ⟨blanked, kept⟩ := getElem?_strip there
  by_cases h : IsBlanked (label .code cs) n
  · have line_end : c ≠ '\n' := (isBlanked_of_eq there h).2
    refine ⟨' ', blanked h, by simp [line_end], fun _ => ?_, fun wide => absurd wide (by decide)⟩
    have some_byte := c.utf8Size_pos
    obtain ⟨m', there', comment, -⟩ | ⟨comma, -⟩ := h
    · obtain rfl : (mode, c) = m' := by simpa [there] using there'
      simp only [lost, comment, if_true]
      omega
    · obtain ⟨rfl, rfl⟩ : mode = .code ∧ c = ',' := by simpa [there] using comma
      rfl
  · refine ⟨c, kept h, Iff.rfl, fun line_end => ?_, fun _ => rfl⟩
    have outside : mode.isComment = false := by
      by_contra comment
      exact h (.inl ⟨(mode, c), there, by simpa using comment, line_end⟩)
    simp [lost, outside]

theorem exists_label (bound : n < cs.length) : ∃ m, (label .code cs)[n]? = some m ∧ cs[n]? = some m.2 := by
  have chars := map_snd_label .code cs
  have size : n < (label .code cs).length := by
    have := congrArg List.length chars
    rw [List.length_map] at this
    omega
  refine ⟨_, List.getElem?_eq_getElem size, ?_⟩
  have same := congrArg (fun l => l[n]?) chars
  simp only [List.getElem?_map, List.getElem?_eq_getElem size, Option.map_some] at same
  exact same.symm

/-- Between two characters, the line is the same and the column falls short by what is hidden. -/
theorem place_strip_zero (bound : n ≤ cs.length) : (place (strip cs) n 0).line = (place cs n 0).line ∧
    (place (strip cs) n 0).column + hidden cs n = (place cs n 0).column := by
  induction n with
  | zero => exact ⟨rfl, rfl⟩
  | succ n ih =>
    obtain ⟨line, column⟩ := ih (by omega)
    obtain ⟨m, there, char⟩ := exists_label bound
    obtain ⟨c, stripped, ends, size, -⟩ := strip_cases there
    rw [place_succ stripped, place_succ char, hidden_succ there]
    by_cases line_end : m.2 = '\n'
    · simp [line_end, ends, line]
    · have wide := size line_end
      simp only [line_end, ends, if_false]
      constructor
      · exact line
      · omega

end

theorem place_strip {cs : List Char} {n e : Nat} (h : IsPlace (strip cs) n e) :
    (place (strip cs) n e).line = (place cs n e).line ∧
    (place (strip cs) n e).column + hidden cs n = (place cs n e).column := by
  obtain ⟨bound, part⟩ := h
  rw [length_strip] at bound
  have between := place_strip_zero bound
  obtain rfl | ⟨c, there, part⟩ := part
  · exact between
  by_cases first : e = 0
  · rw [first]
    exact between
  -- Only a character of several bytes can be entered, and such a character is not blanked.
  have inside : n < cs.length := by
    have := (List.getElem?_eq_some_iff.1 there).1
    rwa [length_strip] at this
  obtain ⟨m, label, char⟩ := exists_label inside
  obtain ⟨c', stripped, -, -, same⟩ := strip_cases label
  obtain rfl : c = c' := Option.some.inj (there.symm.trans stripped)
  obtain rfl : c = m.2 := same (by omega)
  obtain ⟨line, column⟩ := between
  rw [place_part there part, place_part char part]
  constructor
  · exact line
  · simp only
    omega

/-- How a position that is shown for a place relates to the position of that place in the text. -/
structure IsShifted (cs : List Char) (n e : Nat) (shown : Position) : Prop where
  line : shown.line = (place cs n e).line
  column : shown.column + hidden cs n = (place cs n e).column
  same_iff : shown = place cs n e ↔ ∀ m ∈ onLine cs n, m.1.isComment → m.2.utf8Size = 1

theorem isShifted_strip {cs : List Char} {n e : Nat} (h : IsPlace (strip cs) n e) :
    IsShifted cs n e (place (strip cs) n e) := by
  obtain ⟨line, column⟩ := place_strip h
  refine ⟨line, column, ?_⟩
  rw [← hidden_eq_zero_iff]
  constructor
  · intro same
    rw [same] at column
    omega
  · intro nothing
    rw [nothing, Nat.add_zero] at column
    exact Position.eq_of_parts line column

/-- Whether the reader of a text has stopped at a place, with so many bytes left as a refusal says. -/
def StopsAt (cs : List Char) (refusal : Json.Refusal) (n e : Nat) : Prop :=
  IsPlace cs n e ∧ Utf8.byteLength cs - refusal.left = Utf8.byteLength (cs.take n) + e

theorem exists_stopsAt (cs : List Char) (refusal : Json.Refusal) : ∃ n e, StopsAt cs refusal n e := by
  have bound : Utf8.byteLength cs - refusal.left ≤ Utf8.byteLength cs := Nat.sub_le _ _
  obtain ⟨n, e, isPlace, same⟩ := exists_place bound
  exact ⟨n, e, isPlace, same⟩

theorem position_of_stopsAt {cs : List Char} {refusal : Json.Refusal} {n e : Nat}
    (h : StopsAt cs refusal n e) : refusal.position cs = place cs n e := by
  simp only [Json.Refusal.position, Utf8.length_encodeChars, h.2]
  rfl

end ScopedCheck.Lenient

namespace ScopedCheck.Config

open Lenient (strip place hidden IsPlace IsShifted StopsAt)

theorem strictText_of_unmarked {text : String} (start : Unmarked text.toList) :
    strictText text = strip text.toList := by
  have same := strictText_marked 0 start
  rwa [marked, List.replicate_zero, List.nil_append, String.ofList_toList] at same

/-- Every place in a stripped text, and so the one that is shown when a text is refused, is on the same
line in the text itself. Its column is the same if no comment before it on its line has a character of
several bytes, and short by what these have lost otherwise. -/
theorem parse_error_place (path : Path) {text : String} (start : Unmarked text.toList) :
    let cs := text.toList
    (∀ n e, IsPlace (strip cs) n e → IsShifted cs n e (place (strip cs) n e)) ∧
    ∀ failure, parse path text = .error failure →
      (∃ v : Json.Value, failure =
        .configMalformed path ("expected an object at the top level, found " ++ v.kind)) ∨
      ∃ (refusal : Json.Refusal) (n e : Nat), Json.parse (strip cs) = .error refusal ∧
        failure = .configMalformed path (refusal.message (strip cs)) ∧
        StopsAt (strip cs) refusal n e ∧ IsShifted cs n e (refusal.position (strip cs)) := by
  intro cs
  refine ⟨fun n e => Lenient.isShifted_strip, fun failure rejected => ?_⟩
  simp only [parse, strictText_of_unmarked start] at rejected
  cases read : Json.parse (strip text.toList) with
  | error refusal =>
    simp only [read, Except.error.injEq] at rejected
    obtain ⟨n, e, stops⟩ := Lenient.exists_stopsAt (strip cs) refusal
    refine .inr ⟨refusal, n, e, rfl, rejected.symm, stops, ?_⟩
    rw [Lenient.position_of_stopsAt stops]
    exact Lenient.isShifted_strip stops.1
  | ok v =>
    left
    cases v with
    | object members => simp [read] at rejected
    | _ =>
      simp only [read, Except.error.injEq] at rejected
      exact ⟨_, rejected.symm⟩

/-- A comment with a character of two bytes, and a column that is one short. -/
theorem parse_error_place_accent :
    Unmarked "/*é*/!".toList ∧
    parse ⟨"tsconfig.json"⟩ "/*é*/!" =
      .error (.configMalformed ⟨"tsconfig.json"⟩ "expected value at line 1 column 6") ∧
    place "/*é*/!".toList 6 0 = ⟨1, 7⟩ := by
  have start : Unmarked "/*é*/!".toList := by simp [Unmarked, byteOrderMark]
  have isPlace : IsPlace (strip "/*é*/!".toList) 6 0 := ⟨by decide, .inl rfl⟩
  have shifted := (parse_error_place ⟨"tsconfig.json"⟩ start).1 6 0 isPlace
  have shown : place (strip "/*é*/!".toList) 6 0 = ⟨1, 6⟩ := by decide
  have lost : hidden "/*é*/!".toList 6 = 1 := by decide
  refine ⟨start, rfl, ?_⟩
  have line : 1 = (place "/*é*/!".toList 6 0).line := by
    rw [← shifted.line, shown]
  have column : 6 + 1 = (place "/*é*/!".toList 6 0).column := by
    rw [← shifted.column, shown, lost]
  exact Json.Position.eq_of_parts line.symm column.symm

end ScopedCheck.Config
