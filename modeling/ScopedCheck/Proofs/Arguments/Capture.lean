import ScopedCheck.Proofs.Program.Failing
import ScopedCheck.Proofs.Text.Damage

namespace ScopedCheck.Arguments

open Utf8 (Bytes IsText WellFormed Repairs)

/-- The arguments are texts, or there is a first one that is none. -/
theorem mapM_token_cases (args : List Bytes) :
    (∃ tokens : List String, args = tokens.map Utf8.encode ∧ args.mapM token = .ok tokens) ∨
    ∃ before bytes after, args = before ++ bytes :: after ∧ (∀ b ∈ before, IsText b) ∧
      ¬IsText bytes ∧ args.mapM token = .error (.argumentNotText (Utf8.decodeLossy bytes)) := by
  by_cases damaged : ∃ bytes ∈ args, ¬IsText bytes
  · exact .inr (exists_of_notText damaged)
  · left
    simp only [not_exists, not_and, not_not] at damaged
    induction args with
    | nil => exact ⟨[], rfl, rfl⟩
    | cons bytes args ih =>
      obtain ⟨⟨text, rfl⟩, others⟩ := List.forall_mem_cons.1 damaged
      obtain ⟨tokens, rfl, -⟩ := ih others
      exact ⟨text :: tokens, rfl, mapM_token (text :: tokens)⟩

theorem capture_eq_ok_iff {argv : List Bytes} {tokens : List String} :
    capture argv = .ok tokens ↔ tokens.map Utf8.encode = argv.tail := by
  rw [capture_eq]
  constructor
  · intro captured
    obtain ⟨tokens', same, captured'⟩ | ⟨_, _, _, _, _, _, failed⟩ := mapM_token_cases argv.tail
    · rw [same, Except.ok.inj (captured'.symm.trans captured)]
    · simp [failed] at captured
  · intro same
    rw [← same, mapM_token]

theorem exists_capture_iff {argv : List Bytes} :
    (∃ tokens, capture argv = .ok tokens) ↔ ∀ bytes ∈ argv.tail, WellFormed bytes := by
  simp only [Utf8.wellFormed_iff_isText]
  constructor
  · rintro ⟨tokens, captured⟩ bytes mem
    rw [← capture_eq_ok_iff.1 captured] at mem
    obtain ⟨token, -, rfl⟩ := List.mem_map.1 mem
    exact ⟨token, rfl⟩
  · intro texts
    obtain ⟨tokens, -, captured⟩ | ⟨before, bytes, after, split, -, damaged, -⟩ :=
      mapM_token_cases argv.tail
    · exact ⟨tokens, captured⟩
    · exact absurd (texts bytes (by simp [split])) damaged

/-- What comes after an argument that is not text is not looked at. -/
theorem mapM_token_damaged {before : List Bytes} {bytes : Bytes} (texts : ∀ b ∈ before, IsText b)
    (damaged : ¬IsText bytes) (after : List Bytes) :
    (before ++ bytes :: after).mapM token = .error (.argumentNotText (Utf8.decodeLossy bytes)) := by
  induction before with
  | nil =>
    rw [List.nil_append, List.mapM_cons, token, Utf8.decode?_eq_none_iff.2 damaged]
    rfl
  | cons first before ih =>
    obtain ⟨⟨text, rfl⟩, others⟩ := List.forall_mem_cons.1 texts
    rw [List.cons_append, List.mapM_cons, token_encode, ih others]
    rfl

theorem capture_eq_error_iff {argv : List Bytes} {failure : Failure} :
    capture argv = .error failure ↔ ∃ before bytes after text, argv.tail = before ++ bytes :: after ∧
      (∀ b ∈ before, WellFormed b) ∧ ¬WellFormed bytes ∧ Repairs bytes text.toList ∧
      failure = .argumentNotText text := by
  simp only [capture_eq, Utf8.wellFormed_iff_isText, Utf8.repairs_iff]
  constructor
  · intro failed
    obtain ⟨tokens, -, captured⟩ | ⟨before, bytes, after, split, texts, damaged, failed'⟩ :=
      mapM_token_cases argv.tail
    · simp [captured] at failed
    · refine ⟨before, bytes, after, _, split, texts, damaged, rfl, ?_⟩
      exact Except.error.inj (failed.symm.trans failed')
  · rintro ⟨before, bytes, after, text, split, texts, damaged, rfl, rfl⟩
    rw [split, mapM_token_damaged texts damaged]

/-- Neither the name of the program nor what comes after a damaged argument changes what becomes of the
command line. -/
theorem capture_of_damaged (before : List Bytes) {bytes : Bytes} (damaged : ¬IsText bytes)
    (name name' : Bytes) (after after' : List Bytes) :
    capture (name :: (before ++ bytes :: after)) = capture (name' :: (before ++ bytes :: after')) := by
  rw [capture_eq, capture_eq, List.tail_cons, List.tail_cons]
  have among : ∃ b ∈ before ++ [bytes], ¬IsText b := ⟨bytes, by simp, damaged⟩
  obtain ⟨before', bytes', between, split, texts, damaged', -⟩ := exists_of_notText among
  have whole (rest : List Bytes) : before ++ bytes :: rest = before' ++ bytes' :: (between ++ rest) := by
    rw [List.append_cons, split, List.append_assoc, List.cons_append]
  rw [whole, whole, mapM_token_damaged texts damaged', mapM_token_damaged texts damaged']

/-- The command line is taken as it is or refused for the first argument that is not well-formed. -/
theorem capture_exact (argv : List Bytes) :
    ((∃ tokens, capture argv = .ok tokens) ↔ ∀ bytes ∈ argv.tail, WellFormed bytes) ∧
    (∀ tokens, capture argv = .ok tokens ↔ tokens.map Utf8.encode = argv.tail) ∧
    (∀ failure, capture argv = .error failure ↔
      ∃ before bytes after text, argv.tail = before ++ bytes :: after ∧
        (∀ b ∈ before, WellFormed b) ∧ ¬WellFormed bytes ∧ Repairs bytes text.toList ∧
        failure = .argumentNotText text) ∧
    (∀ name, capture (name :: argv.tail) = capture argv) ∧
    ∀ before bytes after, argv.tail = before ++ bytes :: after → ¬WellFormed bytes →
      ∀ name after', capture (name :: (before ++ bytes :: after')) = capture argv := by
  have named (name : Bytes) : capture (name :: argv.tail) = capture argv := by
    rw [capture_eq, capture_eq, List.tail_cons]
  refine ⟨exists_capture_iff, fun _ => capture_eq_ok_iff, fun _ => capture_eq_error_iff, named, ?_⟩
  intro before bytes after split damaged name after'
  rw [Utf8.wellFormed_iff_isText] at damaged
  rw [← named name, split]
  exact capture_of_damaged before damaged name name after' after

/-- An argument with a cut character, an overlong form, a surrogate and a number that is too large. -/
def damagedArgument : Bytes :=
  [0x61, 0xE2, 0x82, 0xC0, 0x80, 0xED, 0xA0, 0x80, 0xF4, 0x90, 0x80, 0x80, 0x62, 0xF0, 0x9F, 0x98]

theorem capture_exact_damaged :
    ¬WellFormed damagedArgument ∧
    Repairs damagedArgument "a\uFFFD\uFFFD\uFFFD\uFFFD\uFFFD\uFFFD\uFFFD\uFFFD\uFFFD\uFFFDb\uFFFD".toList ∧
    capture [[0xFF], Utf8.encode "é.ts", damagedArgument, [0xFF]] =
      .error (.argumentNotText
        "a\uFFFD\uFFFD\uFFFD\uFFFD\uFFFD\uFFFD\uFFFD\uFFFD\uFFFD\uFFFDb\uFFFD") := by
  have damaged : ¬WellFormed damagedArgument := by
    rw [Utf8.wellFormed_iff_isText, ← Utf8.decode?_eq_none_iff]
    decide +kernel
  have repaired : Repairs damagedArgument
      "a\uFFFD\uFFFD\uFFFD\uFFFD\uFFFD\uFFFD\uFFFD\uFFFD\uFFFD\uFFFDb\uFFFD".toList := by
    rw [Utf8.repairs_iff]
    decide +kernel
  refine ⟨damaged, repaired, ((capture_exact _).2.2.1 _).2 ?_⟩
  refine ⟨[Utf8.encode "é.ts"], damagedArgument, [[0xFF]], _, rfl, ?_, damaged, repaired, rfl⟩
  rw [List.forall_mem_singleton, Utf8.wellFormed_iff_isText]
  exact ⟨_, rfl⟩

end ScopedCheck.Arguments
