import Mathlib.Tactic
import ScopedCheck.Arguments

namespace ScopedCheck.Arguments

theorem isCheckable_iff {token : String} : isCheckable token ↔
    ∃ name, ∃ extension ∈ [".vue", ".ts", ".tsx"], token = name ++ extension := by
  simp only [isCheckable, List.any_eq_true, List.isSuffixOf_iff_suffix]
  constructor
  · rintro ⟨extension, mem, name, ends⟩
    refine ⟨String.ofList name, extension, mem, String.toList_inj.1 ?_⟩
    rw [String.toList_append, String.toList_ofList, ends]
  · rintro ⟨name, extension, mem, rfl⟩
    exact ⟨extension, mem, name.toList, String.toList_append.symm⟩

/-- What is left without the first project flag and the token after it. -/
def remaining (tokens : List String) : List String :=
  match tokens.findIdx? isProjectFlag with
  | some k => (tokens.eraseIdx (k + 1)).eraseIdx k
  | none => tokens

/-- The token after the first project flag. -/
def projectValue? (tokens : List String) : Option String :=
  (tokens.findIdx? isProjectFlag).bind fun k => tokens[k + 1]?

section

variable {token : String} (rest : List String)

theorem remaining_of_flag (flag : isProjectFlag token) : remaining (token :: rest) = rest.tail := by
  simp [remaining, List.findIdx?_cons, flag]

theorem remaining_cons (other : isProjectFlag token = false) :
    remaining (token :: rest) = token :: remaining rest := by
  rw [remaining, remaining, List.findIdx?_cons, if_neg (by simp [other])]
  cases rest.findIdx? isProjectFlag <;> rfl

theorem projectValue?_of_flag (flag : isProjectFlag token) :
    projectValue? (token :: rest) = rest.head? := by
  simp [projectValue?, List.findIdx?_cons, flag, List.head?_eq_getElem?]

theorem projectValue?_cons (other : isProjectFlag token = false) :
    projectValue? (token :: rest) = projectValue? rest := by
  rw [projectValue?, projectValue?, List.findIdx?_cons, if_neg (by simp [other])]
  cases rest.findIdx? isProjectFlag <;> rfl

end

theorem sublist_remaining (tokens : List String) : (remaining tokens).Sublist tokens := by
  unfold remaining
  split
  · exact (List.eraseIdx_sublist _ _).trans (List.eraseIdx_sublist _ _)
  · exact .refl tokens

theorem perm_remaining (tokens : List String) :
    tokens.Perm (remaining tokens ++ ((tokens.find? isProjectFlag).toList ++
      (projectValue? tokens).toList)) := by
  induction tokens with
  | nil => exact .nil
  | cons token rest ih =>
    cases flag : isProjectFlag token with
    | true =>
      rw [remaining_of_flag rest flag, projectValue?_of_flag rest flag,
        List.find?_cons_of_pos flag]
      refine .trans ?_ List.perm_append_comm
      cases rest with
      | nil => exact .refl _
      | cons value rest => exact .refl _
    | false =>
      rw [remaining_cons rest flag, projectValue?_cons rest flag,
        List.find?_cons_of_neg (by simp [flag])]
      exact ih.cons token

/-- Tokens without a project flag among them that counts, sorted. -/
theorem foldr_add (tokens : List String) :
    tokens.foldr add {} =
      { files := tokens.filter isCheckable, forwardedFlags := tokens.filter (!isCheckable ·) } := by
  induction tokens with
  | nil => rfl
  | cons token rest ih =>
    rw [List.foldr_cons, ih, add]
    cases checkable : isCheckable token <;> simp [checkable]

theorem partition_eq (tokens : List String) :
    partition tokens =
      { files := (remaining tokens).filter isCheckable
        projectOverride := projectValue? tokens
        forwardedFlags := (remaining tokens).filter (!isCheckable ·) } := by
  induction tokens with
  | nil => rfl
  | cons token rest ih =>
    cases flag : isProjectFlag token with
    | true =>
      rw [partition, if_pos flag, foldr_add, remaining_of_flag rest flag,
        projectValue?_of_flag rest flag]
    | false =>
      rw [partition, if_neg (by simp [flag]), ih, add, remaining_cons rest flag,
        projectValue?_cons rest flag]
      cases checkable : isCheckable token <;> simp [checkable]

/-- The command line is split stably around the first project flag and its value, and every token goes
to one place. -/
theorem partition_splits (tokens : List String) :
    (∀ token, isProjectFlag token ↔ token = "-p" ∨ token = "--project") ∧
    (∀ token, isCheckable token ↔
      ∃ name, ∃ extension ∈ [".vue", ".ts", ".tsx"], token = name ++ extension) ∧
    (partition tokens).files = (remaining tokens).filter isCheckable ∧
    (partition tokens).forwardedFlags = (remaining tokens).filter (!isCheckable ·) ∧
    (partition tokens).projectOverride = projectValue? tokens ∧
    tokens.Perm ((partition tokens).files ++ (partition tokens).forwardedFlags ++
      ((tokens.find? isProjectFlag).toList ++ (partition tokens).projectOverride.toList)) ∧
    (partition tokens).files.Sublist tokens ∧ (partition tokens).forwardedFlags.Sublist tokens := by
  rw [partition_eq]
  refine ⟨fun token => by simp [isProjectFlag], fun _ => isCheckable_iff, rfl, rfl, rfl, ?_, ?_, ?_⟩
  · have split : ((remaining tokens).filter isCheckable ++
        (remaining tokens).filter (!isCheckable ·)).Perm (remaining tokens) :=
      List.filter_append_perm isCheckable (remaining tokens)
    exact (perm_remaining tokens).trans (split.symm.append_right _)
  · exact List.filter_sublist.trans (sublist_remaining tokens)
  · exact List.filter_sublist.trans (sublist_remaining tokens)

/-- The value of the flag may look like a file, and later project flags are flags like any other. -/
example : partition ["a.ts", "-p", "b.ts", "--project", "-p"] =
    { files := ["a.ts"], projectOverride := some "b.ts", forwardedFlags := ["--project", "-p"] } := by
  decide +kernel

end ScopedCheck.Arguments
