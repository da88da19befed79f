namespace ScopedCheck.Text

variable {α : Type} [DecidableEq α]

/-- The pieces between the separators; there is always one more piece than separators. -/
def split (separator : α) : List α → List (List α)
  | [] => [[]]
  | c :: cs =>
    if c = separator then [] :: split separator cs
    else match split separator cs with
      | [] => [[c]]
      | piece :: pieces => (c :: piece) :: pieces

def join (separator : α) (pieces : List (List α)) : List α :=
  [separator].intercalate pieces

theorem split_ne_nil (separator : α) (cs : List α) : split separator cs ≠ [] := by
  cases cs with
  | nil => simp [split]
  | cons c cs => simp only [split]; split <;> (try split) <;> simp

theorem join_split (separator : α) (cs : List α) :
    join separator (split separator cs) = cs := by
  induction cs with
  | nil => rfl
  | cons c cs ih =>
    simp only [split]
    split
    · next h =>
      cases hs : split separator cs with
      | nil => exact absurd hs (split_ne_nil separator cs)
      | cons piece pieces => rw [hs] at ih; rw [← ih, h]; simp [join, List.intercalate]
    · split
      · next hs => exact absurd hs (split_ne_nil separator cs)
      · next piece pieces hs =>
        rw [hs] at ih
        rw [← ih]
        cases pieces <;> simp [join, List.intercalate]

end ScopedCheck.Text
