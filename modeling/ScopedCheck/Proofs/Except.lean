namespace ScopedCheck

theorem exists_of_bind_eq_ok {ε α β : Type} {x : Except ε α} {f : α → Except ε β} {b : β}
    (h : x >>= f = .ok b) : ∃ a, x = .ok a ∧ f a = .ok b := by
  cases x with
  | error e => simp [bind, Except.bind] at h
  | ok a => exact ⟨a, rfl, h⟩

/-- What is done for one item after the other fails for the first one for which it fails. -/
theorem exists_of_mapM_error {α β ε : Type} {f : α → Except ε β} {items : List α} {e : ε}
    (h : items.mapM f = .error e) : ∃ before item after, items = before ++ item :: after ∧
      (∀ earlier ∈ before, (f earlier).isOk) ∧ f item = .error e := by
  induction items with
  | nil => simp [pure, Except.pure] at h
  | cons first items ih =>
    rw [List.mapM_cons] at h
    cases done : f first with
    | error e' =>
      obtain rfl : e' = e := by simpa [done, bind, Except.bind] using h
      exact ⟨[], first, items, rfl, by simp, done⟩
    | ok b =>
      cases rest : items.mapM f with
      | error e' =>
        obtain rfl : e' = e := by simpa [done, rest, bind, Except.bind] using h
        obtain ⟨before, item, after, rfl, earlier, failed⟩ := ih rest
        have ok : (f first).isOk := by rw [done]; rfl
        exact ⟨first :: before, item, after, rfl, List.forall_mem_cons.2 ⟨ok, earlier⟩, failed⟩
      | ok bs => simp [done, rest, bind, Except.bind, pure, Except.pure] at h

theorem isOk_of_mapM_ok {α β ε : Type} {f : α → Except ε β} {items : List α} {results : List β}
    (h : items.mapM f = .ok results) : ∀ item ∈ items, (f item).isOk := by
  induction items generalizing results with
  | nil => simp
  | cons first items ih =>
    rw [List.mapM_cons] at h
    obtain ⟨b, done, h⟩ := exists_of_bind_eq_ok h
    obtain ⟨bs, rest, -⟩ := exists_of_bind_eq_ok h
    have ok : (f first).isOk := by rw [done]; rfl
    exact List.forall_mem_cons.2 ⟨ok, ih rest⟩

end ScopedCheck
