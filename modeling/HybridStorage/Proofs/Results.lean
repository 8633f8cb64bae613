import HybridStorage.Fault

/-!
# Results of evaluations

A sequence of steps that can fail gives a result only if every step does. Proofs about the model
take such sequences apart with these lemmas.
-/

namespace HybridStorage

variable {ε α β γ : Type}

theorem bind_eq_ok_iff {x : Except ε α} {f : α → Except ε β} {b : β} :
    (x >>= f) = .ok b ↔ ∃ a, x = .ok a ∧ f a = .ok b := by
  constructor
  · intro h
    match x, h with
    | .ok a, h => exact ⟨a, rfl, h⟩
  · rintro ⟨a, rfl, h⟩
    exact h

theorem bind_eq_error_iff {x : Except ε α} {f : α → Except ε β} {e : ε} :
    (x >>= f) = .error e ↔ x = .error e ∨ ∃ a, x = .ok a ∧ f a = .error e := by
  constructor
  · intro h
    match x, h with
    | .error _, h => exact .inl (congrArg _ (Except.error.inj h))
    | .ok a, h => exact .inr ⟨a, rfl, h⟩
  · rintro (rfl | ⟨a, rfl, h⟩)
    · rfl
    · exact h

theorem map_eq_ok_iff {x : Except ε α} {f : α → β} {b : β} :
    x.map f = .ok b ↔ ∃ a, x = .ok a ∧ f a = b := by
  constructor
  · intro h
    match x, h with
    | .ok a, h => exact ⟨a, rfl, Except.ok.inj h⟩
  · rintro ⟨a, rfl, rfl⟩
    rfl

theorem map_bind (x : Except ε α) (f : α → Except ε β) (g : β → γ) :
    (x >>= f).map g = x >>= fun a => (f a).map g := by
  cases x <;> rfl

theorem ok_of_map_eq {x : Except ε α} {y : Except ε β} {f : α → γ} {g : β → γ} {a : α}
    (same : x.map f = y.map g) (h : x = .ok a) : ∃ b, y = .ok b ∧ f a = g b := by
  subst h
  obtain ⟨b, found, image⟩ := map_eq_ok_iff.mp same.symm
  exact ⟨b, found, image.symm⟩

theorem ok_of_toOption {x : Except ε α} {a : α} (h : x.toOption = some a) : x = .ok a := by
  match x, h with
  | .ok a, h => exact congrArg Except.ok (Option.some.inj h)

end HybridStorage
