import Mathlib

/-!
# Postconditions of fallible computations

`Yields x Q` says that whatever a computation that may fail returns satisfies `Q`; a computation
that fails satisfies every postcondition.  There is one rule for each way such computations are
composed, so that a postcondition of a sequence of checks is proved by walking along the checks
and using what each of them has established.
-/

namespace Fallible

universe u

variable {ε α β : Type u} {x y : Except ε α} {f : α → Except ε β} {Q Q' : α → Prop}
  {R : β → Prop}

/-- Whatever the computation returns satisfies the postcondition. -/
structure Yields (x : Except ε α) (Q : α → Prop) : Prop where
  holds : ∀ {a : α}, x = .ok a → Q a

namespace Yields

theorem of_forall (h : ∀ a, Q a) : Yields x Q := ⟨fun _ => h _⟩

theorem mono (h : Yields x Q) (weaken : ∀ a, Q a → Q' a) : Yields x Q' :=
  ⟨fun ha => weaken _ (h.holds ha)⟩

theorem ok {a : α} (h : Q a) : Yields (.ok a : Except ε α) Q := by
  refine ⟨fun hb => ?_⟩
  obtain rfl := Except.ok.inj hb
  exact h

/-- The rest of a sequence may use that its first part returned. -/
theorem bind (h : ∀ a, x = .ok a → Yields (f a) R) : Yields (x >>= f) R := by
  refine ⟨fun hb => ?_⟩
  cases hx : x with
  | error => simp [hx, Bind.bind, Except.bind] at hb
  | ok a => exact (h a hx).holds (by simpa [hx, Bind.bind, Except.bind] using hb)

theorem map {g : α → β} (h : Yields x fun a => R (g a)) : Yields (x.map g) R := by
  refine ⟨fun hb => ?_⟩
  cases x with
  | error => cases hb
  | ok =>
    obtain rfl := Except.ok.inj hb
    exact h.holds rfl

theorem ite {c : Prop} [Decidable c] (pos : c → Yields x Q) (neg : ¬ c → Yields y Q) :
    Yields (if c then x else y) Q := by
  split
  · exact pos ‹c›
  · exact neg ‹¬ c›

end Yields

end Fallible
