import Mathlib

/-!
# Labelled transition systems

Runs of a labelled step relation, runs all of whose steps meet a condition, reachability, and
the induction rule the safety proofs use: an invariant is kept along a run when every step
keeps it.  A script of events that a function executes is a run, and a condition on steps is
checked along a script state by state.
-/

namespace Transition

variable {σ ε : Type*}

/-- `Runs step s s'`: some finite sequence of steps leads from `s` to `s'`. -/
def Runs (step : σ → ε → σ → Prop) : σ → σ → Prop :=
  Relation.ReflTransGen fun s s' => ∃ e, step s e s'

/-- The steps of a relation that meet a condition on the state before them. -/
def Restrict (step : σ → ε → σ → Prop) (ok : σ → ε → Prop) : σ → ε → σ → Prop :=
  fun s e s' => step s e s' ∧ ok s e

/-- The states some run from an initial state ends in. -/
def Reachable (init : σ → Prop) (step : σ → ε → σ → Prop) (s : σ) : Prop :=
  ∃ s₀, init s₀ ∧ Runs step s₀ s

variable {init : σ → Prop} {step : σ → ε → σ → Prop} {ok : σ → ε → Prop} {s s' s'' : σ}

namespace Runs

theorem refl : Runs step s s := Relation.ReflTransGen.refl

theorem trans (h : Runs step s s') (h' : Runs step s' s'') : Runs step s s'' :=
  Relation.ReflTransGen.trans h h'

theorem tail {e : ε} (h : Runs step s s') (last : step s' e s'') : Runs step s s'' :=
  Relation.ReflTransGen.tail h ⟨e, last⟩

/-- What every step keeps, a run keeps. -/
theorem invariant {I : σ → Prop} (keep : ∀ s e s', step s e s' → I s → I s')
    (h : Runs step s s') (start : I s) : I s' := by
  induction h with
  | refl => exact start
  | tail _ last ih =>
    obtain ⟨e, he⟩ := last
    exact keep _ e _ he ih

/-- The invariant rule with a second invariant at hand. -/
theorem invariant_under {I J : σ → Prop} (under : ∀ s e s', step s e s' → J s → J s')
    (keep : ∀ s e s', step s e s' → J s → I s → I s')
    (h : Runs step s s') (hJ : J s) (start : I s) : I s' :=
  (h.invariant (I := fun s => J s ∧ I s)
    (fun s e s' hstep hs => ⟨under s e s' hstep hs.1, keep s e s' hstep hs.1 hs.2⟩)
    ⟨hJ, start⟩).2

/-- A run of restricted steps is a run. -/
theorem of_restrict (h : Runs (Restrict step ok) s s') : Runs step s s' := by
  refine Relation.ReflTransGen.mono ?_ s s' h
  rintro a b ⟨e, hab, -⟩
  exact ⟨e, hab⟩

/-- A condition that every step meets restricts nothing. -/
theorem restrict (always : ∀ s e, ok s e) (h : Runs step s s') : Runs (Restrict step ok) s s' := by
  refine Relation.ReflTransGen.mono ?_ s s' h
  rintro a b ⟨e, hab⟩
  exact ⟨e, hab, always a e⟩

end Runs

namespace Reachable

theorem of_init (h : init s) : Reachable init step s := ⟨s, h, Runs.refl⟩

theorem tail {e : ε} (h : Reachable init step s) (last : step s e s') : Reachable init step s' := by
  obtain ⟨s₀, h₀, hrun⟩ := h
  exact ⟨s₀, h₀, hrun.tail last⟩

theorem runs (h : Reachable init step s) (h' : Runs step s s') : Reachable init step s' := by
  obtain ⟨s₀, h₀, hrun⟩ := h
  exact ⟨s₀, h₀, hrun.trans h'⟩

/-- What holds initially and is kept by every step holds in every reachable state. -/
theorem invariant {I : σ → Prop} (start : ∀ s, init s → I s)
    (keep : ∀ s e s', step s e s' → I s → I s') (h : Reachable init step s) : I s := by
  obtain ⟨s₀, h₀, hrun⟩ := h
  exact hrun.invariant keep (start s₀ h₀)

theorem restrict (always : ∀ s e, ok s e) (h : Reachable init step s) :
    Reachable init (Restrict step ok) s := by
  obtain ⟨s₀, h₀, hrun⟩ := h
  exact ⟨s₀, h₀, hrun.restrict always⟩

end Reachable

/-! ## Scripts -/

variable {exec : σ → ε → σ} {es : List ε}

/-- Executing an event takes a step or does nothing. -/
def Executable (step : σ → ε → σ → Prop) (exec : σ → ε → σ) : Prop :=
  ∀ s e, step s e (exec s e) ∨ exec s e = s

/-- Every event of a script meets the condition in the state it is executed in. -/
def Complies (exec : σ → ε → σ) (ok : σ → ε → Prop) : σ → List ε → Prop
  | _, [] => True
  | s, e :: rest => ok s e ∧ Complies exec ok (exec s e) rest

instance Complies.decidable [∀ s e, Decidable (ok s e)] :
    (s : σ) → (es : List ε) → Decidable (Complies exec ok s es)
  | _, [] => .isTrue trivial
  | s, e :: rest =>
    have := Complies.decidable (exec s e) rest
    inferInstanceAs (Decidable (ok s e ∧ Complies exec ok (exec s e) rest))

/-- A script that complies with a condition is a run of steps that meet it. -/
theorem Runs.of_script (executable : Executable step exec) (complies : Complies exec ok s es) :
    Runs (Restrict step ok) s (es.foldl exec s) := by
  induction es generalizing s with
  | nil => exact .refl
  | cons e rest ih =>
    obtain ⟨hok, hrest⟩ := complies
    rcases executable s e with hstep | hsame
    · exact (Runs.refl.tail ⟨hstep, hok⟩).trans (ih hrest)
    · have hrun := ih hrest
      rw [List.foldl_cons]
      rwa [hsame] at hrun ⊢

/-- A script is a run. -/
theorem Runs.of_foldl (executable : Executable step exec) (s : σ) (es : List ε) :
    Runs step s (es.foldl exec s) := by
  have complies : Complies exec (fun _ _ => True) s es := by
    induction es generalizing s with
    | nil => trivial
    | cons e rest ih => exact ⟨trivial, ih (exec s e)⟩
  exact (Runs.of_script executable complies).of_restrict

end Transition
