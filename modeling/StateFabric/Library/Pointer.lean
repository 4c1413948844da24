import Mathlib

/-!
# Pointer chains

A pointer `next : α → Option α` sends every node to at most one other node.  Following it from a
node ends or goes on for ever.  Redirecting one node keeps every chain ending, provided the chain
of its new target ends and does not lead back to the node; `avoids` decides that by walking.
-/

namespace Pointer

variable {α : Type*}

/-- The node `n` pointers after `a`, if the chain is that long. -/
def follow (next : α → Option α) : ℕ → α → Option α
  | 0, a => some a
  | n + 1, a => (next a).bind (follow next n)

/-- The chain from a node ends. -/
def Ends (next : α → Option α) (a : α) : Prop := ∃ n, follow next n a = none

/-- The chain from `a` leads to `b`. -/
def Reaches (next : α → Option α) (a b : α) : Prop := ∃ n, follow next n a = some b

variable {next next' : α → Option α} {a b k : α}

theorem Reaches.refl : Reaches next a a := ⟨0, rfl⟩

theorem Reaches.head (h : next a = some b) (hb : Reaches next b k) : Reaches next a k := by
  obtain ⟨n, hn⟩ := hb
  exact ⟨n + 1, by rw [follow, h, Option.bind_some, hn]⟩

theorem Ends.of_none (h : next a = none) : Ends next a := ⟨1, by rw [follow, h, Option.bind_none]⟩

theorem Ends.head (h : next a = some b) (hb : Ends next b) : Ends next a := by
  obtain ⟨n, hn⟩ := hb
  exact ⟨n + 1, by rw [follow, h, Option.bind_some, hn]⟩

/-- A property that the pointer keeps holds along the chain. -/
theorem Reaches.invariant {P : α → Prop} (keep : ∀ a b, P a → next a = some b → P b)
    (h : Reaches next a b) (ha : P a) : P b := by
  obtain ⟨n, hn⟩ := h
  induction n generalizing a with
  | zero => exact Option.some.inj hn ▸ ha
  | succ n ih =>
    rw [follow] at hn
    cases hnext : next a with
    | none => simp [hnext] at hn
    | some c =>
      rw [hnext, Option.bind_some] at hn
      exact ih (keep a c ha hnext) hn

/-- A chain that avoids the only node where two pointers differ is the same for both. -/
theorem Ends.congr (agree : ∀ a, a ≠ k → next' a = next a) (h : Ends next a)
    (avoids : ¬ Reaches next a k) : Ends next' a := by
  obtain ⟨n, hn⟩ := h
  induction n generalizing a with
  | zero => cases hn
  | succ n ih =>
    have hne : a ≠ k := fun hak => avoids (hak ▸ Reaches.refl)
    rw [follow] at hn
    cases hnext : next a with
    | none => exact .of_none ((agree a hne).trans hnext)
    | some =>
      rw [hnext, Option.bind_some] at hn
      exact .head ((agree a hne).trans hnext) (ih (fun hc => avoids (hc.head hnext)) hn)

/-- Redirecting one node keeps every chain ending. -/
theorem Ends.redirect (agree : ∀ a, a ≠ k → next' a = next a)
    (target : ∀ b, next' k = some b → Ends next b ∧ ¬ Reaches next b k) (h : Ends next a) :
    Ends next' a := by
  have hk : Ends next' k := by
    cases hnext : next' k with
    | none => exact .of_none hnext
    | some b =>
      obtain ⟨hends, havoids⟩ := target b hnext
      exact .head hnext (hends.congr agree havoids)
  obtain ⟨n, hn⟩ := h
  induction n generalizing a with
  | zero => cases hn
  | succ n ih =>
    by_cases hak : a = k
    · exact hak ▸ hk
    · rw [follow] at hn
      cases hnext : next a with
      | none => exact .of_none ((agree a hak).trans hnext)
      | some =>
        rw [hnext, Option.bind_some] at hn
        exact .head ((agree a hak).trans hnext) (ih hn)

/-- The chain from a node ends within some steps and does not meet `k`. -/
def avoids [DecidableEq α] (next : α → Option α) (k : α) : ℕ → α → Bool
  | 0, _ => false
  | fuel + 1, a =>
    decide (a ≠ k) && match next a with
      | none => true
      | some b => avoids next k fuel b

theorem not_reaches_of_avoids [DecidableEq α] {fuel : ℕ} (h : avoids next k fuel a = true) :
    ¬ Reaches next a k := by
  rintro ⟨n, hn⟩
  induction fuel generalizing a n with
  | zero => cases h
  | succ fuel ih =>
    rw [avoids, Bool.and_eq_true, decide_eq_true_eq] at h
    cases n with
    | zero => exact h.1 (Option.some.inj hn)
    | succ n =>
      rw [follow] at hn
      cases hnext : next a with
      | none => simp [hnext] at hn
      | some =>
        rw [hnext, Option.bind_some] at hn
        simp only [hnext] at h
        exact ih h.2 n hn

end Pointer
