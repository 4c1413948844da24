import Mathlib

/-!
# Cyclic redundancy checks

A reflected cyclic redundancy check folds bytes into a register.  Its table holds, for every
byte, the register after eight shifts; using the table is shifting the whole register eight
times (`table_step`).  A shift by a polynomial whose top bit is set loses nothing, so a byte
step is injective in the register and in the byte, and a fold by such steps tells strings
apart that differ in one place (`foldl_ne_of_one_change`).
-/

namespace Crc

variable {w : Nat}

/-- One shift of the register. -/
def shift (poly c : BitVec w) : BitVec w :=
  if c.getLsbD 0 then c >>> 1 ^^^ poly else c >>> 1

/-- Several shifts of the register. -/
def shifts (poly : BitVec w) : Nat → BitVec w → BitVec w
  | 0, c => c
  | n + 1, c => shifts poly n (shift poly c)

theorem getLsbD_shift (poly c : BitVec w) (i : Nat) :
    (shift poly c).getLsbD i = (c.getLsbD (1 + i) ^^ (c.getLsbD 0 && poly.getLsbD i)) := by
  unfold shift
  cases h : c.getLsbD 0 <;> simp

/-! ## Shifting is linear -/

theorem shift_xor (poly a b : BitVec w) : shift poly (a ^^^ b) = shift poly a ^^^ shift poly b := by
  apply BitVec.eq_of_getLsbD_eq
  intro i _
  simp only [BitVec.getLsbD_xor, getLsbD_shift]
  cases a.getLsbD 0 <;> cases b.getLsbD 0 <;> cases poly.getLsbD i <;>
    cases a.getLsbD (1 + i) <;> cases b.getLsbD (1 + i) <;> rfl

theorem shifts_xor (poly : BitVec w) (n : Nat) (a b : BitVec w) :
    shifts poly n (a ^^^ b) = shifts poly n a ^^^ shifts poly n b := by
  induction n generalizing a b with
  | zero => rfl
  | succ n ih => simp only [shifts, shift_xor, ih]

/-- Shifting out zeros is an ordinary shift. -/
theorem shifts_of_low_zero (poly : BitVec w) {n : Nat} {c : BitVec w}
    (h : ∀ i < n, c.getLsbD i = false) : shifts poly n c = c >>> n := by
  induction n generalizing c with
  | zero => simp [shifts]
  | succ n ih =>
    have hshift : shift poly c = c >>> 1 := by simp [shift, h 0 (Nat.succ_pos n)]
    have hlow : ∀ i < n, (c >>> 1).getLsbD i = false := by
      intro i hi
      rw [BitVec.getLsbD_ushiftRight]
      exact h (1 + i) (by omega)
    rw [shifts, hshift, ih hlow, ← BitVec.shiftRight_add, Nat.add_comm]

/-- The table step: looking up the low bits and shifting the rest shifts the whole register. -/
theorem table_step (poly c : BitVec w) {b mask : BitVec w} {n : Nat} (byte : b >>> n = 0)
    (low : ∀ i < w, mask.getLsbD i = decide (i < n)) :
    shifts poly n ((c ^^^ b) &&& mask) ^^^ c >>> n = shifts poly n (c ^^^ b) := by
  have hsplit : c ^^^ b = ((c ^^^ b) &&& mask) ^^^ ((c ^^^ b) &&& ~~~mask) := by
    apply BitVec.eq_of_getLsbD_eq
    intro i hi
    simp only [BitVec.getLsbD_xor, BitVec.getLsbD_and, BitVec.getLsbD_not, hi, decide_true]
    cases mask.getLsbD i <;> simp
  have hzero : ∀ i < n, ((c ^^^ b) &&& ~~~mask).getLsbD i = false := by
    intro i hi
    simp only [BitVec.getLsbD_and, BitVec.getLsbD_not]
    by_cases hw : i < w
    · simp [low i hw, hi]
    · simp [hw]
  have hhigh : ((c ^^^ b) &&& ~~~mask) >>> n = c >>> n := by
    apply BitVec.eq_of_getLsbD_eq
    intro i _
    have hb : b.getLsbD (n + i) = false := by
      rw [← BitVec.getLsbD_ushiftRight, byte]
      exact BitVec.getLsbD_zero
    simp only [BitVec.getLsbD_ushiftRight, BitVec.getLsbD_and, BitVec.getLsbD_xor,
      BitVec.getLsbD_not, hb]
    by_cases hw : n + i < w
    · have hmask : mask.getLsbD (n + i) = false := by simp [low (n + i) hw]
      rw [hmask, decide_eq_true hw]
      simp
    · simp [BitVec.getLsbD_of_ge c _ (Nat.le_of_not_lt hw)]
  conv_rhs => rw [hsplit, shifts_xor, shifts_of_low_zero poly hzero, hhigh]

/-! ## Bit by bit -/

/-- The check one bit at a time: the register is shifted, and the polynomial added when the bit
that leaves it differs from the next bit of the message. -/
def bitwise (poly : BitVec w) (bits : List Bool) (c : BitVec w) : BitVec w :=
  bits.foldl (fun c bit => if c.getLsbD 0 ^^ bit then c >>> 1 ^^^ poly else c >>> 1) c

/-- Adding the next bits of the message to the register and shifting it reads them one by one. -/
theorem shifts_eq_bitwise (poly : BitVec w) {n : Nat} {c b : BitVec w} (h : b >>> n = 0) :
    shifts poly n (c ^^^ b) = bitwise poly ((List.range n).map b.getLsbD) c := by
  induction n generalizing c b with
  | zero =>
    have hb : b = 0 := by simpa using h
    simp [hb, shifts, bitwise]
  | succ n ih =>
    have hrest : b >>> 1 >>> n = 0 := by rw [← BitVec.shiftRight_add, Nat.add_comm]; exact h
    have hshift : shift poly (c ^^^ b)
        = (if c.getLsbD 0 ^^ b.getLsbD 0 then c >>> 1 ^^^ poly else c >>> 1) ^^^ b >>> 1 := by
      simp only [shift, BitVec.getLsbD_xor, BitVec.ushiftRight_xor_distrib]
      split
      · rw [BitVec.xor_assoc, BitVec.xor_assoc, BitVec.xor_comm poly]
      · rfl
    have hbits : (List.range (n + 1)).map b.getLsbD
        = b.getLsbD 0 :: (List.range n).map (b >>> 1).getLsbD := by
      simp [List.range_succ_eq_map, Function.comp_def, Nat.add_comm]
    rw [shifts, hshift, ih hrest, hbits]
    rfl

/-! ## Nothing is lost -/

-- The top bit of a shifted register tells which bit was shifted out.
theorem shift_injective {poly : BitVec w} (h : poly.msb = true) :
    Function.Injective (shift poly) := by
  intro a b hab
  have hbits (i : Nat) : (a.getLsbD (1 + i) ^^ (a.getLsbD 0 && poly.getLsbD i))
      = (b.getLsbD (1 + i) ^^ (b.getLsbD 0 && poly.getLsbD i)) := by
    rw [← getLsbD_shift, ← getLsbD_shift, hab]
  have htop : poly.getLsbD (w - 1) = true := by rwa [BitVec.msb_eq_getLsbD_last] at h
  have hlow : a.getLsbD 0 = b.getLsbD 0 := by
    have hlast := hbits (w - 1)
    rw [BitVec.getLsbD_of_ge a _ (by omega), BitVec.getLsbD_of_ge b _ (by omega), htop] at hlast
    simpa using hlast
  apply BitVec.eq_of_getLsbD_eq
  intro i _
  cases i with
  | zero => exact hlow
  | succ i =>
    have hbit := hbits i
    rw [hlow, Bool.xor_left_inj] at hbit
    rwa [Nat.add_comm]

theorem shifts_injective {poly : BitVec w} (h : poly.msb = true) (n : Nat) :
    Function.Injective (shifts poly n) := by
  induction n with
  | zero => exact fun _ _ hab => hab
  | succ n ih => exact fun a b hab => shift_injective h (ih hab)

/-- A fold whose step is injective in the state and in the item tells apart two strings that
differ in one place. -/
theorem foldl_ne_of_one_change {σ β : Type} {step : σ → β → σ}
    (state : ∀ b, Function.Injective fun s => step s b)
    (item : ∀ s, Function.Injective (step s)) (before after : List β) {x y : β} (hne : x ≠ y)
    (s : σ) : (before ++ x :: after).foldl step s ≠ (before ++ y :: after).foldl step s := by
  simp only [List.foldl_append, List.foldl_cons]
  have hstep : step (before.foldl step s) x ≠ step (before.foldl step s) y :=
    fun heq => hne (item _ heq)
  generalize step (before.foldl step s) x = a at hstep ⊢
  generalize step (before.foldl step s) y = b at hstep ⊢
  induction after generalizing a b with
  | nil => exact hstep
  | cons z rest ih => exact ih _ _ fun heq => hstep (state z heq)

end Crc
