import Mathlib

/-!
# Readers

A decoder takes a value off the front of a string and leaves the rest, or fails.  A reader
never looks at what it leaves: what it reads from a string it reads from every longer one.
That law is a field of the structure, so every decoder built from the readers here has it.

`Reads r w a` says that `r` takes `w` off any string that starts with it, and makes `a` of
it; `run_bind_flatten` turns it into the rule by which a decoder is run over the parts an
encoder wrote.  `readAll` accepts a string only when nothing is left over; by the law, a
string it accepts has no other prefix or extension that it accepts.  `Spells r write` says the
converse of `Reads`: `r` reads a value only off strings that start with what is written of it.
`Ensures r P` says what every value has that `r` returns, whatever the string.

Words are spelled in bytes, most significant byte first: `bytesOf` spells one and `bigEndian`
reads it back.
-/

/-- A reader of values of type `α` from strings over `β`. -/
structure Reader (β ε α : Type) where
  /-- The value read and the rest of the string. -/
  run : List β → Except ε (α × List β)
  /-- What follows the part that is read does not matter. -/
  extend : ∀ {w rest : List β} {a : α}, run w = .ok (a, rest) →
    ∀ more, run (w ++ more) = .ok (a, rest ++ more)

namespace Reader

variable {w n : Nat} {accepted : Bool}

variable {β ε α γ σ : Type}

/-- Reads nothing. -/
protected def pure (a : α) : Reader β ε α where
  run w := .ok (a, w)
  extend h more := by
    cases h
    rfl

/-- Fails without reading. -/
def fail (e : ε) : Reader β ε α where
  run _ := .error e
  extend h := by cases h

/-- Reads with `r`, then with the reader chosen by what was read. -/
protected def bind (r : Reader β ε α) (f : α → Reader β ε γ) : Reader β ε γ where
  run w :=
    match r.run w with
    | .error e => .error e
    | .ok (a, rest) => (f a).run rest
  extend {w rest c} h more := by
    cases hr : r.run w with
    | error e => simp [hr] at h
    | ok found =>
      obtain ⟨a, middle⟩ := found
      simp only [hr] at h
      simp only [r.extend hr more, (f a).extend h more]

instance : Monad (Reader β ε) where
  pure := Reader.pure
  bind := Reader.bind

@[simp] theorem run_pure (a : α) (w : List β) :
    (pure a : Reader β ε α).run w = .ok (a, w) := rfl

@[simp] theorem run_fail (e : ε) (w : List β) : (fail e : Reader β ε α).run w = .error e := rfl

theorem run_bind (r : Reader β ε α) (f : α → Reader β ε γ) (w : List β) :
    (r >>= f).run w = match r.run w with
      | .error e => .error e
      | .ok (a, rest) => (f a).run rest := rfl

/-- What a sequence of two readers read, one after the other. -/
theorem run_bind_eq_ok {r : Reader β ε α} {f : α → Reader β ε γ} {w rest : List β} {c : γ} :
    (r >>= f).run w = .ok (c, rest) ↔
      ∃ a middle, r.run w = .ok (a, middle) ∧ (f a).run middle = .ok (c, rest) := by
  rw [run_bind]
  cases r.run w with
  | error => simp
  | ok found =>
    obtain ⟨a, middle⟩ := found
    simp

/-- Takes exactly `n` items. -/
def take (n : Nat) (e : ε) : Reader β ε (List β) where
  run w := if n ≤ w.length then .ok (w.take n, w.drop n) else .error e
  extend {w rest a} h more := by
    split at h
    · rename_i hn
      obtain ⟨rfl, rfl⟩ := Prod.mk.inj (Except.ok.inj h)
      have hlonger : n ≤ (w ++ more).length := by
        rw [List.length_append]
        omega
      rw [if_pos hlonger, List.take_append_of_le_length hn, List.drop_append_of_le_length hn]
    · cases h

/-- Refuses a value that fails a test. -/
def guard (accepted : Bool) (e : ε) : Reader β ε Unit :=
  if accepted then pure () else fail e

/-- Reads `n` values. -/
def times (r : Reader β ε α) : Nat → Reader β ε (List α)
  | 0 => pure []
  | n + 1 => do
    let a ← r
    let rest ← times r n
    pure (a :: rest)

/-- Runs a loop body `n` times. -/
def iterate (body : σ → Reader β ε σ) : Nat → σ → Reader β ε σ
  | 0, s => pure s
  | n + 1, s => do
    let s ← body s
    iterate body n s

/-- What every round of a loop keeps, the loop keeps. -/
theorem iterate_invariant {body : σ → Reader β ε σ} {I : σ → Prop}
    (keep : ∀ s w s' rest, (body s).run w = .ok (s', rest) → I s → I s') {s s' : σ}
    {w rest : List β} (h : (iterate body n s).run w = .ok (s', rest)) (start : I s) : I s' := by
  induction n generalizing s w with
  | zero =>
    obtain ⟨rfl, -⟩ := Prod.mk.inj (Except.ok.inj h)
    exact start
  | succ n ih =>
    obtain ⟨next, middle, hbody, hrest⟩ := run_bind_eq_ok.mp h
    exact ih hrest (keep s w next middle hbody start)

/-! ## Reading what was written -/

/-- The reader takes `w` off any string that starts with it, and makes `a` of it. -/
def Reads (r : Reader β ε α) (w : List β) (a : α) : Prop :=
  ∀ rest, r.run (w ++ rest) = .ok (a, rest)

theorem reads_pure (a : α) : Reads (pure a : Reader β ε α) [] a := fun _ => rfl

theorem reads_take {w : List β} (h : w.length = n) (e : ε) : Reads (take n e) w w := by
  intro rest
  have hlonger : n ≤ (w ++ rest).length := by
    rw [List.length_append]
    omega
  simp only [take, if_pos hlonger, List.take_left' h, List.drop_left' h]

theorem reads_guard (h : accepted = true) (e : ε) :
    Reads (guard accepted e : Reader β ε Unit) [] () := by
  intro rest
  simp only [guard, h, if_true]
  rfl

theorem Reads.bind {r : Reader β ε α} {f : α → Reader β ε γ} {w v : List β} {a : α} {c : γ}
    (hr : Reads r w a) (hf : Reads (f a) v c) : Reads (r >>= f) (w ++ v) c := by
  intro rest
  rw [List.append_assoc, run_bind, hr]
  exact hf rest

theorem Reads.map {r : Reader β ε α} {w : List β} {a : α} (hr : Reads r w a) (g : α → γ) :
    Reads (r >>= fun a => pure (g a)) w (g a) := by
  have hread : Reads (r >>= fun a => pure (g a)) (w ++ []) (g a) :=
    hr.bind (reads_pure (g a))
  rwa [List.append_nil] at hread

/-- A decoder is run over the parts an encoder wrote, one part at a time. -/
theorem run_bind_flatten {r : Reader β ε α} {w : List β} {a : α} (h : Reads r w a)
    (f : α → Reader β ε γ) (parts : List (List β)) (rest : List β) :
    (r >>= f).run ((w :: parts).flatten ++ rest) = (f a).run (parts.flatten ++ rest) := by
  rw [List.flatten_cons, List.append_assoc, run_bind, h]

/-- A test that is passed takes nothing off the string. -/
theorem run_guard_bind (h : accepted = true) (e : ε) (f : Unit → Reader β ε γ) (w : List β) :
    (guard accepted e >>= f).run w = (f ()).run w := by
  subst h
  rfl

theorem reads_times {r : Reader β ε α} {write : α → List β} {values : List α}
    (h : ∀ a ∈ values, Reads r (write a) a) :
    Reads (times r values.length) (values.flatMap write) values := by
  induction values with
  | nil => exact reads_pure []
  | cons a rest ih =>
    have hhead : Reads r (write a) a := h a List.mem_cons_self
    have htail := ih fun b hb => h b (List.mem_cons_of_mem _ hb)
    rw [List.flatMap_cons]
    exact hhead.bind (htail.map (a :: ·))

/-- A loop that consumes one written value per round ends in the state the values lead to. -/
theorem reads_iterate {body : σ → Reader β ε σ} {write : α → List β} {next : σ → α → σ}
    {values : List α} {s : σ}
    (h : ∀ before a after, values = before ++ a :: after →
      Reads (body (before.foldl next s)) (write a) (next (before.foldl next s) a)) :
    Reads (iterate body values.length s) (values.flatMap write) (values.foldl next s) := by
  induction values generalizing s with
  | nil => exact reads_pure s
  | cons a rest ih =>
    have hhead : Reads (body s) (write a) (next s a) := h [] a rest rfl
    have htail := ih (s := next s a) fun before b after hsplit =>
      h (a :: before) b after (by rw [hsplit]; rfl)
    rw [List.flatMap_cons]
    exact hhead.bind htail

/-! ## Reading only what was written -/

/-- Every string the reader takes a value off starts with what is written of that value. -/
def Spells (r : Reader β ε α) (write : α → List β) : Prop :=
  ∀ w a rest, r.run w = .ok (a, rest) → w = write a ++ rest

theorem spells_take (n : Nat) (e : ε) : Spells (take n e : Reader β ε (List β)) id := by
  intro w a rest h
  simp only [take] at h
  split at h
  · obtain ⟨rfl, rfl⟩ := Prod.mk.inj (Except.ok.inj h)
    exact (List.take_append_drop n w).symm
  · cases h

theorem Spells.map {r : Reader β ε α} {write : α → List β} (hr : Spells r write) {g : α → γ}
    {write' : γ → List β} (h : ∀ a, write' (g a) = write a) :
    Spells (r >>= fun a => pure (g a)) write' := by
  intro w c rest hrun
  obtain ⟨a, middle, hread, hpure⟩ := run_bind_eq_ok.mp hrun
  obtain ⟨rfl, rfl⟩ := Prod.mk.inj (Except.ok.inj hpure)
  rw [hr w a middle hread, h]

/-- A loop that fails at a value it cannot read back ends only when it can read all of them
back. -/
theorem forall_of_run_iterate {body : σ → Reader β ε σ} {write : α → List β} {ok : α → Prop}
    {values : List α} (step : ∀ s, ∀ a ∈ values, ∀ rest s' rest',
      (body s).run (write a ++ rest) = .ok (s', rest') → ok a ∧ rest' = rest)
    {s s' : σ} {rest rest' : List β}
    (h : (iterate body values.length s).run (values.flatMap write ++ rest) = .ok (s', rest')) :
    ∀ a ∈ values, ok a := by
  induction values generalizing s with
  | nil => simp
  | cons a values ih =>
    rw [List.flatMap_cons, List.append_assoc] at h
    obtain ⟨next, middle, hbody, hrest⟩ := run_bind_eq_ok.mp h
    obtain ⟨hok, rfl⟩ := step s a List.mem_cons_self _ _ _ hbody
    have htail := ih (fun s b hb => step s b (List.mem_cons_of_mem _ hb)) hrest
    intro b hb
    rcases List.mem_cons.mp hb with rfl | hb
    · exact hok
    · exact htail b hb

/-! ## What a reader accepts -/

/-- Every value the reader returns has the property. -/
def Ensures (r : Reader β ε α) (P : α → Prop) : Prop :=
  ∀ w a rest, r.run w = .ok (a, rest) → P a

theorem ensures_true (r : Reader β ε α) : Ensures r fun _ => True := fun _ _ _ _ => trivial

theorem ensures_pure {P : α → Prop} {a : α} (h : P a) : Ensures (pure a : Reader β ε α) P := by
  intro w b rest hrun
  obtain ⟨rfl, -⟩ := Prod.mk.inj (Except.ok.inj hrun)
  exact h

theorem ensures_guard (accepted : Bool) (e : ε) :
    Ensures (guard accepted e : Reader β ε Unit) fun _ => accepted = true := by
  intro w a rest hrun
  cases accepted with
  | true => rfl
  | false => cases hrun

theorem Ensures.bind {r : Reader β ε α} {f : α → Reader β ε γ} {Q : α → Prop} {P : γ → Prop}
    (hr : Ensures r Q) (hf : ∀ a, Q a → Ensures (f a) P) : Ensures (r >>= f) P := by
  intro w c rest hrun
  obtain ⟨a, middle, hread, hrest⟩ := run_bind_eq_ok.mp hrun
  exact hf a (hr w a middle hread) middle c rest hrest

theorem Ensures.times {r : Reader β ε α} {P : α → Prop} (hr : Ensures r P) (n : Nat) :
    Ensures (times r n) fun values => values.length = n ∧ ∀ a ∈ values, P a := by
  induction n with
  | zero => exact ensures_pure ⟨rfl, by simp⟩
  | succ n ih =>
    refine hr.bind fun a ha => ih.bind fun rest hrest => ensures_pure ⟨?_, ?_⟩
    · rw [List.length_cons, hrest.1]
    · intro b hb
      rcases List.mem_cons.mp hb with rfl | hb
      · exact ha
      · exact hrest.2 b hb

/-! ## How much is read -/

/-- A reader that takes exactly `n` items. -/
def Consumes (r : Reader β ε α) (n : Nat) : Prop :=
  ∀ w a rest, r.run w = .ok (a, rest) → w.length = n + rest.length

theorem consumes_pure (a : α) : Consumes (pure a : Reader β ε α) 0 := by
  intro w b rest h
  rw [run_pure] at h
  obtain ⟨-, rfl⟩ := Prod.mk.inj (Except.ok.inj h)
  rw [Nat.zero_add]

theorem consumes_take (n : Nat) (e : ε) : Consumes (take n e : Reader β ε (List β)) n := by
  intro w a rest h
  simp only [take] at h
  split at h
  · rename_i hn
    obtain ⟨-, rfl⟩ := Prod.mk.inj (Except.ok.inj h)
    rw [List.length_drop]
    omega
  · cases h

theorem Consumes.bind {r : Reader β ε α} {f : α → Reader β ε γ} {m : Nat} (hr : Consumes r n)
    (hf : ∀ a, Consumes (f a) m) : Consumes (r >>= f) (n + m) := by
  intro w c rest h
  rw [run_bind] at h
  cases hrun : r.run w with
  | error => simp [hrun] at h
  | ok found =>
    obtain ⟨a, middle⟩ := found
    simp only [hrun] at h
    rw [hr w a middle hrun, hf a middle c rest h, Nat.add_assoc]

/-! ## Reading a whole string -/

/-- Reads a value and requires that nothing is left over. -/
def readAll (r : Reader β ε α) (leftover : ε) (w : List β) : Except ε α :=
  match r.run w with
  | .error e => .error e
  | .ok (a, rest) => if rest.isEmpty then .ok a else .error leftover

theorem readAll_of_reads {r : Reader β ε α} {w : List β} {a : α} (h : Reads r w a)
    (leftover : ε) : r.readAll leftover w = .ok a := by
  have hrun := h []
  rw [List.append_nil] at hrun
  simp [readAll, hrun]

theorem run_of_readAll {r : Reader β ε α} {leftover : ε} {w : List β} {a : α}
    (h : r.readAll leftover w = .ok a) : r.run w = .ok (a, []) := by
  unfold readAll at h
  split at h
  · cases h
  · rename_i b rest hrun
    split at h
    · rename_i hempty
      rw [hrun, List.isEmpty_iff.mp hempty, Except.ok.inj h]
    · cases h

/-- Of two strings, one of which starts with the other, a reader accepts at most one whole. -/
theorem eq_nil_of_readAll {r : Reader β ε α} {leftover : ε} {w more : List β} {a b : α}
    (short : r.readAll leftover w = .ok a) (long : r.readAll leftover (w ++ more) = .ok b) :
    more = [] := by
  have hshort := r.extend (run_of_readAll short) more
  rw [run_of_readAll long] at hshort
  have hrest := (Prod.mk.inj (Except.ok.inj hshort)).2
  exact hrest.symm

/-! ## Big-endian words -/

/-- Shifts one more byte into a word. -/
def shiftIn {w : Nat} (value : BitVec w) (byte : UInt8) : BitVec w :=
  value <<< 8 ||| byte.toBitVec.setWidth w

/-- The word that bytes spell, most significant byte first. -/
def bigEndian (w : Nat) (bytes : List UInt8) : BitVec w := bytes.foldl shiftIn 0

/-- The last `n` bytes of a word, most significant byte first. -/
def bytesOf {w : Nat} (v : BitVec w) : Nat → List UInt8
  | 0 => []
  | n + 1 => ⟨(v >>> (8 * n)).setWidth 8⟩ :: bytesOf v n

@[simp] theorem length_bytesOf (v : BitVec w) (n : Nat) : (bytesOf v n).length = n := by
  induction n with
  | zero => rfl
  | succ n ih => simp [bytesOf, ih]

theorem shiftIn_byte (v : BitVec w) (s : Nat) :
    shiftIn (v >>> (s + 8)) ⟨(v >>> s).setWidth 8⟩ = v >>> s := by
  ext i hi
  by_cases h : i < 8
  · simp [shiftIn, h, hi]
  · have hsum : s + 8 + (i - 8) = s + i := by omega
    simp [shiftIn, h, hi, hsum]

-- After the first bytes the word holds what stands above the bytes still to come.
theorem foldl_bytesOf (v : BitVec w) (n : Nat) :
    (bytesOf v n).foldl shiftIn (v >>> (8 * n)) = v := by
  induction n with
  | zero => simp [bytesOf]
  | succ n ih =>
    simp only [bytesOf, List.foldl_cons]
    rw [Nat.mul_succ, shiftIn_byte, ih]

theorem bytesOf_shiftIn (v : BitVec w) (byte : UInt8) (h : 8 * (n + 1) ≤ w) :
    bytesOf (shiftIn v byte) (n + 1) = bytesOf v n ++ [byte] := by
  induction n with
  | zero =>
    have hbyte : (shiftIn v byte).setWidth 8 = byte.toBitVec := by
      ext i hi
      have hw : i < w := by omega
      simp [shiftIn, hi, hw]
    simp [bytesOf, hbyte]
  | succ n ih =>
    have hbyte : (shiftIn v byte >>> (8 * (n + 1))).setWidth 8 = (v >>> (8 * n)).setWidth 8 := by
      ext i hi
      have hw : 8 * (n + 1) + i < w := by omega
      have hhigh : ¬ 8 * (n + 1) + i < 8 := by omega
      have hsub : 8 * (n + 1) + i - 8 = 8 * n + i := by omega
      have hbit : byte.toBitVec.getLsbD (8 * (n + 1) + i) = false :=
        BitVec.getLsbD_of_ge _ _ (by omega)
      have hold : v.getLsbD (8 * n + i) = v[8 * n + i] := BitVec.getLsbD_eq_getElem (by omega)
      simp [shiftIn, hw, hhigh, hsub, hbit, hold]
    rw [bytesOf, hbyte, ih (by omega), bytesOf, List.cons_append]

theorem bytesOf_bigEndian {bytes : List UInt8} (h : 8 * bytes.length ≤ w) :
    bytesOf (bigEndian w bytes) bytes.length = bytes := by
  induction bytes using List.reverseRecOn with
  | nil => rfl
  | append_singleton before byte ih =>
    rw [List.length_append, List.length_singleton] at h ⊢
    have hfold : bigEndian w (before ++ [byte]) = shiftIn (bigEndian w before) byte := by
      simp [bigEndian]
    rw [hfold, bytesOf_shiftIn _ _ h, ih (by omega)]

/-- Different bytes of one length spell different words. -/
theorem bigEndian_injective {a b : List UInt8} (hlength : a.length = b.length)
    (hw : 8 * a.length ≤ w) (h : bigEndian w a = bigEndian w b) : a = b := by
  rw [← bytesOf_bigEndian hw, h, hlength, bytesOf_bigEndian (hlength ▸ hw)]

theorem bigEndian_bytesOf (v : BitVec w) (h : w ≤ 8 * n) : bigEndian w (bytesOf v n) = v := by
  have hstart : v >>> (8 * n) = 0 := BitVec.ushiftRight_eq_zero h
  have hfold := foldl_bytesOf v n
  rwa [hstart] at hfold

end Reader
