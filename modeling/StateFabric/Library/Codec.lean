import StateFabric.Library.Reader

/-!
# Codecs

A codec writes the values of a type and reads them back.  Both laws are fields of the structure:
what is written of a value within the bounds is read back, whatever follows, and a value that is
read is within the bounds.

A record is laid out field by field: a `Layout` lists the codecs of the fields in the order in
which they are written, and what is made of the values read.  `Layout.record` turns a complete
layout into a codec of the record.

`StrictAt` says of one value that its bounds are checked when it is read: a reader that gets
through what was written of the value has found it within the bounds.
-/

open Reader

/-- A codec of values of type `α` in strings over `β`. -/
structure Codec (β ε α : Type) where
  /-- What is written of a value. -/
  encode : α → List β
  /-- Reads a value. -/
  decode : Reader β ε α
  /-- The value is within the bounds of the reader. -/
  fits : α → Bool
  /-- What is written of a value within the bounds is read back. -/
  reads : ∀ a, fits a = true → Reads decode (encode a) a
  /-- A value that is read is within the bounds. -/
  bounded : Ensures decode fun a => fits a = true

namespace Codec

variable {β ε α γ : Type}

/-- A codec without bounds. -/
def total (encode : α → List β) (decode : Reader β ε α) (reads : ∀ a, Reads decode (encode a) a) :
    Codec β ε α where
  encode := encode
  decode := decode
  fits _ := true
  reads a _ := reads a
  bounded _ _ _ _ := rfl

/-- Writes and reads nothing. -/
def unit : Codec β ε Unit := total (fun _ => []) (pure ()) reads_pure

/-- Writes and reads one value after the other. -/
def pair (first : Codec β ε α) (second : Codec β ε γ) : Codec β ε (α × γ) where
  encode v := first.encode v.1 ++ second.encode v.2
  decode := do
    let a ← first.decode
    let c ← second.decode
    pure (a, c)
  fits v := first.fits v.1 && second.fits v.2
  reads v h := by
    obtain ⟨hfirst, hsecond⟩ := Bool.and_eq_true_iff.mp h
    exact (first.reads v.1 hfirst).bind ((second.reads v.2 hsecond).map (v.1, ·))
  bounded := by
    refine first.bounded.bind fun a ha => second.bounded.bind fun c hc => ensures_pure ?_
    exact Bool.and_eq_true_iff.mpr ⟨ha, hc⟩

/-- Reading a pair begins with reading its first component. -/
theorem run_fst {first : Codec β ε α} {second : Codec β ε γ} {w rest : List β} {v : α × γ}
    (h : (first.pair second).decode.run w = .ok (v, rest)) :
    ∃ middle, first.decode.run w = .ok (v.1, middle) := by
  obtain ⟨a, middle, hfirst, h⟩ := run_bind_eq_ok.mp h
  obtain ⟨c, last, -, hpure⟩ := run_bind_eq_ok.mp h
  obtain ⟨rfl, -⟩ := Prod.mk.inj (Except.ok.inj hpure)
  exact ⟨middle, hfirst⟩

/-- Refuses to read a value that fails a test. -/
def check (c : Codec β ε α) (ok : α → Bool) (e : ε) : Codec β ε α where
  encode := c.encode
  decode := do
    let a ← c.decode
    guard (ok a) e
    pure a
  fits a := c.fits a && ok a
  reads a h := by
    obtain ⟨hfits, hok⟩ := Bool.and_eq_true_iff.mp h
    intro rest
    rw [run_bind, c.reads a hfits]
    exact run_guard_bind hok e _ rest
  bounded := by
    refine c.bounded.bind fun a ha => (ensures_guard (ok a) e).bind fun _ hok => ensures_pure ?_
    exact Bool.and_eq_true_iff.mpr ⟨ha, hok⟩

/-! ## Bounds that are checked -/

/-- A reader that gets through what was written of the value has found it within the bounds. -/
def StrictAt (c : Codec β ε α) (a : α) : Prop :=
  ∀ rest x, c.decode.run (c.encode a ++ rest) = .ok x → c.fits a = true

/-- A value within the bounds is strict. -/
theorem StrictAt.of_fits {c : Codec β ε α} {a : α} (h : c.fits a = true) : c.StrictAt a :=
  fun _ _ _ => h

/-- A pair is strict when its components are. -/
theorem StrictAt.pair {first : Codec β ε α} {second : Codec β ε γ} {v : α × γ}
    (hfirst : first.StrictAt v.1) (hsecond : second.StrictAt v.2) :
    (first.pair second).StrictAt v := by
  intro rest x hrun
  simp only [Codec.pair, List.append_assoc] at hrun
  obtain ⟨a, middle, hread, hrun⟩ := run_bind_eq_ok.mp hrun
  have hfits := hfirst _ _ hread
  rw [first.reads v.1 hfits] at hread
  obtain ⟨rfl, rfl⟩ := Prod.mk.inj (Except.ok.inj hread)
  obtain ⟨c, last, hread, -⟩ := run_bind_eq_ok.mp hrun
  exact Bool.and_eq_true_iff.mpr ⟨hfits, hsecond _ _ hread⟩

end Codec

/-- The fields of a record `ρ` laid out so far, and the `γ` that is made of their values. -/
structure Layout (β ε ρ γ : Type) where
  /-- The values of the fields. -/
  Fields : Type
  /-- How they are written. -/
  codec : Codec β ε Fields
  /-- The values in a record. -/
  take : ρ → Fields
  /-- What is made of them. -/
  make : Fields → γ
  /-- Writes the fields of a record in front of what follows. -/
  write : ρ → List β → List β
  /-- The writer writes what the codec does. -/
  write_eq : ∀ r rest, write r rest = codec.encode (take r) ++ rest

namespace Layout

variable {β ε ρ α γ : Type}

/-- No fields; `make` is to be given all of them. -/
def start (ρ : Type) (make : γ) : Layout β ε ρ γ where
  Fields := Unit
  codec := .unit
  take _ := ()
  make _ := make
  write _ rest := rest
  write_eq _ _ := rfl

/-- The next field. -/
def field (l : Layout β ε ρ (α → γ)) (c : Codec β ε α) (get : ρ → α) : Layout β ε ρ γ where
  Fields := l.Fields × α
  codec := l.codec.pair c
  take r := (l.take r, get r)
  make f := l.make f.1 f.2
  write r rest := l.write r (c.encode (get r) ++ rest)
  write_eq r rest := by rw [l.write_eq]; exact (List.append_assoc ..).symm

/-- A test of what was read so far. -/
def check (l : Layout β ε ρ γ) (ok : γ → Bool) (e : ε) : Layout β ε ρ γ :=
  { l with codec := l.codec.check (fun f => ok (l.make f)) e }

/-- What is written of a record. -/
def encode (l : Layout β ε ρ γ) (r : ρ) : List β := l.write r []

theorem encode_eq (l : Layout β ε ρ γ) (r : ρ) : l.encode r = l.codec.encode (l.take r) := by
  rw [encode, write_eq, List.append_nil]

/-- Reads the fields. -/
def decode (l : Layout β ε ρ γ) : Reader β ε γ := do
  let fields ← l.codec.decode
  pure (l.make fields)

/-- The fields of a record are within their bounds. -/
def fits (l : Layout β ε ρ γ) (r : ρ) : Bool := l.codec.fits (l.take r)

/-- What is read of a record within the bounds is made of its fields. -/
theorem reads (l : Layout β ε ρ γ) {r : ρ} (h : l.fits r = true) :
    Reads l.decode (l.encode r) (l.make (l.take r)) := by
  rw [encode_eq]
  exact (l.codec.reads (l.take r) h).map l.make

/-- The codec of a record whose fields are all laid out. -/
def record (l : Layout β ε ρ ρ) (made : ∀ r, l.make (l.take r) = r := by intro; rfl)
    (taken : ∀ f, l.take (l.make f) = f := by intro; rfl) : Codec β ε ρ where
  encode := l.encode
  decode := l.decode
  fits := l.fits
  reads r h := by
    have hread := l.reads h
    rwa [made] at hread
  bounded := by
    refine l.codec.bounded.bind fun f hf => ensures_pure ?_
    rwa [fits, taken]

@[simp] theorem fits_start (make : γ) (r : ρ) :
    (start ρ make : Layout β ε ρ γ).fits r = true := rfl

@[simp] theorem fits_field (l : Layout β ε ρ (α → γ)) (c : Codec β ε α) (get : ρ → α) (r : ρ) :
    (l.field c get).fits r = (l.fits r && c.fits (get r)) := rfl

@[simp] theorem encode_start (make : γ) (r : ρ) :
    (start ρ make : Layout β ε ρ γ).encode r = [] := rfl

@[simp] theorem encode_field (l : Layout β ε ρ (α → γ)) (c : Codec β ε α) (get : ρ → α) (r : ρ) :
    (l.field c get).encode r = l.encode r ++ c.encode (get r) := by
  rw [encode_eq, encode_eq]
  rfl

/-- Something is written of every record. -/
class Headed (l : Layout β ε ρ γ) : Prop where
  pos : ∀ r, 0 < (l.encode r).length

instance (l : Layout β ε ρ (α → γ)) [head : Headed l] (c : Codec β ε α) (get : ρ → α) :
    Headed (l.field c get) where
  pos r := by
    rw [encode_field, List.length_append]
    exact Nat.add_pos_left (head.pos r) _

/-- A record is strict when its fields are. -/
theorem strictAt_record {l : Layout β ε ρ ρ} {made : ∀ r, l.make (l.take r) = r}
    {taken : ∀ f, l.take (l.make f) = f} {r : ρ} (h : l.codec.StrictAt (l.take r)) :
    (l.record made taken).StrictAt r := by
  intro rest x hrun
  change l.decode.run (l.encode r ++ rest) = .ok x at hrun
  rw [encode_eq] at hrun
  obtain ⟨f, middle, hread, -⟩ := run_bind_eq_ok.mp hrun
  exact h rest _ hread

end Layout
