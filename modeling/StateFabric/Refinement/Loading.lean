import StateFabric.Refinement.Server

/-!
# What a load accepts

Whatever the files hold, a plane that `load` accepts is coherent: the decoder stores every record
under its own identity, replaying the journal does too, and the checks after a load establish
the rest (`Files.load_coherent`).
-/

namespace StateFabric

open OrderedMap Reader

variable {bytes rest : Bytes} {q : ControlPlane}

/-! ## Decoded maps -/

section Maps

variable {κ α : Type} [Ord κ] [Std.TransOrd κ] [Std.LawfulEqOrd κ] [DecidableEq κ]

theorem KeyedBy.insert {key : α → κ} {m : Std.ExtTreeMap κ α} (h : KeyedBy key m) (record : α) :
    KeyedBy key (m.insert (key record) record) := by
  intro k r hr
  rw [getElem?_insert_eq] at hr
  split at hr
  · rename_i hk
    obtain rfl := Option.some.inj hr
    exact hk
  · exact h hr

theorem keyedBy_decodeMap [Wire α] {maxCount : Nat} {declared duplicate : String} {key : α → κ}
    {m : Std.ExtTreeMap κ α}
    (h : (decodeMap maxCount declared duplicate key).run bytes = .ok (m, rest)) :
    KeyedBy key m := by
  obtain ⟨count, middle, -, h⟩ := run_bind_eq_ok.mp h
  obtain ⟨-, middle, -, h⟩ := run_bind_eq_ok.mp h
  refine iterate_invariant (I := KeyedBy key) ?_ h (keyedBy_empty key)
  intro seen bytes seen' rest hround hseen
  obtain ⟨record, middle, -, hround⟩ := run_bind_eq_ok.mp hround
  obtain ⟨-, middle, -, hround⟩ := run_bind_eq_ok.mp hround
  obtain ⟨rfl, -⟩ := Prod.mk.inj (Except.ok.inj hround)
  exact hseen.insert record

end Maps

namespace ControlPlane

variable {p : ControlPlane}

theorem filed_empty : ({} : ControlPlane).Filed :=
  ⟨keyedBy_empty _, keyedBy_empty _, keyedBy_empty _, keyedBy_empty _, keyedBy_empty _,
    keyedBy_empty _⟩

/-- A decoded plane has every record under its own key. -/
theorem filed_of_decode (h : decode.run bytes = .ok (p, rest)) : p.Filed ∧ p.Keyed := by
  simp only [decode, run_bind_eq_ok] at h
  obtain ⟨_, _, -, _, _, -, _, _, -, _, _, -, _, _, -, _, _, -, _, _, hstates, _, _, hclusters,
    _, _, hreplicas, _, _, hsets, _, _, hoperations, _, _, hauthorizations, _, _, hownership, _, _,
    hcompatibility, _, _, hplacement, _, _, hreplication, h⟩ := h
  obtain ⟨rfl, -⟩ := Prod.mk.inj (Except.ok.inj h)
  exact ⟨⟨keyedBy_decodeMap hstates, keyedBy_decodeMap hclusters, keyedBy_decodeMap hreplicas,
      keyedBy_decodeMap hsets, keyedBy_decodeMap hoperations, keyedBy_decodeMap hownership⟩,
    keyedBy_decodeMap hauthorizations, keyedBy_decodeMap hcompatibility,
    keyedBy_decodeMap hplacement, keyedBy_decodeMap hreplication⟩

theorem finishLoad_valid {maximumRecords : Nat} (h : p.finishLoad maximumRecords = .ok q) :
    q = p.finished ∧ q.validate = none ∧ q.recordCount ≤ maximumRecords := by
  obtain rfl : q = p.finished := finishLoad_ok h
  simp only [finishLoad, rejectIf_bind_eq_ok, decide_eq_false_iff_not] at h
  obtain ⟨hcount, h⟩ := h
  split at h
  · cases h
  · rename_i hvalid
    exact ⟨rfl, hvalid, Nat.le_of_not_lt hcount⟩

end ControlPlane

/-! ## Accepted files -/

theorem filed_of_decodeSnapshot {p : ControlPlane} (h : decodeSnapshot bytes = .ok p) :
    p.Filed ∧ p.Keyed := by
  simp only [decodeSnapshot] at h
  split at h
  · cases h
  · simp only [↓rejectIf_bind_eq_ok] at h
    obtain ⟨-, -, -, -, -, -, -, h⟩ := h
    split at h
    · cases h
    · rename_i plane rest hdecoded
      simp only [rejectIf_bind_eq_ok, pure_eq_ok] at h
      obtain ⟨-, rfl⟩ := h
      obtain ⟨hfiled, hkeyed⟩ := ControlPlane.filed_of_decode hdecoded
      exact ⟨hfiled.of_records rfl, hkeyed.of_records rfl⟩

namespace Files

variable {files : Files} {p : ControlPlane} {maximumRecords : Nat}

/-- The effects of the complete records of the journal. -/
def journalEffects (files : Files) : List Effect :=
  match readWhenPresent files.journal scanJournal with
  | .ok scan => scan.elim [] JournalScan.effects
  | .error _ => []

/-- What a load accepts: a plane with the records of a snapshot and the journal that passes the
checks. -/
theorem load_sources (h : files.load maximumRecords = .ok p) :
    ∃ (snapshot : Option ControlPlane) (scan : Option JournalScan),
      readWhenPresent files.snapshot decodeSnapshot = .ok snapshot
      ∧ readWhenPresent files.journal scanJournal = .ok scan
      ∧ files.journalEffects = scan.elim [] JournalScan.effects
      ∧ p.records = ((snapshot.getD {}).applyAll files.journalEffects).records
      ∧ p.validate = none ∧ p.recordCount ≤ maximumRecords := by
  simp only [load, bind_eq_ok] at h
  obtain ⟨snapshot, hsnapshot, scan, hscan, h⟩ := h
  have heffects : files.journalEffects = scan.elim [] JournalScan.effects := by
    rw [journalEffects, hscan]
  obtain ⟨q, hfinish, hq⟩ := loadPlane_eq snapshot scan maximumRecords
  obtain ⟨rfl, hvalid, hcount⟩ := ControlPlane.finishLoad_valid (hfinish.symm.trans h)
  refine ⟨snapshot, scan, hsnapshot, hscan, heffects, ?_, hvalid, hcount⟩
  rw [q.records_finished, hq, heffects]

theorem readWhenPresent_cases {α : Type} {file : Option Bytes} {read : Bytes → Result α}
    {value : Option α} (h : readWhenPresent file read = .ok value) :
    (file = none ∧ value = none)
      ∨ ∃ bytes a, file = some bytes ∧ read bytes = .ok a ∧ value = some a := by
  cases file with
  | none => exact .inl ⟨rfl, (Except.ok.inj h).symm⟩
  | some bytes =>
    simp only [readWhenPresent, readFile, ↓rejectIf_bind_eq_ok, bind_eq_ok, pure_eq_ok] at h
    obtain ⟨image, ⟨-, rfl⟩, a, hread, rfl⟩ := h
    exact .inr ⟨bytes, a, rfl, hread, rfl⟩

theorem load_parts (h : files.load maximumRecords = .ok p) :
    ∃ base : ControlPlane, (base.Filed ∧ base.Keyed)
      ∧ p.records = (base.applyAll files.journalEffects).records
      ∧ p.validate = none ∧ p.recordCount ≤ maximumRecords := by
  obtain ⟨snapshot, -, hsnapshot, -, -, hrecords, hvalid, hcount⟩ := load_sources h
  refine ⟨snapshot.getD {}, ?_, hrecords, hvalid, hcount⟩
  rcases readWhenPresent_cases hsnapshot with ⟨-, rfl⟩ | ⟨bytes, plane, -, hdecoded, rfl⟩
  · exact ⟨ControlPlane.filed_empty, ControlPlane.keyed_empty⟩
  · exact filed_of_decodeSnapshot hdecoded

/-- Whatever a load accepts is coherent. -/
theorem load_coherent (h : files.load maximumRecords = .ok p) : Coherent p ∧ p.Keyed := by
  obtain ⟨base, ⟨hfiled, hkeyed⟩, hrecords, hvalid, -⟩ := load_parts h
  exact ⟨((hfiled.applyAll files.journalEffects).of_records hrecords).coherent hvalid,
    (hkeyed.applyAll files.journalEffects).of_records hrecords⟩

end Files

end StateFabric
