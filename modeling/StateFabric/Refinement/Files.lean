import StateFabric.Refinement.Durability
import StateFabric.Refinement.Format

/-!
# What the files of a directory load to

A directory value has files: the encoded snapshot, and the header of the journal followed by its
framed records.  When the values are within the bounds of the decoders, loading the files is
loading what the directory holds, also when the last append was interrupted
(`Directory.load_torn`).
-/

namespace StateFabric

open OrderedMap Reader

variable {p q : ControlPlane} {maximumRecords : Nat} {tail : Bytes}

/-! ## Snapshots -/

theorem SnapshotHeader.read_run (header : SnapshotHeader) (payload : Bytes) :
    SnapshotHeader.read.run
      (snapshotHeaderWith header.magic header.version header.reserved header.sequence
        header.payloadLength header.payloadChecksum header.headerChecksum ++ payload)
      = .ok (header, payload) := by
  simp only [snapshotHeaderWith, SnapshotHeader.read]
  simp

/-- The header a snapshot is written with. -/
def snapshotHeaderOf (p : ControlPlane) : SnapshotHeader where
  magic := snapshotMagic
  version := controlPlaneFormatVersion
  reserved := 0
  sequence := p.durableSequence
  payloadLength := UInt64.ofNat p.encode.length
  payloadChecksum := crc32c p.encode
  headerChecksum := crc32c (snapshotHeaderWith snapshotMagic controlPlaneFormatVersion 0
    p.durableSequence (UInt64.ofNat p.encode.length) (crc32c p.encode) 0)

theorem length_encodeSnapshot (p : ControlPlane) :
    (encodeSnapshot p).length = snapshotHeaderBytes + p.encode.length :=
  List.length_append

theorem decodeSnapshot_encodeSnapshot (fits : p.Fits) (bounded : p.encode.length ≤ maxPayloadBytes) :
    decodeSnapshot (encodeSnapshot p) = .ok p.image := by
  have hlength : (UInt64.ofNat p.encode.length).toNat = p.encode.length :=
    UInt64.toNat_ofNat_of_lt' (Nat.lt_of_le_of_lt bounded (by decide))
  have hdecoded : ControlPlane.decode.run p.encode = .ok (p.image, []) := by
    have h := ControlPlane.reads fits []
    rwa [List.append_nil] at h
  have hsmall : ¬ UInt64.size ≤ snapshotHeaderBytes + p.encode.length := by
    have : maxPayloadBytes + snapshotHeaderBytes < UInt64.size := by decide
    omega
  have hread : SnapshotHeader.read.run (encodeSnapshot p) = .ok (snapshotHeaderOf p, p.encode) :=
    SnapshotHeader.read_run (snapshotHeaderOf p) p.encode
  simp only [decodeSnapshot, hread, length_encodeSnapshot]
  simp [snapshotHeaderOf, hlength, hsmall, Nat.not_lt_of_le bounded, hdecoded, rejectIf]
  rfl

/-! ## Planes within the bounds -/

section Maps

variable {κ α : Type} [Ord κ] [Std.TransOrd κ] [Wire α]

/-- A map that is not too large, of records within the bounds of their decoder. -/
def mapBounded (maxCount : Nat) (m : Std.ExtTreeMap κ α) : Bool :=
  decide (m.size ≤ min maxCount 4294967295) && m.toList.all fun entry => fits entry.2

theorem mapFits_of_keyed [Std.LawfulEqOrd κ] [DecidableEq κ] {maxCount : Nat} {key : α → κ}
    {m : Std.ExtTreeMap κ α} (bounded : mapBounded maxCount m = true)
    (keyed : KeyedBy key m) : mapFits maxCount key m = true := by
  obtain ⟨hsize, hall⟩ := Bool.and_eq_true_iff.mp bounded
  refine Bool.and_eq_true_iff.mpr ⟨hsize, List.all_eq_true.mpr fun entry hentry => ?_⟩
  exact Bool.and_eq_true_iff.mpr ⟨decide_eq_true (keyed (mem_toList_iff.mp hentry)),
    List.all_eq_true.mp hall entry hentry⟩

end Maps

namespace ControlPlane

/-- The records of a plane, and their numbers, are within the bounds of the decoders. -/
def withinBounds (p : ControlPlane) : Bool :=
  mapBounded maxDecodedStates p.states && mapBounded maxDecodedClusters p.clusters
    && mapBounded maxDecodedReplicas p.replicas && mapBounded maxDecodedRecords p.replicaSets
    && mapBounded maxDecodedOperations p.operations
    && mapBounded maxDecodedOperations p.authorizations
    && mapBounded maxDecodedRecords p.ownership
    && mapBounded maxDecodedClusters p.compatibilityRecords
    && mapBounded maxDecodedClusters p.placementPolicies
    && mapBounded maxDecodedClusters p.replicationPolicies

/-- Authorizations, compatibility records and policies are stored under their identities; for
the other maps this is part of `Coherent`. -/
structure Keyed (p : ControlPlane) : Prop where
  authorizations : KeyedBy TransferAuthorization.operationId p.authorizations
  compatibilityRecords : KeyedBy CompatibilityRecord.compatibilityId p.compatibilityRecords
  placementPolicies : KeyedBy PlacementPolicyRecord.placementPolicyId p.placementPolicies
  replicationPolicies : KeyedBy ReplicationPolicyRecord.replicationPolicyId p.replicationPolicies

variable {p q : ControlPlane}

namespace Keyed

theorem applyAll (h : p.Keyed) (es : List Effect) : (p.applyAll es).Keyed where
  authorizations := h.authorizations.puts (p.applyAll_authorizations es)
  compatibilityRecords := h.compatibilityRecords.puts (p.applyAll_compatibilityRecords es)
  placementPolicies := h.placementPolicies.puts (p.applyAll_placementPolicies es)
  replicationPolicies := h.replicationPolicies.puts (p.applyAll_replicationPolicies es)

theorem of_records (h : p.Keyed) (eq : q.records = p.records) : q.Keyed := by
  have hrecords : p.records.Keyed := { h with }
  rw [← eq] at hrecords
  exact { hrecords with }

end Keyed

theorem keyed_empty : ({} : ControlPlane).Keyed :=
  ⟨keyedBy_empty _, keyedBy_empty _, keyedBy_empty _, keyedBy_empty _⟩

/-- A plane whose records are under their keys is encoded faithfully when it is within the
bounds. -/
theorem fits_of_withinBounds (coherent : Coherent p) (keyed : p.Keyed)
    (bounded : p.withinBounds = true) : p.Fits := by
  simp only [withinBounds, Bool.and_eq_true, and_assoc] at bounded
  obtain ⟨hstates, hclusters, hreplicas, hsets, hoperations, hauthorizations, hownership,
    hcompatibility, hplacement, hreplication⟩ := bounded
  exact
    { states := mapFits_of_keyed hstates coherent.filed.states
      clusters := mapFits_of_keyed hclusters coherent.filed.clusters
      replicas := mapFits_of_keyed hreplicas coherent.filed.replicas
      replicaSets := mapFits_of_keyed hsets coherent.filed.replicaSets
      operations := mapFits_of_keyed hoperations coherent.filed.operations
      authorizations := mapFits_of_keyed hauthorizations keyed.authorizations
      ownership := mapFits_of_keyed hownership coherent.filed.ownership
      compatibilityRecords := mapFits_of_keyed hcompatibility keyed.compatibilityRecords
      placementPolicies := mapFits_of_keyed hplacement keyed.placementPolicies
      replicationPolicies := mapFits_of_keyed hreplication keyed.replicationPolicies }

end ControlPlane

/-! ## Directories and their files -/

namespace Directory

/-- The files that hold the values of a directory. -/
def files (d : Directory) : Files where
  snapshot := d.snapshot.map encodeSnapshot
  journal := d.journal.map fun records => journalHeader ++ records.flatMap encodeJournalRecord

/-- The values of a directory are within the bounds of the decoders. -/
structure Fits (d : Directory) : Prop where
  snapshot : ∀ p ∈ d.snapshot, p.Fits ∧ p.encode.length ≤ maxPayloadBytes
  journal : ∀ records ∈ d.journal, ∀ r ∈ records,
    r.fits = true ∧ r.payload.length ≤ maxPayloadBytes

theorem files_append (d : Directory) (record : JournalRecord) :
    (d.append record).files = d.files.append record := by
  simp only [files, append, Files.append]
  cases d.journal with
  | none | some => simp

theorem files_checkpoint (p : ControlPlane) : (checkpoint p).files = Files.checkpoint p := by
  simp only [files, checkpoint, Files.checkpoint, Option.map_some, List.flatMap_nil,
    List.append_nil]
  rfl

end Directory

/-- The files after an append that was interrupted. -/
def Files.withTail (files : Files) (tail : Bytes) : Files :=
  { files with journal := files.journal.map (· ++ tail) }

@[simp] theorem Files.withTail_nil (files : Files) : files.withTail [] = files := by
  obtain ⟨snapshot, journal⟩ := files
  cases journal <;> simp [withTail]

theorem tornTail_nil : TornTail [] := .inl rfl

/-! ## Loading -/

theorem readWhenPresent_map {α β : Type} {write : α → Bytes} {read : Bytes → Result β}
    {value : α → β} {file : Option α}
    (small : ∀ a ∈ file, (write a).length ≤ maxFileBytes)
    (reads : ∀ a ∈ file, read (write a) = .ok (value a)) :
    readWhenPresent (file.map write) read = .ok (file.map value) := by
  cases file with
  | none => rfl
  | some a =>
    have hsmall : ¬ maxFileBytes < (write a).length := Nat.not_lt_of_le (small a rfl)
    have hfile : readFile (write a) = .ok (write a) := by
      simp [readFile, rejectIf, hsmall, bind, Except.bind, pure, Except.pure]
    simp only [Option.map_some, readWhenPresent, hfile, reads a rfl, bind, Except.bind, pure,
      Except.pure]

namespace Directory

variable {d : Directory}

theorem exists_completeRecords {records : List JournalRecord}
    (h : ∀ r ∈ records, r.fits = true ∧ r.payload.length ≤ maxPayloadBytes) :
    ∃ complete : List CompleteRecord,
      complete.flatMap CompleteRecord.bytes = records.flatMap encodeJournalRecord
        ∧ complete.map CompleteRecord.record = records.map JournalRecord.image := by
  induction records with
  | nil => exact ⟨[], rfl, rfl⟩
  | cons r rest ih =>
    obtain ⟨complete, hbytes, hrecords⟩ := ih fun r hr => h r (List.mem_cons_of_mem _ hr)
    obtain ⟨hfits, hbounded⟩ := h r List.mem_cons_self
    refine ⟨.ofRecord r hfits hbounded :: complete, ?_, ?_⟩
    · rw [List.flatMap_cons, List.flatMap_cons, hbytes, CompleteRecord.ofRecord_bytes]
    · rw [List.map_cons, List.map_cons, hrecords, CompleteRecord.ofRecord_record]

/-- The journal of a directory, with what an interrupted append left of a frame. -/
theorem Fits.scanJournal {records : List JournalRecord} (h : d.Fits) (mem : records ∈ d.journal)
    (torn : TornTail tail) :
    scanJournal (journalHeader ++ records.flatMap encodeJournalRecord ++ tail)
      = .ok { records := records.map JournalRecord.image, trailingPartialBytes := tail.length } := by
  obtain ⟨complete, hbytes, hrecords⟩ := exists_completeRecords (h.journal records mem)
  rw [List.append_assoc, ← hbytes, ← hrecords]
  exact scanJournal_records complete torn

/-- The journal file of a directory, with or without a torn tail, is scanned to its records. -/
theorem Fits.readWhenPresent_journal (h : d.Fits) (torn : TornTail tail)
    (small : ∀ bytes ∈ (d.files.withTail tail).journal, bytes.length ≤ maxFileBytes) :
    readWhenPresent (d.files.withTail tail).journal StateFabric.scanJournal
      = .ok (d.journal.map fun records =>
          { records := records.map JournalRecord.image, trailingPartialBytes := tail.length }) := by
  simp only [files, Files.withTail, Option.map_map] at small ⊢
  exact readWhenPresent_map (fun records hmem => small _ (Option.mem_map_of_mem _ hmem))
    fun records hmem => h.scanJournal hmem torn

/-- Loading the files of a directory, with or without a torn tail, is loading what they
hold. -/
theorem load_torn (h : d.Fits) (torn : TornTail tail)
    (small : ∀ bytes ∈ (d.files.withTail tail).journal, bytes.length ≤ maxFileBytes)
    (maximumRecords : Nat) :
    (d.files.withTail tail).load maximumRecords
      = loadPlane (d.snapshot.map ControlPlane.image)
          (d.journal.map fun records =>
            { records := records.map JournalRecord.image, trailingPartialBytes := tail.length })
          maximumRecords := by
  have hsmall : ∀ p ∈ d.snapshot, (encodeSnapshot p).length ≤ maxFileBytes := by
    intro p hp
    have hbounded := (h.snapshot p hp).2
    have hroom : snapshotHeaderBytes + maxPayloadBytes ≤ maxFileBytes := by decide
    rw [length_encodeSnapshot]
    omega
  have hdecoded : ∀ p ∈ d.snapshot, decodeSnapshot (encodeSnapshot p) = .ok p.image :=
    fun p hp => decodeSnapshot_encodeSnapshot (h.snapshot p hp).1 (h.snapshot p hp).2
  have hsnapshot : readWhenPresent (d.snapshot.map encodeSnapshot) decodeSnapshot
      = .ok (d.snapshot.map ControlPlane.image) := readWhenPresent_map hsmall hdecoded
  have hsame : (d.files.withTail tail).snapshot = d.snapshot.map encodeSnapshot := rfl
  simp only [Files.load, hsame, hsnapshot, h.readWhenPresent_journal torn small, bind, Except.bind]

end Directory

namespace ControlPlane

theorem recordCount_eq_of_records (h : p.records = q.records) : p.recordCount = q.recordCount := by
  have hrecords : ∀ r : ControlPlane, r.records.recordCount = r.recordCount := fun _ => rfl
  rw [← hrecords p, h, hrecords]

/-- A plane as a load finishes it. -/
def finished (p : ControlPlane) : ControlPlane :=
  { p with persistenceEnabled := true, recovered := true, nextId := p.highestIdentity + 1 }

theorem records_finished (p : ControlPlane) : p.finished.records = p.records := by
  simp only [finished, records]

theorem finishLoad_of_coherent (coherent : Coherent p) (count : p.recordCount ≤ maximumRecords) :
    p.finishLoad maximumRecords = .ok p.finished := by
  have hvalid := (coherent.of_records p.records_finished).validate_eq_none
  have hcount : ¬ maximumRecords < p.finished.recordCount := by
    rw [recordCount_eq_of_records p.records_finished]
    exact Nat.not_lt_of_le count
  simp only [finished] at hvalid hcount
  simp only [finishLoad, hvalid, rejectIf, hcount, decide_false]
  rfl

end ControlPlane

theorem ControlPlane.finishLoad_of_count (count : maximumRecords < p.recordCount) :
    p.finishLoad maximumRecords = .error (makeError .resourceExhausted
      (text "durable control plane holds more records than the configured bound")) := by
  have hcount : maximumRecords < p.finished.recordCount := by
    rwa [recordCount_eq_of_records p.records_finished]
  simp only [finished] at hcount
  simp only [finishLoad, rejectIf, hcount, decide_true, if_true]
  rfl

/-- The effects of the records a scan found. -/
def JournalScan.effects (scan : JournalScan) : List Effect := scan.records.flatMap (·.effects)

/-- A load ends in the checks, made of a plane with the records of the snapshot and the
journal. -/
theorem loadPlane_eq (snapshot : Option ControlPlane) (journal : Option JournalScan)
    (maximumRecords : Nat) :
    ∃ q : ControlPlane, loadPlane snapshot journal maximumRecords = q.finishLoad maximumRecords
      ∧ q.records
        = ((snapshot.getD {}).applyAll (journal.elim [] JournalScan.effects)).records := by
  cases journal with
  | none => exact ⟨_, rfl, rfl⟩
  | some scan => exact ⟨_, rfl, ControlPlane.records_replay _ scan⟩

theorem loadPlane_records {snapshot : Option ControlPlane} {journal : Option JournalScan}
    (h : loadPlane snapshot journal maximumRecords = .ok q) :
    q.records = ((snapshot.getD {}).applyAll (journal.elim [] JournalScan.effects)).records
      ∧ q.recovered = true ∧ q.persistenceEnabled = true := by
  obtain ⟨p, hload, hp⟩ := loadPlane_eq snapshot journal maximumRecords
  obtain rfl := ControlPlane.finishLoad_ok (hload.symm.trans h)
  exact ⟨(ControlPlane.records_finished _).trans hp, rfl, rfl⟩

theorem Files.load_ok {files : Files} (h : files.load maximumRecords = .ok q) :
    q.recovered = true ∧ q.persistenceEnabled = true := by
  simp only [Files.load, bind_eq_ok] at h
  obtain ⟨snapshot, -, journal, -, h⟩ := h
  exact (loadPlane_records h).2

/-- A snapshot and a journal that give the records of a coherent plane load exactly when there
are not too many records, and then give back its records. -/
theorem loadPlane_cases {snapshot : Option ControlPlane} {journal : Option JournalScan}
    (coherent : Coherent p)
    (contents : ((snapshot.getD {}).applyAll (journal.elim [] JournalScan.effects)).records
      = p.records) (maximumRecords : Nat) :
    if p.recordCount ≤ maximumRecords then
      ∃ q, loadPlane snapshot journal maximumRecords = .ok q ∧ q.records = p.records
    else loadPlane snapshot journal maximumRecords = .error (makeError .resourceExhausted
      (text "durable control plane holds more records than the configured bound")) := by
  obtain ⟨q, hload, hq⟩ := loadPlane_eq snapshot journal maximumRecords
  have hq : q.records = p.records := hq.trans contents
  have hcount := ControlPlane.recordCount_eq_of_records hq
  split
  · rename_i hroom
    rw [hload, ControlPlane.finishLoad_of_coherent (coherent.of_records hq) (hcount ▸ hroom)]
    exact ⟨_, rfl, q.records_finished.trans hq⟩
  · rename_i hfull
    rw [hload, ControlPlane.finishLoad_of_count]
    omega

namespace Files

/-- Loading the files gives back the records of a plane, and refuses them only when there are
more than the configuration allows. -/
def Give (files : Files) (p : ControlPlane) : Prop :=
  ∀ maximumRecords,
    if p.recordCount ≤ maximumRecords then
      ∃ q, files.load maximumRecords = .ok q ∧ q.records = p.records
    else files.load maximumRecords = .error (makeError .resourceExhausted
      (text "durable control plane holds more records than the configured bound"))

variable {files : Files} {p q : ControlPlane}

theorem Give.load_ok (h : files.Give p) (count : p.recordCount ≤ maximumRecords) :
    ∃ q, files.load maximumRecords = .ok q ∧ q.records = p.records := by
  have hload := h maximumRecords
  rwa [if_pos count] at hload

theorem Give.load_iff (h : files.Give p) (maximumRecords : Nat) :
    (∃ q, files.load maximumRecords = .ok q ∧ q.records = p.records)
      ↔ p.recordCount ≤ maximumRecords := by
  refine ⟨?_, h.load_ok⟩
  rintro ⟨q, hq, -⟩
  by_contra hfull
  have hload := h maximumRecords
  rw [if_neg hfull, hq] at hload
  cases hload

end Files

namespace Directory

variable {d : Directory}

/-- What the journal file of a directory is scanned to has the effects of its journal. -/
theorem effects_scan (d : Directory) (tail : Bytes) :
    (d.journal.map fun records =>
      ({ records := records.map JournalRecord.image, trailingPartialBytes := tail.length }
        : JournalScan)).elim [] JournalScan.effects = d.effects := by
  cases hj : d.journal with
  | none => simp [effects, hj]
  | some => simp [effects, hj, JournalScan.effects, List.flatMap_map, JournalRecord.image]

theorem contents_eq (d : Directory) (tail : Bytes) :
    (((d.snapshot.map ControlPlane.image).getD {}).applyAll
      ((d.journal.map fun records =>
        ({ records := records.map JournalRecord.image, trailingPartialBytes := tail.length }
          : JournalScan)).elim [] JournalScan.effects)).records = d.contents := by
  rw [effects_scan, Directory.contents]
  apply ControlPlane.records_applyAll_congr
  cases d.snapshot <;> rfl

/-- The files of a directory give back the records of the coherent plane it holds; an
interrupted append changes nothing. -/
theorem give_torn (h : d.Fits) (torn : TornTail tail)
    (small : ∀ bytes ∈ (d.files.withTail tail).journal, bytes.length ≤ maxFileBytes)
    (coherent : Coherent p) (contents : d.contents = p.records) :
    (d.files.withTail tail).Give p := by
  intro maximumRecords
  rw [load_torn h torn small]
  exact loadPlane_cases coherent ((contents_eq d tail).trans contents) maximumRecords

/-- Whatever is loaded from the files of a directory is what the directory holds. -/
theorem load_files_records (h : d.Fits)
    (small : ∀ bytes ∈ d.files.journal, bytes.length ≤ maxFileBytes)
    (loaded : d.files.load maximumRecords = .ok q) : q.records = d.contents := by
  have hload := load_torn h tornTail_nil (by rwa [Files.withTail_nil]) maximumRecords
  rw [Files.withTail_nil, loaded] at hload
  exact (loadPlane_records hload.symm).1.trans (contents_eq d [])

end Directory

theorem Files.load_refused {files : Files} {bytes : Bytes} {e : Error}
    (journal : files.journal = some bytes) (refused : scanJournal bytes = .error e)
    (maximumRecords : Nat) : ∃ e', files.load maximumRecords = .error e' := by
  have hjournal : ∃ e', readWhenPresent files.journal scanJournal = .error e' := by
    simp only [journal, readWhenPresent]
    cases hfile : readFile bytes with
    | error e' => exact ⟨e', rfl⟩
    | ok =>
      simp only [readFile, rejectIf_bind_eq_ok, pure_eq_ok] at hfile
      obtain ⟨-, rfl⟩ := hfile
      exact ⟨e, by simp [refused, bind, Except.bind]⟩
  obtain ⟨e', hjournal⟩ := hjournal
  cases hsnapshot : readWhenPresent files.snapshot decodeSnapshot with
  | error e'' => exact ⟨e'', by simp only [Files.load, hsnapshot, bind, Except.bind]⟩
  | ok => exact ⟨e', by simp only [Files.load, hsnapshot, hjournal, bind, Except.bind]⟩

end StateFabric
