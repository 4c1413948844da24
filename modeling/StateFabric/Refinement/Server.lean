import StateFabric.Persistence.Server
import StateFabric.Refinement.Files
import StateFabric.Refinement.Run

/-!
# Coordinators keep their files in step

`Server.Kept` says that the files of a coordinator hold a directory within the bounds of the
decoders whose contents are the records in memory, and that these records already contain the
journal.  The second part is what makes a checkpoint that replaced the snapshot but not the
journal harmless: replaying the journal over the new snapshot changes nothing.

Commits and checkpoints keep it, the latter also when they fail; so does an append that fails
without leaving a byte.
-/

namespace StateFabric

open OrderedMap Protocol Transition

variable {p q : ControlPlane} {files : Files} {written : Nat} {config : FabricConfig}

/-! ## The size of a plane -/

namespace ControlPlane

/-- The record maps of a plane. -/
def maps (p : ControlPlane) : ControlPlane :=
  { states := p.states
    clusters := p.clusters
    replicas := p.replicas
    replicaSets := p.replicaSets
    operations := p.operations
    authorizations := p.authorizations
    ownership := p.ownership
    compatibilityRecords := p.compatibilityRecords
    placementPolicies := p.placementPolicies
    replicationPolicies := p.replicationPolicies }

/-- The length of a snapshot depends on the record maps alone: all else is of fixed width. -/
theorem length_encode (p : ControlPlane) : p.encode.length = p.maps.encode.length := by
  have hid {tag : IdTag} (i : StrongId tag) : (encodeId i).length = 8 := rfl
  have hword (x : UInt64) : (ByteWriter.u64 x).length = 8 := rfl
  have hcounters (c : FabricCounters) :
      (Wire.encode c).length = (Wire.encode ({} : FabricCounters)).length := by
    simp only [Wire.encode, Wire.codec, Layout.record, Layout.encode, Layout.field, Layout.start,
      Codec.pair, Codec.unit, Codec.total, ByteCodec.u64, List.length_append, hword]
  simp only [ControlPlane.encode, List.length_flatten, List.map_cons, List.map_nil, maps, hid,
    hword, hcounters p.counters]

/-- A plane whose snapshot can be read: its records are within the bounds of the decoders and
its encoding is not too long. -/
def readable (p : ControlPlane) : Bool :=
  p.withinBounds && decide (p.encode.length ≤ maxPayloadBytes)

theorem readable_eq_of_maps (h : p.maps = q.maps) : p.readable = q.readable := by
  have hbounds : ∀ r : ControlPlane, r.withinBounds = r.maps.withinBounds := fun _ => rfl
  simp only [readable, hbounds p, hbounds q, length_encode p, length_encode q, h]

theorem Fits.image (h : p.Fits) : p.image.Fits :=
  ⟨h.states, h.clusters, h.replicas, h.replicaSets, h.operations, h.authorizations, h.ownership,
    h.compatibilityRecords, h.placementPolicies, h.replicationPolicies⟩

theorem maps_eq_of_records (h : p.records = q.records) : p.maps = q.maps := by
  have hrecords : ∀ r : ControlPlane, r.records.maps = r.maps := fun _ => rfl
  rw [← hrecords p, h, hrecords]

end ControlPlane

/-! ## Requests that write -/

namespace Server

variable {s s' : Server} {m : Mutation} {record : JournalRecord}

/-- A request that appends a record is executed, and the record holds its effects. -/
theorem pending_eq_some (h : s.pending m = some record) :
    ∃ out, Executes s.runtime m out ∧ out.effects.isEmpty = false
      ∧ record = s.runtime.record out.effects out.tick out.epoch := by
  simp only [pending] at h
  split at h
  · cases h
  · rename_i hrunning
    cases hbody : mutationBody m s.runtime.inputs with
    | error => simp [hbody] at h
    | ok out =>
      simp only [hbody] at h
      split at h
      · cases h
      · rename_i heffects
        exact ⟨out, ⟨Bool.eq_false_iff.mpr hrunning, hbody⟩, Bool.eq_false_iff.mpr heffects,
          (Option.some.inj h).symm⟩

theorem after_of_pending_none (h : s.pending m = none) (faults : Faults) :
    ∃ tick, s.after m faults = { s with plane := s.plane.observeTick tick } := by
  have hstill : s = { s with plane := s.plane.observeTick 0 } := by
    simp [ControlPlane.observeTick]
  by_cases hrunning : s.shuttingDown = true
  · refine ⟨0, Eq.trans ?_ hstill⟩
    simp [after, mutate, hrunning]
  · cases hbody : mutationBody m s.runtime.inputs with
    | error =>
      refine ⟨0, Eq.trans ?_ hstill⟩
      simp [after, mutate, hrunning, hbody]
    | ok out =>
      simp only [pending, hrunning, hbody, Bool.false_eq_true, if_false] at h
      split at h
      · rename_i heffects
        exact ⟨out.tick, by simp [after, mutate, hrunning, hbody, persistAndApply, heffects]⟩
      · cases h

theorem after_of_pending (h : s.pending m = some record) {faults : Faults}
    (appended : faults.append = none) :
    s.after m faults = ((s.commit record).checkpointWhenDue faults.checkpoint).1 := by
  obtain ⟨out, hexec, heffects, rfl⟩ := pending_eq_some h
  have hrunning : s.shuttingDown = false := hexec.running
  simp only [after, mutate, hrunning, hexec.body, persistAndApply, heffects, appended,
    Bool.false_eq_true, if_false]
  split <;> simp_all

/-- A request that appends a record, when the append fails and commits must be durable. -/
theorem after_of_failed_append (h : s.pending m = some record) {faults : Faults} {e : Error}
    (failed : faults.append = some (written, e)) (durable : s.config.requireDurableCommits = true) :
    s.after m faults = { s with files := s.files.appendUntil record written } := by
  obtain ⟨out, hexec, heffects, rfl⟩ := pending_eq_some h
  have hrunning : s.shuttingDown = false := hexec.running
  simp only [after, mutate, hrunning, hexec.body, persistAndApply, heffects, failed, durable,
    Bool.false_eq_true, if_false, if_true]

theorem commit_records (s : Server) (record : JournalRecord) :
    (s.commit record).plane.records = (s.plane.applyAll record.effects).records :=
  ControlPlane.records_observeTick _ record.tick

theorem checkpoint_records (s : Server) (fault : Option CheckpointFault) :
    (s.checkpoint fault).1.plane.records = s.plane.records := by
  cases fault <;> rfl

/-! ## What a coordinator keeps -/

/-- The plane and the journal of a coordinator are within the bounds of what is read again. -/
def withinBounds (s : Server) : Bool :=
  s.plane.readable && decide ((s.files.journal.getD []).length ≤ maxFileBytes)

/-- A journal record can be read again, and committing it leaves the coordinator within its
bounds. -/
def admits (s : Server) (record : JournalRecord) : Bool :=
  record.fits && decide (record.payload.length ≤ maxPayloadBytes)
    && (s.commit record).withinBounds

/-- The files of a coordinator hold a directory with the records in memory, which contain the
journal. -/
structure Stores (s : Server) (d : Directory) : Prop where
  files : s.files = d.files
  journal : d.journal.isSome = true
  fits : d.Fits
  contents : d.contents = s.plane.records
  replayed : ∃ base : ControlPlane, (base.applyAll d.effects).records = s.plane.records

/-- What every step of a coordinator keeps. -/
structure Kept (s : Server) : Prop where
  coherent : Coherent s.plane
  keyed : s.plane.Keyed
  bounded : s.withinBounds = true
  stored : ∃ d, s.Stores d

theorem readable_of_withinBounds (h : s.withinBounds = true) : s.plane.readable = true :=
  (Bool.and_eq_true_iff.mp h).1

namespace Kept

theorem fits (h : s.Kept) : s.plane.Fits ∧ s.plane.encode.length ≤ maxPayloadBytes := by
  have hreadable := readable_of_withinBounds h.bounded
  simp only [ControlPlane.readable, Bool.and_eq_true, decide_eq_true_eq] at hreadable
  exact ⟨ControlPlane.fits_of_withinBounds h.coherent h.keyed hreadable.1, hreadable.2⟩

theorem small (h : s.Kept) : (s.files.journal.getD []).length ≤ maxFileBytes :=
  of_decide_eq_true (Bool.and_eq_true_iff.mp h.bounded).2

theorem congr (h : s.Kept) (files : s'.files = s.files)
    (records : s'.plane.records = s.plane.records) : s'.Kept where
  coherent := h.coherent.of_records records
  keyed := h.keyed.of_records records
  bounded := by
    have hbounded := h.bounded
    rw [withinBounds] at hbounded ⊢
    rwa [files, ControlPlane.readable_eq_of_maps (ControlPlane.maps_eq_of_records records)]
  stored := by
    obtain ⟨d, hd⟩ := h.stored
    exact ⟨d, files.trans hd.files, hd.journal, hd.fits, hd.contents.trans records.symm, by
      obtain ⟨base, hbase⟩ := hd.replayed
      exact ⟨base, hbase.trans records.symm⟩⟩

theorem commit (h : s.Kept) (hpending : s.pending m = some record)
    (hadmits : s.admits record = true) : (s.commit record).Kept := by
  obtain ⟨out, hexec, -, rfl⟩ := pending_eq_some hpending
  simp only [admits, Bool.and_eq_true, decide_eq_true_eq] at hadmits
  obtain ⟨⟨hfits, hpayload⟩, hbounded⟩ := hadmits
  have hrecords := s.commit_records (s.runtime.record out.effects out.tick out.epoch)
  have hgrounded : Grounded s.plane out.effects := (hexec.admissible h.coherent).grounded
  obtain ⟨d, hd⟩ := h.stored
  refine ⟨(h.coherent.applyAll hgrounded).of_records hrecords,
    (h.keyed.applyAll out.effects).of_records hrecords, hbounded,
    d.append (s.runtime.record out.effects out.tick out.epoch), ?_, rfl, ⟨hd.fits.snapshot, ?_⟩,
    ?_, ?_⟩
  · rw [Directory.files_append, ← hd.files]
    rfl
  · intro records hmem r hr
    obtain rfl := Option.some.inj hmem
    rcases List.mem_append.mp hr with hold | hnew
    · cases hj : d.journal with
      | none => simp [hj] at hold
      | some old => exact hd.fits.journal old hj r (by simpa [hj] using hold)
    · obtain rfl := List.mem_singleton.mp hnew
      exact ⟨hfits, hpayload⟩
  · rw [Directory.contents_append, hrecords, hd.contents]
    exact ControlPlane.records_applyAll_congr (p := s.plane.records) (q := s.plane) rfl _
  · obtain ⟨base, hbase⟩ := hd.replayed
    refine ⟨base, ?_⟩
    have heffects : (d.append (s.runtime.record out.effects out.tick out.epoch)).effects
        = d.effects ++ out.effects := by
      simp [Directory.effects, Directory.append, Runtime.record]
    rw [heffects, ControlPlane.applyAll_append, hrecords]
    exact ControlPlane.records_applyAll_congr hbase _

/-- A snapshot of the plane over the journal there is: what a checkpoint leaves that did not
reset the journal. -/
theorem snapshotted (h : s.Kept) :
    { s with files := { s.files with snapshot := some (encodeSnapshot s.plane) } }.Kept := by
  obtain ⟨d, hd⟩ := h.stored
  obtain ⟨base, hbase⟩ := hd.replayed
  refine ⟨h.coherent, h.keyed, h.bounded, { d with snapshot := some s.plane.image }, ?_,
    hd.journal, ⟨?_, hd.fits.journal⟩, ?_, base, hbase⟩
  · simp only [hd.files, Directory.files, Option.map_some]
    rfl
  · intro p hp
    obtain rfl := Option.some.inj hp
    exact ⟨h.fits.1.image, h.fits.2⟩
  · calc (s.plane.image.applyAll d.effects).records
        = (s.plane.applyAll d.effects).records :=
          ControlPlane.records_applyAll_congr (p := s.plane.image) (q := s.plane) rfl _
      _ = ((base.applyAll d.effects).applyAll d.effects).records :=
          ControlPlane.records_applyAll_congr hbase.symm _
      _ = (base.applyAll d.effects).records := ControlPlane.records_applyAll_twice _ _
      _ = s.plane.records := hbase

theorem of_checkpoint (coherent : Coherent s.plane) (keyed : s.plane.Keyed)
    (readable : s.plane.readable = true) : (s.checkpoint none).1.Kept := by
  have hrecords := s.checkpoint_records none
  have hbounds : s.plane.withinBounds = true ∧ s.plane.encode.length ≤ maxPayloadBytes := by
    simp only [ControlPlane.readable, Bool.and_eq_true, decide_eq_true_eq] at readable
    exact readable
  refine ⟨coherent.of_records hrecords, keyed.of_records hrecords, ?_,
    Directory.checkpoint s.plane, (Directory.files_checkpoint s.plane).symm, rfl, ⟨?_, ?_⟩, ?_,
    s.plane, rfl⟩
  · have hheader : journalHeader.length ≤ maxFileBytes := by decide +kernel
    have hmaps := ControlPlane.maps_eq_of_records hrecords
    rw [withinBounds, ControlPlane.readable_eq_of_maps hmaps, readable]
    exact decide_eq_true hheader
  · intro p hp
    obtain rfl := Option.some.inj hp
    exact ⟨(ControlPlane.fits_of_withinBounds coherent keyed hbounds.1).image, hbounds.2⟩
  · intro records hmem r hr
    obtain rfl := Option.some.inj hmem
    cases hr
  · exact (Directory.contents_checkpoint s.plane).trans hrecords.symm

theorem checkpoint (h : s.Kept) (fault : Option CheckpointFault) : (s.checkpoint fault).1.Kept := by
  rcases fault with - | ⟨step, e⟩
  · exact of_checkpoint h.coherent h.keyed (readable_of_withinBounds h.bounded)
  · cases step with
    | writeSnapshot | replaceSnapshot => exact h.congr rfl rfl
    | writeJournal | replaceJournal => exact h.snapshotted.congr rfl rfl

theorem checkpointWhenDue (h : s.Kept) (fault : Option CheckpointFault) :
    (s.checkpointWhenDue fault).1.Kept := by
  unfold Server.checkpointWhenDue
  split
  · exact h.checkpoint fault
  · exact h

theorem small_files {d : Directory} (h : s.Kept) (hd : s.Stores d) :
    ∀ bytes ∈ (d.files.withTail []).journal, bytes.length ≤ maxFileBytes := by
  intro bytes hbytes
  rw [Files.withTail_nil, ← hd.files] at hbytes
  have hsmall := h.small
  rwa [hbytes] at hsmall

/-- The files give back the records in memory. -/
theorem gives (h : s.Kept) : s.files.Give s.plane := by
  obtain ⟨d, hd⟩ := h.stored
  have hgive := Directory.give_torn hd.fits tornTail_nil (h.small_files hd) h.coherent hd.contents
  rwa [Files.withTail_nil, ← hd.files] at hgive

theorem load_records (h : s.Kept) {maximumRecords : Nat}
    (loaded : s.files.load maximumRecords = .ok q) : q.records = s.plane.records := by
  obtain ⟨d, hd⟩ := h.stored
  have hsmall := h.small_files hd
  rw [Files.withTail_nil] at hsmall
  rw [hd.files] at loaded
  exact (Directory.load_files_records hd.fits hsmall loaded).trans hd.contents

theorem isSome_journal (h : s.Kept) : s.files.journal.isSome = true := by
  obtain ⟨d, hd⟩ := h.stored
  rw [hd.files, Directory.files, Option.isSome_map]
  exact hd.journal

end Kept

/-! ## Interrupted appends -/

theorem appendUntil_eq_withTail (h : files.journal.isSome = true) (record : JournalRecord)
    (written : Nat) :
    files.appendUntil record written
      = files.withTail ((encodeJournalRecord record).take written) := by
  obtain ⟨journal, hjournal⟩ := Option.isSome_iff_exists.mp h
  simp only [Files.appendUntil, Files.withTail, hjournal, Option.map_some]

theorem appendUntil_eq_append (h : files.journal.isSome = true) {record : JournalRecord}
    (complete : (encodeJournalRecord record).length ≤ written) :
    files.appendUntil record written = files.append record := by
  obtain ⟨journal, hjournal⟩ := Option.isSome_iff_exists.mp h
  simp only [Files.appendUntil, Files.append, hjournal, List.take_of_length_le complete,
    Option.getD_some]

theorem appendUntil_zero (h : files.journal.isSome = true) (record : JournalRecord) :
    files.appendUntil record 0 = files := by
  rw [appendUntil_eq_withTail h, List.take_zero, Files.withTail_nil]

theorem tornTail_take {record : JournalRecord} (fits : record.fits = true)
    (bounded : record.payload.length ≤ maxPayloadBytes)
    (short : written < (encodeJournalRecord record).length) :
    TornTail ((encodeJournalRecord record).take written) := by
  refine .inr ⟨.ofRecord record fits bounded, (encodeJournalRecord record).drop written, ?_, ?_⟩
  · rw [ne_eq, List.drop_eq_nil_iff]
    omega
  · rw [CompleteRecord.ofRecord_bytes, List.take_append_drop]

/-- After an append that was interrupted the files still give back the records before it. -/
theorem Kept.gives_torn (h : s.Kept) (hadmits : s.admits record = true)
    (short : written < (encodeJournalRecord record).length) :
    (s.files.appendUntil record written).Give s.plane := by
  simp only [admits, Bool.and_eq_true, decide_eq_true_eq] at hadmits
  obtain ⟨⟨hfits, hpayload⟩, hbounded⟩ := hadmits
  have hwhole : ((s.files.append record).journal.getD []).length ≤ maxFileBytes :=
    of_decide_eq_true (Bool.and_eq_true_iff.mp hbounded).2
  have hjournal := h.isSome_journal
  obtain ⟨d, hd⟩ := h.stored
  rw [appendUntil_eq_withTail hjournal, hd.files]
  refine Directory.give_torn hd.fits (tornTail_take hfits hpayload short) ?_ h.coherent
    hd.contents
  intro bytes hbytes
  obtain ⟨journal, hj, rfl⟩ := Option.map_eq_some_iff.mp hbytes
  rw [Files.append, hd.files, hj, Option.getD_some, Option.getD_some] at hwhole
  simp only [List.length_append, List.length_take] at hwhole ⊢
  omega

/-! ## Opening -/

/-- A directory opens when its files load and it has no other coordinator; the plane is then
configured and recovered. -/
theorem initializeServer_iff :
    initializeServer config files = .ok s ↔ config.coordinatorId.valid = true ∧
      ∃ loaded, files.load config.maximumRecords = .ok loaded
        ∧ (loaded.coordinatorId.valid && loaded.coordinatorId != config.coordinatorId) = false
        ∧ s = { plane := (loaded.configure config).recover, config := config, files := files } := by
  have hinitialize : ∀ loaded : ControlPlane, files.load config.maximumRecords = .ok loaded →
      { loaded with persistenceEnabled := true } = loaded ∧ loaded.recovered = true := by
    intro loaded hload
    obtain ⟨hrecovered, henabled⟩ := Files.load_ok hload
    exact ⟨by rw [← henabled], hrecovered⟩
  rw [initializeServer, rejectIf_bind_eq_ok, Bool.not_eq_false']
  simp only [bind_eq_ok, pure_eq_ok]
  refine and_congr_right fun _ => exists_congr fun loaded => and_congr_right fun hload => ?_
  obtain ⟨hsame, hrecovered⟩ := hinitialize loaded hload
  rw [hsame]
  simp only [initializeFabric, rejectIf_bind_eq_ok, hrecovered, if_true, Option.isSome_none,
    Bool.false_eq_true, if_false, pure_eq_ok]
  constructor
  · rintro ⟨r, ⟨hsole, rfl⟩, rfl⟩
    exact ⟨hsole, rfl⟩
  · rintro ⟨hsole, rfl⟩
    exact ⟨_, ⟨hsole, rfl⟩, rfl⟩

theorem openServer_of_initialize (h : initializeServer config files = .ok s) :
    openServer config files = .ok (s.checkpoint none).1 := by
  simp only [openServer, h]
  rfl

/-- The coordinator a directory opens to: its plane configured, recovered and checkpointed. -/
theorem openServer_ok (h : openServer config files = .ok s') :
    ∃ loaded, files.load config.maximumRecords = .ok loaded
      ∧ s' = (Server.checkpoint
        { plane := (loaded.configure config).recover, config := config, files := files }
        none).1 := by
  simp only [openServer, bind_eq_ok, pure_eq_ok] at h
  obtain ⟨s, hinit, rfl⟩ := h
  obtain ⟨-, loaded, hload, -, rfl⟩ := initializeServer_iff.mp hinit
  exact ⟨loaded, hload, rfl⟩

end Server

namespace ControlPlane

theorem recover_policies (p : ControlPlane) :
    p.recover.compatibilityRecords = p.compatibilityRecords
      ∧ p.recover.placementPolicies = p.placementPolicies
      ∧ p.recover.replicationPolicies = p.replicationPolicies := by
  have hloop := recoverOperations_frame
    (fun p => (p.compatibilityRecords, p.placementPolicies, p.replicationPolicies))
    (fun p o => by unfold recoverOperation; split <;> rfl) p.withdrawEvidence p.operationList
  simp only [Prod.mk.injEq] at hloop
  rw [recover_eq]
  exact hloop

theorem Keyed.configure (h : p.Keyed) (config : FabricConfig) : (p.configure config).Keyed :=
  ⟨h.authorizations, h.compatibilityRecords, h.placementPolicies, h.replicationPolicies⟩

theorem Keyed.recover (h : p.Keyed) : p.recover.Keyed := by
  obtain ⟨hcompatibility, hplacement, hreplication⟩ := p.recover_policies
  exact ⟨p.recover_authorizations ▸ h.authorizations, hcompatibility ▸ h.compatibilityRecords,
    hplacement ▸ h.placementPolicies, hreplication ▸ h.replicationPolicies⟩

theorem maps_recover_of_empty (h : p.maps = ({} : ControlPlane).maps) :
    p.recover.maps = ({} : ControlPlane).maps := by
  have hoperations : p.operations = ∅ := (congrArg ControlPlane.operations h :)
  have hclusters : p.clusters = ∅ := (congrArg ControlPlane.clusters h :)
  have hreplicas : p.replicas = ∅ := (congrArg ControlPlane.replicas h :)
  have hsets : p.replicaSets = ∅ := (congrArg ControlPlane.replicaSets h :)
  have hlist : p.operationList = [] := by
    rw [operationList, hoperations]
    rfl
  have hsettled : p.settled = p.withdrawEvidence := by
    rw [settled, hlist]
    rfl
  have hmap {κ α : Type} [Ord κ] [Std.TransOrd κ] (f : κ → α → α) :
      (∅ : Std.ExtTreeMap κ α).map f = ∅ := Std.ExtTreeMap.map_eq_empty_iff.mpr rfl
  rw [← h, recover_eq, hsettled]
  simp only [maps, recomputeDerivedCounters, recoverReplicaSets, withdrawEvidence, hclusters,
    hreplicas, hsets, hmap]

end ControlPlane

namespace Server

variable {s s' : Server} {m : Mutation} {record : JournalRecord}

theorem Kept.of_open (coherent : Coherent p) (keyed : p.Keyed)
    (loads : ∀ q, files.load config.maximumRecords = .ok q →
      q.records = p.records) (opened : openServer config files = .ok s')
    (bounded : s'.plane.readable = true) : s'.Kept := by
  obtain ⟨loaded, hload, rfl⟩ := openServer_ok opened
  have hrecords := loads loaded hload
  have hcoherent : Coherent (loaded.configure config) :=
    (coherent.of_records hrecords).configure config
  have hkeyed : (loaded.configure config).Keyed := (keyed.of_records hrecords).configure config
  rw [ControlPlane.readable_eq_of_maps
    (ControlPlane.maps_eq_of_records (checkpoint_records _ none))] at bounded
  exact of_checkpoint hcoherent.recover hkeyed.recover bounded

theorem Opened.kept (h : s.Opened) : s.Kept := by
  obtain ⟨config, hopen⟩ := h
  have hcount : ({} : ControlPlane).recordCount ≤ config.maximumRecords := Nat.zero_le _
  have hload : ({} : Files).load config.maximumRecords = .ok ({} : ControlPlane).finished := by
    rw [← ControlPlane.finishLoad_of_coherent coherent_empty hcount]
    rfl
  refine Kept.of_open coherent_empty ControlPlane.keyed_empty (fun q hq => ?_) hopen ?_
  · obtain rfl := Except.ok.inj (hload.symm.trans hq)
    exact ControlPlane.records_finished _
  · obtain ⟨loaded, hloaded, rfl⟩ := openServer_ok hopen
    obtain rfl := Except.ok.inj (hload.symm.trans hloaded)
    have hmaps : (({} : ControlPlane).finished.configure config).recover.maps
        = ({} : ControlPlane).maps := ControlPlane.maps_recover_of_empty rfl
    rw [ControlPlane.readable_eq_of_maps
      (ControlPlane.maps_eq_of_records (checkpoint_records _ none)),
      ControlPlane.readable_eq_of_maps hmaps]
    decide +kernel

/-! ## Steps -/

/-- The bounds of what is read again, asked of what an event writes. -/
def Bounded (s : Server) : ServerEvent → Prop
  | .mutation m _ => ∀ record ∈ s.pending m, s.admits record = true
  | .persist _ | .shutdown _ => True
  | .reopen config => (s.exec (.reopen config)).withinBounds = true

instance Bounded.decidable (s : Server) (e : ServerEvent) : Decidable (s.Bounded e) :=
  match e with
  | .mutation m _ => inferInstanceAs (Decidable (∀ record ∈ s.pending m, s.admits record = true))
  | .persist _ | .shutdown _ => inferInstanceAs (Decidable True)
  | .reopen config => inferInstanceAs (Decidable ((s.exec (.reopen config)).withinBounds = true))

/-- No append leaves a part of its bytes: it succeeds, or it fails without a trace and commits
must be durable. -/
def CleanAppends (s : Server) : ServerEvent → Prop
  | .mutation _ faults => ∀ fault ∈ faults.append,
      fault.1 = 0 ∧ s.config.requireDurableCommits = true
  | .persist _ | .shutdown _ | .reopen _ => True

/-- Whatever goes wrong with its checkpoints, a coordinator whose appends are clean keeps its
files in step. -/
theorem Kept.step (h : s.Kept) {e : ServerEvent} (hstep : Step s e s') (bounded : s.Bounded e)
    (clean : s.CleanAppends e) : s'.Kept := by
  cases hstep with
  | mutation m faults =>
    cases hpending : s.pending m with
    | none =>
      obtain ⟨tick, hafter⟩ := after_of_pending_none hpending faults
      rw [hafter]
      exact h.congr rfl (ControlPlane.records_observeTick _ tick)
    | some record =>
      cases hfault : faults.append with
      | none =>
        rw [after_of_pending hpending hfault]
        exact (h.commit hpending (bounded record hpending)).checkpointWhenDue _
      | some fault =>
        obtain ⟨written, e⟩ := fault
        obtain ⟨rfl, hdurable⟩ := clean _ hfault
        rw [after_of_failed_append hpending hfault hdurable, appendUntil_zero h.isSome_journal]
        exact h
  | persist fault => exact h.checkpoint fault
  | shutdown fault =>
    unfold Server.shutdown
    split
    · exact h
    · have hclosing : { s with shuttingDown := true }.Kept := h.congr rfl rfl
      exact hclosing.checkpoint fault
  | reopen opened =>
    have hafter : s.exec (.reopen _) = s' := (Step.exec_eq (.reopen opened)).symm
    rw [Bounded, hafter] at bounded
    exact of_open h.coherent h.keyed (fun q hq => h.load_records hq) opened
      (readable_of_withinBounds bounded)

/-- Every coordinator a run within the bounds reaches keeps its files in step. -/
theorem Kept.of_reachable {ok : Server → ServerEvent → Prop}
    (sound : ∀ s e, ok s e → s.Bounded e ∧ s.CleanAppends e)
    (h : Reachable Opened (Restrict Step ok) s) : s.Kept := by
  refine h.invariant (fun s hs => Opened.kept hs) ?_
  rintro s e s' ⟨hstep, hok⟩ hkept
  exact hkept.step hstep (sound s e hok).1 (sound s e hok).2

end Server

end StateFabric
