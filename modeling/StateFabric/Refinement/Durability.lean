import StateFabric.Refinement.Recovery

/-!
# What the directory holds

`ControlPlane.records` is the part of a plane that snapshots and journals preserve: the record
maps, the counters, the coordinator identity and epoch.  A batch of effects acts on it
(`records_applyAll_congr`), and acting twice changes nothing more (`records_applyAll_twice`), so
a journal may be replayed over a snapshot that already contains it.

`Durable` says that loading the directory of a runtime gives back its records; every request
keeps it.
-/

namespace StateFabric

open OrderedMap Protocol

namespace ControlPlane

variable {p q : ControlPlane} {es : List Effect} {maximumRecords : Nat}

/-- The part of a plane that snapshots and journals preserve. -/
def records (p : ControlPlane) : ControlPlane :=
  { coordinatorId := p.coordinatorId
    coordinatorEpoch := p.coordinatorEpoch
    replayGeneration := p.replayGeneration
    counters := p.counters
    states := p.states
    clusters := p.clusters
    replicas := p.replicas
    replicaSets := p.replicaSets
    operations := p.operations
    authorizations := p.authorizations
    ownership := p.ownership
    compatibilityRecords := p.compatibilityRecords
    placementPolicies := p.placementPolicies
    replicationPolicies := p.replicationPolicies }

variable {p q : ControlPlane}

section

variable (h : p.records = q.records)
include h

theorem abs_eq_of_records : p.abs = q.abs := by
  have habs : ∀ r : ControlPlane, r.records.abs = r.abs := fun _ => rfl
  rw [← habs p, h, habs]

theorem states_eq_of_records : p.states = q.states :=
  (congrArg ControlPlane.states h :)

theorem clusters_eq_of_records : p.clusters = q.clusters :=
  (congrArg ControlPlane.clusters h :)

theorem replicas_eq_of_records : p.replicas = q.replicas :=
  (congrArg ControlPlane.replicas h :)

theorem replicaSets_eq_of_records : p.replicaSets = q.replicaSets :=
  (congrArg ControlPlane.replicaSets h :)

theorem operations_eq_of_records : p.operations = q.operations :=
  (congrArg ControlPlane.operations h :)

theorem authorizations_eq_of_records : p.authorizations = q.authorizations :=
  (congrArg ControlPlane.authorizations h :)

theorem ownership_eq_of_records : p.ownership = q.ownership :=
  (congrArg ControlPlane.ownership h :)

theorem coordinatorEpoch_eq_of_records : p.coordinatorEpoch = q.coordinatorEpoch :=
  (congrArg ControlPlane.coordinatorEpoch h :)

theorem highestIdentity_eq_of_records : p.highestIdentity = q.highestIdentity := by
  have hrecords : ∀ r : ControlPlane, r.records.highestIdentity = r.highestIdentity := fun r => by
    simp only [highestIdentity, identityValues, records]
  rw [← hrecords p, h, hrecords]

end

theorem records_apply (p : ControlPlane) (e : Effect) :
    (p.apply e).records = (p.records.apply e).records := by
  cases e with
  | setEpoch epoch =>
    by_cases h : p.coordinatorEpoch < epoch
    · simp [apply, records, h]
    · simp [apply, records, h]
  | _ => rfl

theorem records_applyAll_congr (h : p.records = q.records) (es : List Effect) :
    (p.applyAll es).records = (q.applyAll es).records := by
  induction es generalizing p q with
  | nil => exact h
  | cons e rest ih =>
    refine ih (p := p.apply e) (q := q.apply e) ?_
    rw [records_apply p, h, ← records_apply]

/-! ## Replaying a batch that is already contained -/

/-- The put of the counters, under the one key there is. -/
def countersPut : Effect → Option (Unit × FabricCounters)
  | .putCounters counters => some ((), counters)
  | _ => none

theorem applyAll_counters (p : ControlPlane) (es : List Effect) :
    (p.applyAll es).counters = (lastPut (es.filterMap countersPut) ()).getD p.counters := by
  induction es generalizing p with
  | nil => rfl
  | cons e rest ih =>
    have hstep : (p.apply e).counters = ((countersPut e).map Prod.snd).getD p.counters := by
      cases e <;> first | rfl | (simp only [apply]; split <;> rfl)
    calc (p.applyAll (e :: rest)).counters
        = (lastPut (rest.filterMap countersPut) ()).getD (p.apply e).counters := ih (p.apply e)
      _ = (lastPut ((e :: rest).filterMap countersPut) ()).getD p.counters := by
          rw [hstep]
          cases he : countersPut e with
          | none => simp [he]
          | some => cases h : lastPut (rest.filterMap countersPut) () <;> simp [he, h]

theorem applyAll_coordinatorEpoch_of_le
    (h : ∀ epoch, .setEpoch epoch ∈ es → ¬ p.coordinatorEpoch < epoch) :
    (p.applyAll es).coordinatorEpoch = p.coordinatorEpoch := by
  induction es generalizing p with
  | nil => rfl
  | cons e rest ih =>
    have hstep : (p.apply e).coordinatorEpoch = p.coordinatorEpoch := by
      cases e with
      | setEpoch epoch => simp [apply, h epoch List.mem_cons_self]
      | _ => rfl
    refine (ih (p := p.apply e) fun epoch he => ?_).trans hstep
    rw [hstep]
    exact h epoch (List.mem_cons_of_mem _ he)

theorem apply_coordinatorEpoch_ge (p : ControlPlane) (e : Effect) :
    p.coordinatorEpoch.value ≤ (p.apply e).coordinatorEpoch.value := by
  cases e with
  | setEpoch epoch =>
    by_cases h : p.coordinatorEpoch < epoch
    · simpa [apply, h] using UInt64.le_of_lt h
    · simp [apply, h]
  | _ => exact UInt64.le_refl _

theorem applyAll_coordinatorEpoch_ge (p : ControlPlane) (es : List Effect) :
    p.coordinatorEpoch.value ≤ (p.applyAll es).coordinatorEpoch.value := by
  induction es generalizing p with
  | nil => exact UInt64.le_refl _
  | cons e rest ih => exact UInt64.le_trans (apply_coordinatorEpoch_ge p e) (ih (p.apply e))

theorem not_applyAll_coordinatorEpoch_lt {epoch : CoordinatorEpoch} (mem : .setEpoch epoch ∈ es) :
    ¬ (p.applyAll es).coordinatorEpoch < epoch := by
  induction es generalizing p with
  | nil => exact absurd mem (by simp)
  | cons e rest ih =>
    rcases List.mem_cons.mp mem with rfl | hrest
    · have hset : epoch.value ≤ (p.apply (.setEpoch epoch)).coordinatorEpoch.value := by
        by_cases h : p.coordinatorEpoch < epoch
        · simp [apply, h]
        · simpa [apply, h] using UInt64.not_lt.mp h
      have hge := applyAll_coordinatorEpoch_ge (p.apply (.setEpoch epoch)) rest
      exact UInt64.not_lt.mpr (UInt64.le_trans hset hge)
    · exact ih (p := p.apply e) hrest

@[simp] theorem applyAll_coordinatorId (p : ControlPlane) (es : List Effect) :
    (p.applyAll es).coordinatorId = p.coordinatorId := by
  induction es generalizing p with
  | nil => rfl
  | cons e rest ih =>
    refine (ih (p.apply e)).trans ?_
    cases e <;> first | rfl | (simp only [apply]; split <;> rfl)

@[simp] theorem applyAll_replayGeneration (p : ControlPlane) (es : List Effect) :
    (p.applyAll es).replayGeneration = p.replayGeneration := by
  induction es generalizing p with
  | nil => rfl
  | cons e rest ih =>
    refine (ih (p.apply e)).trans ?_
    cases e <;> first | rfl | (simp only [apply]; split <;> rfl)

/-- Replaying a batch over a plane that already contains it leaves its records alone. -/
theorem records_applyAll_twice (p : ControlPlane) (es : List Effect) :
    ((p.applyAll es).applyAll es).records = (p.applyAll es).records := by
  have hepoch : ((p.applyAll es).applyAll es).coordinatorEpoch =
      (p.applyAll es).coordinatorEpoch :=
    applyAll_coordinatorEpoch_of_le fun _ mem => not_applyAll_coordinatorEpoch_lt mem
  have hcounters : ((p.applyAll es).applyAll es).counters = (p.applyAll es).counters := by
    rw [applyAll_counters (p.applyAll es), applyAll_counters p]
    cases lastPut (es.filterMap countersPut) () <;> rfl
  simp only [records, hepoch, hcounters, applyAll_coordinatorId, applyAll_replayGeneration,
    applyAll_states, applyAll_clusters, applyAll_replicas, applyAll_replicaSets,
    applyAll_operations, applyAll_authorizations, applyAll_ownership,
    applyAll_compatibilityRecords, applyAll_placementPolicies, applyAll_replicationPolicies,
    insertAll_insertAll]

/-! ## Replaying a journal -/

theorem applyAll_append (p : ControlPlane) (es es' : List Effect) :
    p.applyAll (es ++ es') = (p.applyAll es).applyAll es' := List.foldl_append

theorem records_observeTick (p : ControlPlane) (tick : Tick) :
    (p.observeTick tick).records = p.records := by
  unfold observeTick
  split <;> rfl

theorem records_replayRecord (p : ControlPlane) (record : JournalRecord) :
    (p.replayRecord record).records = (p.applyAll record.effects).records := by
  have h : (p.replayRecord record).records =
      ((p.applyAll record.effects).observeTick record.tick).records := by
    simp only [replayRecord]
    split <;> rfl
  rw [h, records_observeTick]

theorem records_replayRecords (p : ControlPlane) (journal : List JournalRecord) :
    (journal.foldl replayRecord p).records =
      (p.applyAll (journal.flatMap (·.effects))).records := by
  induction journal generalizing p with
  | nil => rfl
  | cons record rest ih =>
    calc (rest.foldl replayRecord (p.replayRecord record)).records
        = ((p.replayRecord record).applyAll (rest.flatMap (·.effects))).records := ih _
      _ = ((p.applyAll record.effects).applyAll (rest.flatMap (·.effects))).records :=
          records_applyAll_congr (records_replayRecord p record) _
      _ = _ := by rw [List.flatMap_cons, applyAll_append]

theorem records_replay (p : ControlPlane) (scan : JournalScan) :
    (p.replay scan).records = (p.applyAll (scan.records.flatMap (·.effects))).records := by
  have h : (p.replay scan).records = (scan.records.foldl replayRecord
      { p with
        journalRecords := UInt64.ofNat scan.records.length
        journalTailTruncated := if scan.trailingPartialBytes = 0 then 0 else 1 }).records := by
    simp only [replay]
    split <;> rfl
  rw [h, records_replayRecords]
  apply records_applyAll_congr
  rfl

theorem finishLoad_ok (h : p.finishLoad maximumRecords = .ok q) :
    q = { p with
      persistenceEnabled := true, recovered := true, nextId := p.highestIdentity + 1 } := by
  simp only [finishLoad, rejectIf_bind_eq_ok] at h
  obtain ⟨-, h⟩ := h
  split at h
  · cases h
  · exact (Except.ok.inj h).symm

end ControlPlane

theorem ControlPlane.Filed.of_records {p q : ControlPlane} (h : p.Filed)
    (eq : q.records = p.records) : q.Filed := by
  have hrecords : p.records.Filed := { h with }
  rw [← eq] at hrecords
  exact { hrecords with }

/-- Coherence is a matter of the records. -/
theorem Coherent.of_records (h : Coherent p) (eq : q.records = p.records) : Coherent q := by
  have hp : Coherent p.records := h.of_maps rfl rfl rfl rfl rfl rfl
  rw [← eq] at hp
  exact hp.of_maps rfl rfl rfl rfl rfl rfl

theorem Coherent.configure (h : Coherent p) (config : FabricConfig) :
    Coherent (p.configure config) := h.of_maps rfl rfl rfl rfl rfl rfl

/-! ## What a directory holds -/

namespace Directory

/-- The effects the journal of a directory holds. -/
def effects (d : Directory) : List Effect := (d.journal.getD []).flatMap (·.effects)

/-- The records a load of the directory finds. -/
def contents (d : Directory) : ControlPlane :=
  ((d.snapshot.getD {}).applyAll d.effects).records

theorem load_eq (d : Directory) (maximumRecords : Nat) :
    ∃ q : ControlPlane, q.records = d.contents
      ∧ d.load maximumRecords = q.finishLoad maximumRecords := by
  cases hj : d.journal with
  | none =>
    refine ⟨d.snapshot.getD {}, ?_, by simp only [load, loadPlane, hj, Option.map_none]⟩
    simp only [contents, effects, hj, Option.getD_none, List.flatMap_nil]
    rfl
  | some journal =>
    refine ⟨(d.snapshot.getD {}).replay { records := journal }, ?_,
      by simp only [load, loadPlane, hj, Option.map_some]⟩
    simp only [contents, effects, hj, Option.getD_some]
    exact ControlPlane.records_replay _ { records := journal }

theorem load_ok {d : Directory} (h : d.load maximumRecords = .ok p) :
    p.records = d.contents ∧ p.recovered = true ∧ p.persistenceEnabled = true
      ∧ p.nextId = p.highestIdentity + 1 := by
  obtain ⟨q, hq, hload⟩ := d.load_eq maximumRecords
  obtain rfl := ControlPlane.finishLoad_ok (hload.symm.trans h)
  exact ⟨hq, rfl, rfl, congrArg (· + 1) (ControlPlane.highestIdentity_eq_of_records rfl)⟩

/-- A plane that is loaded passes the structural checks. -/
theorem load_valid {d : Directory} (h : d.load maximumRecords = .ok p) : p.validate = none := by
  obtain ⟨q, -, hload⟩ := d.load_eq maximumRecords
  simp only [hload, ControlPlane.finishLoad, rejectIf_bind_eq_ok] at h
  obtain ⟨-, h⟩ := h
  split at h
  · cases h
  · rename_i hvalid
    rw [← Except.ok.inj h]
    exact hvalid

theorem contents_append (d : Directory) (record : JournalRecord) :
    (d.append record).contents = (d.contents.applyAll record.effects).records := by
  have heffects : (d.append record).effects = d.effects ++ record.effects := by
    simp [effects, append]
  rw [contents, heffects, ControlPlane.applyAll_append]
  apply ControlPlane.records_applyAll_congr
  rfl

theorem contents_checkpoint (p : ControlPlane) : (checkpoint p).contents = p.records := rfl

end Directory

/-! ## Durable runtimes -/

/-- Loading the directory of a runtime gives back its records. -/
def Durable (r : Runtime) : Prop :=
  ∀ disk, r.store = some disk → disk.contents = r.plane.records

namespace Durable

variable {r : Runtime}

theorem checkpoint (r : Runtime) : Durable r.checkpoint := by
  rintro disk ⟨rfl⟩
  exact Directory.contents_checkpoint r.plane

theorem settled (h : Durable r) : Durable r.settled := by
  unfold Runtime.settled
  split
  · exact checkpoint r
  · exact h

/-- A record that is appended and applied is in the directory and in the plane. -/
theorem applied (h : Durable r) (record : JournalRecord) :
    Durable ((r.appended record).applied record) := by
  intro disk' hdisk'
  obtain ⟨disk, hdisk, rfl⟩ := Option.map_eq_some_iff.mp hdisk'
  calc (disk.append record).contents
      = (disk.contents.applyAll record.effects).records := Directory.contents_append disk _
    _ = (r.plane.applyAll record.effects).records := by
        rw [h disk hdisk]
        apply ControlPlane.records_applyAll_congr
        rfl
    _ = ((r.plane.applyAll record.effects).observeTick record.tick).records :=
        (ControlPlane.records_observeTick _ _).symm

theorem commit (h : Durable r) (es : List Effect) (tick : Tick)
    (epoch : CoordinatorEpoch) : Durable (r.commit es tick epoch) := by
  cases hempty : es.isEmpty with
  | true =>
    rw [List.isEmpty_iff.mp hempty, Runtime.commit_nil]
    intro disk hdisk
    rw [h disk hdisk]
    exact (ControlPlane.records_observeTick _ _).symm
  | false =>
    rw [Runtime.commit_of_nonempty r hempty]
    exact (h.applied _).settled

theorem mutate {ρ : Type} (h : Durable r) (body : MutationInputs → Result (Outcome ρ)) :
    Durable (r.mutate body).1 := by
  unfold Runtime.mutate
  split
  · exact h
  · split
    · exact h
    · exact h.commit _ _ _

theorem persist (h : Durable r) : Durable r.persist.1 := by
  unfold Runtime.persist
  split
  · exact h
  · exact checkpoint r

theorem shutdown (h : Durable r) : Durable r.shutdown.1 := by
  unfold Runtime.shutdown
  split
  · exact h
  · simp only
    split
    · exact checkpoint _
    · exact h

end Durable

/-! ## Opening -/

/-- The runtime a directory opens to: its plane configured, recovered and checkpointed. -/
theorem openFabric_ok {config : FabricConfig} {disk : Directory} {r : Runtime}
    (persistent : config.persistenceDirectory ≠ []) (h : openFabric config disk = .ok r) :
    ∃ loaded, disk.load config.maximumRecords = .ok loaded
      ∧ r = Runtime.checkpoint
        { plane := (loaded.configure config).recover
          config := config
          store := some disk
          recoveredFromDurable := true } := by
  have hdirectory : config.persistenceDirectory.isEmpty = false := by simpa using persistent
  unfold openFabric at h
  simp only [↓rejectIf_bind_eq_ok, hdirectory, Bool.false_eq_true, if_false,
    bind_eq_ok] at h
  obtain ⟨-, loaded, hload, h⟩ := h
  obtain ⟨-, hrecovered, henabled, -⟩ := Directory.load_ok hload
  have hsame : { loaded with persistenceEnabled := true } = loaded := by rw [← henabled]
  rw [hsame] at h
  simp only [initializeFabric, rejectIf_bind_eq_ok, Option.isSome_some, if_true] at h
  refine ⟨loaded, hload, ?_⟩
  rw [← Except.ok.inj h.2]
  simp only [hrecovered, if_true]

end StateFabric
