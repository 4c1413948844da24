import StateFabric.Guarantees.Scenario
import StateFabric.Refinement.Bounds

/-!
# Guarantees of recovery across restarts

Recovery is run over what an earlier recovery wrote, either because the directory is opened twice
or because the first recovery did not get past its checkpoint.

* `recovery_idempotent_iff`: opening a directory again changes nothing but what dates the records,
  exactly when the snapshot the first recovery wrote can be read.  Recovery rebuilds the members of
  the replica sets, and the decoder takes no more than 4096 of a kind.
* `interrupted_recovery_converges_iff`: a crash between the two replacements of the recovery
  checkpoint is harmless exactly when, besides, the journal that is replayed over the new snapshot
  takes back no copy without a transfer that abandons it.
-/

namespace StateFabric

open OrderedMap

variable {n : Nat} {p : ControlPlane} {d : Directory}

/-! ## Opening a directory twice -/

/-- The records of two planes are the same up to what dates them: the epoch, the tick and the
notes of an operation, and the epoch of a replica set. -/
structure ControlPlane.SameUndated (p q : ControlPlane) : Prop where
  states : q.states = p.states
  clusters : q.clusters = p.clusters
  replicas : q.replicas = p.replicas
  ownership : q.ownership = p.ownership
  authorizations : q.authorizations = p.authorizations
  operations (o : OperationId) :
    q.operations[o]?.map OperationRecord.undated = p.operations[o]?.map OperationRecord.undated
  replicaSets (K : StateKey) :
    q.replicaSets[K]?.map ReplicaSetRecord.undated
      = p.replicaSets[K]?.map ReplicaSetRecord.undated

theorem ControlPlane.sameUndated_maps_iff {q : ControlPlane} :
    p.maps.SameUndated q.maps ↔ p.SameUndated q :=
  ⟨fun h => ⟨h.states, h.clusters, h.replicas, h.ownership, h.authorizations, h.operations,
      h.replicaSets⟩,
    fun h => ⟨h.states, h.clusters, h.replicas, h.ownership, h.authorizations, h.operations,
      h.replicaSets⟩⟩

namespace Replays

open ControlPlane

variable {p p' : ControlPlane}

/-- With no journal to replay, recovering again changes nothing but what dates the records. -/
theorem sameUndated (h : Replays p [] p') (coherent : Coherent p) :
    p.recover.SameUndated p'.recover := by
  have hreplicas : p'.recover.replicas = p.recover.replicas := by
    apply Std.ExtTreeMap.ext_getElem?
    intro k
    rw [h.getElem?_recover_replicas coherent, ControlPlane.getElem?_recover_replicas]
    rfl
  exact
    { states := by rw [recover_states, recover_states, h.states]
      clusters := h.recover_clusters
      replicas := hreplicas
      ownership := by rw [recover_ownership, recover_ownership, h.ownership]
      authorizations := by rw [recover_authorizations, recover_authorizations, h.authorizations]
      operations := h.recover_operations coherent
      replicaSets := h.recover_replicaSets hreplicas }

end Replays

theorem readWhenPresent_journalHeader :
    readWhenPresent (some journalHeader) scanJournal = .ok (some {}) := by
  have hscan : scanJournal journalHeader = .ok {} := by
    have h := scanJournal_records [] tornTail_nil
    simpa using h
  have hsmall : ¬ maxFileBytes < journalHeader.length := by decide +kernel
  simp [readWhenPresent, readFile, rejectIf, hsmall, hscan, bind, Except.bind, pure, Except.pure]

theorem Server.checkpoint_maps (s : Server) : (s.checkpoint none).1.plane.maps = s.plane.maps :=
  ControlPlane.maps_eq_of_records (s.checkpoint_records none)

/-- Opening a directory a second time gives the records of the first time, up to what dates them,
exactly when the snapshot that was written in between can be read. -/
theorem recovery_idempotent_iff {config : FabricConfig} {files : Files} {s₁ : Server}
    (opened : openServer config files = .ok s₁) :
    (∃ s₂, openServer config s₁.files = .ok s₂ ∧ s₁.plane.SameUndated s₂.plane)
      ↔ s₁.plane.readable = true := by
  simp only [openServer, bind_eq_ok, pure_eq_ok] at opened
  obtain ⟨s, hinit, rfl⟩ := opened
  rw [ControlPlane.readable_eq_of_maps s.checkpoint_maps]
  constructor
  · rintro ⟨s₂, hopen, -⟩
    simp only [openServer, bind_eq_ok] at hopen
    obtain ⟨s', hagain, -⟩ := hopen
    exact Server.readable_of_initialize_again hinit hagain
  · intro hread
    obtain ⟨-, loaded, hload, -, rfl⟩ := Server.initializeServer_iff.mp hinit
    have hcoherent : Coherent (loaded.configure config) :=
      (Files.load_coherent hload).1.configure config
    obtain ⟨p', s', hagain, hreplays, hplane⟩ :=
      Server.initialize_again hinit hload hread readWhenPresent_journalHeader rfl
    refine ⟨_, Server.openServer_of_initialize hagain, ?_⟩
    rw [← ControlPlane.sameUndated_maps_iff, Server.checkpoint_maps, Server.checkpoint_maps,
      ControlPlane.sameUndated_maps_iff, hplane]
    exact hreplays.sameUndated hcoherent

/-! ## More copies than a replica set is read back with -/

theorem length_encodeMap_of_forall {κ α : Type} [Ord κ] [Std.TransOrd κ] [Std.LawfulEqOrd κ]
    [Wire α] {m : Std.ExtTreeMap κ α} {length : Nat}
    (h : ∀ (k : κ) (r : α), m[k]? = some r → (Wire.encode r).length = length) :
    (encodeMap m).length = 4 + m.size * length := by
  have hentries : m.toList.map (fun entry => (Wire.encode entry.2).length)
      = m.toList.map fun _ => length := by
    refine List.map_congr_left ?_
    rintro ⟨k, r⟩ hmem
    exact h k r (mem_toList_iff.mp hmem)
  have hcount : (ByteWriter.u32 (UInt32.ofNat m.size)).length = 4 := rfl
  simp only [encodeMap, List.flatten_cons, List.flatten_nil, List.append_nil, List.length_append,
    List.length_flatMap, hcount, hentries, List.map_const', List.sum_replicate_nat,
    Std.ExtTreeMap.length_toList]

namespace ControlPlane

/-- A plane with a replica set of more members than its decoder takes cannot be read. -/
theorem not_readable_of_members {K : StateKey} {set : ReplicaSetRecord}
    (h : p.replicaSets[K]? = some set) (crowd : maxDecodedMembers < set.degradedMembers.length) :
    p.readable = false := by
  rw [Bool.eq_false_iff]
  intro hread
  simp only [readable, withinBounds, mapBounded, Bool.and_eq_true, and_assoc] at hread
  obtain ⟨-, -, -, -, -, -, -, hsets, -⟩ := hread
  have hfits : Wire.fits set = true := List.all_eq_true.mp hsets (K, set) (mem_toList_iff.mpr h)
  simp only [ReplicaSetRecord.fits_eq, listFits, Bool.and_eq_true, decide_eq_true_eq] at hfits
  omega

/-- When every copy is a live copy of the state of a replica set that does not count, the set is
rebuilt with all of them as degraded members. -/
theorem length_degradedMembers_rebuildReplicaSet {set : ReplicaSetRecord}
    (h : ∀ (k : ReplicaId) (r : ReplicaRecord), p.replicas[k]? = some r →
      r.key = set.key ∧ r.isTerminal = false ∧ replicaCountsTowardReplicationFactor r = false) :
    (p.rebuildReplicaSet set).degradedMembers.length = p.replicas.size := by
  have hall : ∀ r ∈ p.replicaList,
      r.key = set.key ∧ r.isTerminal = false ∧ replicaCountsTowardReplicationFactor r = false := by
    intro r hr
    obtain ⟨⟨k, r'⟩, hmem, rfl⟩ := List.mem_map.mp hr
    exact h k r' (mem_toList_iff.mp hmem)
  have hstate : p.replicasOfState set.key = p.replicaList :=
    List.filter_eq_self.mpr fun r hr => by simp [(hall r hr).1]
  have hlive : p.replicaList.filter (!·.isTerminal) = p.replicaList :=
    List.filter_eq_self.mpr fun r hr => by simp [(hall r hr).2.1]
  have hdegraded : p.replicaList.filter (!replicaCountsTowardReplicationFactor ·)
      = p.replicaList :=
    List.filter_eq_self.mpr fun r hr => by simp [(hall r hr).2.2]
  calc (p.rebuildReplicaSet set).degradedMembers.length
      = p.replicaList.length := by
        rw [rebuildReplicaSet, recomputeReplicaSet_degradedMembers, hstate, hlive, hdegraded,
          List.length_map]
    _ = p.replicas.size := by
        rw [replicaList, List.length_map, Std.ExtTreeMap.length_toList]

/-- Without operations, recovery at most withdraws the evidence of the copies. -/
theorem recover_replicas_of_idle (h : p.operations = ∅) :
    p.recover.replicas = p.replicas.map fun _ r => recoveredReplica r := by
  apply Std.ExtTreeMap.ext_getElem?
  intro k
  have hidle : p.operationList = [] := by
    simp [operationList, h]
  rw [getElem?_recover_replicas, Std.ExtTreeMap.getElem?_map, abandonsCopy, suspendsCopy, hidle]
  simp [settledCopy]

theorem length_encode_replicas (p : ControlPlane)
    (m : Std.ExtTreeMap ReplicaId ReplicaRecord) :
    ({ p with replicas := m } : ControlPlane).encode.length + (encodeMap p.replicas).length
      = p.encode.length + (encodeMap m).length := by
  simp only [encode, List.length_flatten, List.map_cons, List.sum_cons, List.map_nil,
    List.sum_nil]
  omega

end ControlPlane

namespace Scenario

/-- A copy of generation 1 of state 7 in cluster 1 that was planned. -/
def plannedCopy (i : Nat) : ReplicaRecord :=
  { replicaId := ⟨UInt64.ofNat (i + 1)⟩
    stateId := ⟨7⟩
    stateGeneration := ⟨1⟩
    location := { clusterId := ⟨1⟩ } }

/-- A plane with one cluster, one generation and its replica set, and no copies. -/
def sparse : ControlPlane :=
  ({ coordinatorId := ⟨1⟩ } : ControlPlane).applyAll
    [.putState { stateId := ⟨7⟩, generation := ⟨1⟩ }, .putCluster { clusterId := ⟨1⟩ },
      .putReplicaSet { stateId := ⟨7⟩, stateGeneration := ⟨1⟩ }]

/-- The same plane with a number of copies. -/
def crowded (n : Nat) : ControlPlane :=
  { sparse with
    replicas := insertAll ∅ (((List.range n).map plannedCopy).map fun r => (r.replicaId, r)) }

theorem exists_plannedCopy {k : ReplicaId} {r : ReplicaRecord}
    (h : (crowded n).replicas[k]? = some r) : ∃ i, r = plannedCopy i ∧ r.replicaId = k := by
  rcases insertAll_cases (m := ∅) (k := k)
    (l := ((List.range n).map plannedCopy).map fun r => (r.replicaId, r)) id with
    hempty | ⟨v, hmem, hv⟩
  · rw [Std.ExtTreeMap.getElem?_empty] at hempty
    cases hempty.symm.trans h
  · obtain rfl := some_unique hv h
    obtain ⟨copy, hcopy, heq⟩ := List.mem_map.mp hmem
    obtain ⟨i, -, rfl⟩ := List.mem_map.mp hcopy
    obtain ⟨rfl, rfl⟩ := Prod.mk.inj heq
    exact ⟨i, rfl, rfl⟩

theorem size_crowded (h : n < UInt64.size) : (crowded n).replicas.size = n := by
  have hnodup : ((((List.range n).map plannedCopy).map fun r => (r.replicaId, r)).map
      Prod.fst).Nodup := by
    rw [List.map_map, List.map_map]
    refine List.Nodup.map_on ?_ List.nodup_range
    intro i hi j hj heq
    have hi' := List.mem_range.mp hi
    have hj' := List.mem_range.mp hj
    have hvalue : UInt64.ofNat (i + 1) = UInt64.ofNat (j + 1) := congrArg StrongId.value heq
    have hnat := congrArg UInt64.toNat hvalue
    rw [UInt64.toNat_ofNat_of_lt' (by omega), UInt64.toNat_ofNat_of_lt' (by omega)] at hnat
    omega
  exact (size_insertAll_of_nodup hnodup).trans (by simp)

theorem coherent_sparse : Coherent sparse := by
  have hempty : Coherent ({ coordinatorId := ⟨1⟩ } : ControlPlane) :=
    coherent_empty.of_maps rfl rfl rfl rfl rfl rfl
  refine hempty.applyAll ⟨?_, ?_, ?_, ?_⟩
  · intro r hr
    simp at hr
  · intro set hset
    obtain rfl : set = { stateId := ⟨7⟩, stateGeneration := ⟨1⟩ } := by simpa using hset
    exact ⟨by decide +kernel, fun m hm => by simp at hm⟩
  · intro r hr
    simp at hr
  · intro r hr
    simp at hr

theorem coherent_crowded (n : Nat) : Coherent (crowded n) where
  states h := coherent_sparse.states h
  clusters h := coherent_sparse.clusters h
  replicas h := by
    obtain ⟨i, rfl, hk⟩ := exists_plannedCopy h
    have hstate : sparse.states[(plannedCopy 0).key]?.isSome = true := by decide +kernel
    have hcluster : sparse.clusters[(⟨1⟩ : ClusterId)]?.isSome = true := by decide +kernel
    exact ⟨hk, hstate, hcluster, fun hvalid => absurd hvalid Bool.false_ne_true⟩
  replicaSets h := by
    obtain ⟨hkey, hground⟩ := coherent_sparse.replicaSets h
    have hempty : sparse.replicas = ∅ := rfl
    refine ⟨hkey, hground.state, fun m hm => ?_⟩
    have hsome := hground.members m hm
    simp [hempty] at hsome
  operations h := coherent_sparse.operations h
  ownership h := coherent_sparse.ownership h

theorem keyed_crowded (n : Nat) : (crowded n).Keyed :=
  have h := ControlPlane.keyed_empty
  ⟨h.authorizations, h.compatibilityRecords, h.placementPolicies, h.replicationPolicies⟩

theorem fits_plannedCopy (i : Nat) : Wire.fits (plannedCopy i) = true := rfl

theorem length_plannedCopy (i : Nat) :
    (Wire.encode (plannedCopy i)).length = (Wire.encode (plannedCopy 0)).length := by
  have hid {tag : IdTag} (i : StrongId tag) : (ByteCodec.ident.encode i).length = 8 := rfl
  rw [Wire.encode, Wire.encode, Wire.codec, instWireReplicaRecord]
  simp only [Layout.record, Layout.encode_field, Layout.encode_start, List.length_append, hid,
    plannedCopy]

theorem withinBounds_crowded (h : n ≤ maxDecodedReplicas) : (crowded n).withinBounds = true := by
  have hsparse : sparse.withinBounds = true := by decide +kernel
  have hroom : maxDecodedReplicas < UInt64.size := by decide
  have hsize : (crowded n).replicas.size = n := size_crowded (h.trans_lt hroom)
  have hreplicas : mapBounded maxDecodedReplicas (crowded n).replicas = true := by
    simp only [mapBounded, hsize, Bool.and_eq_true, decide_eq_true_eq, List.all_eq_true]
    refine ⟨h, ?_⟩
    rintro ⟨k, r⟩ hmem
    obtain ⟨i, rfl, -⟩ := exists_plannedCopy (mem_toList_iff.mp hmem)
    exact fits_plannedCopy i
  simp only [ControlPlane.withinBounds, Bool.and_eq_true] at hsparse ⊢
  obtain ⟨⟨⟨⟨⟨⟨⟨⟨⟨hstates, hclusters⟩, -⟩, hrest⟩, h₁⟩, h₂⟩, h₃⟩, h₄⟩, h₅⟩, h₆⟩ := hsparse
  exact ⟨⟨⟨⟨⟨⟨⟨⟨⟨hstates, hclusters⟩, hreplicas⟩, hrest⟩, h₁⟩, h₂⟩, h₃⟩, h₄⟩, h₅⟩, h₆⟩

theorem length_crowded (h : n < UInt64.size) :
    (crowded n).encode.length = sparse.encode.length + n * (Wire.encode (plannedCopy 0)).length := by
  have hreplicas : (encodeMap (crowded n).replicas).length
      = 4 + n * (Wire.encode (plannedCopy 0)).length := by
    have hcopies : ∀ (k : ReplicaId) (r : ReplicaRecord), (crowded n).replicas[k]? = some r →
        (Wire.encode r).length = (Wire.encode (plannedCopy 0)).length := by
      intro k r hr
      obtain ⟨i, rfl, -⟩ := exists_plannedCopy hr
      exact length_plannedCopy i
    rw [length_encodeMap_of_forall hcopies, size_crowded h]
  have hempty : (encodeMap sparse.replicas).length = 4 := rfl
  have hlength : (crowded n).encode.length + (encodeMap sparse.replicas).length
      = sparse.encode.length + (encodeMap (crowded n).replicas).length :=
    sparse.length_encode_replicas _
  rw [hreplicas, hempty] at hlength
  omega

theorem recordCount_crowded (h : n < UInt64.size) : (crowded n).recordCount = 3 + n := by
  have hsparse : sparse.recordCount = 3 := by decide +kernel
  have hempty : sparse.replicas.size = 0 := rfl
  simp only [ControlPlane.recordCount, size_crowded h, hempty] at hsparse ⊢
  simp only [crowded]
  omega

/-- A directory whose snapshot holds the plane. -/
def crowdedFiles (n : Nat) : Files :=
  { snapshot := some (encodeSnapshot (crowded n)), journal := some journalHeader }

theorem load_crowdedFiles (few : n ≤ 100000) :
    ∃ p, (crowdedFiles n).load config.maximumRecords = .ok p
      ∧ p.records = (crowded n).records := by
  have hroom : 100000 < UInt64.size := by decide
  have hreplicas : 100000 ≤ maxDecodedReplicas := by decide
  have hrecords : 3 + 100000 ≤ config.maximumRecords := by decide
  have hfits : (crowded n).Fits := ControlPlane.fits_of_withinBounds (coherent_crowded n)
    (keyed_crowded n) (withinBounds_crowded (few.trans hreplicas))
  have hlength : (crowded n).encode.length ≤ maxPayloadBytes := by
    have hsparse : sparse.encode.length = 1155 := by decide +kernel
    have hcopy : (Wire.encode (plannedCopy 0)).length = 462 := by decide +kernel
    have hmax : maxPayloadBytes = 536870912 := rfl
    rw [length_crowded (few.trans_lt hroom), hsparse, hcopy, hmax]
    omega
  refine Files.load_snapshot hfits hlength readWhenPresent_journalHeader (coherent_crowded n) ?_
  have hcount : (crowded n).recordCount ≤ config.maximumRecords := by
    rw [recordCount_crowded (few.trans_lt hroom)]
    omega
  exact hcount

/-- What is recovered from the directory has a replica set with all the copies, which is too many
when there are more than a decoder takes. -/
theorem not_readable_recover_crowded (many : maxDecodedMembers < n) (few : n < UInt64.size)
    (h : p.maps = (crowded n).maps) : p.recover.readable = false := by
  have hreplicas : p.replicas = (crowded n).replicas := (congrArg ControlPlane.replicas h :)
  have hsets : p.replicaSets = sparse.replicaSets := (congrArg ControlPlane.replicaSets h :)
  have hidle : p.operations = ∅ := (congrArg ControlPlane.operations h :)
  have hsettled : p.settled.replicas = p.replicas.map fun _ r => recoveredReplica r := by
    rw [← ControlPlane.recover_replicas_eq, ControlPlane.recover_replicas_of_idle hidle]
  have hset : sparse.replicaSets[(⟨⟨7⟩, ⟨1⟩⟩ : StateKey)]?
      = some { stateId := ⟨7⟩, stateGeneration := ⟨1⟩ } := by decide +kernel
  have hfound : p.recover.replicaSets[(⟨⟨7⟩, ⟨1⟩⟩ : StateKey)]?
      = some (p.settled.rebuildReplicaSet
          { stateId := ⟨7⟩, stateGeneration := ⟨1⟩, revalidationRequired := true,
            epoch := p.coordinatorEpoch.next }) := by
    rw [ControlPlane.getElem?_recover_replicaSets, hsets, hset, Option.map_some]
  refine ControlPlane.not_readable_of_members hfound ?_
  rw [ControlPlane.length_degradedMembers_rebuildReplicaSet, hsettled, Std.ExtTreeMap.size_map,
    hreplicas, size_crowded few]
  · exact many
  · intro k r hr
    rw [hsettled, hreplicas, Std.ExtTreeMap.getElem?_map] at hr
    obtain ⟨copy, hcopy, rfl⟩ := Option.map_eq_some_iff.mp hr
    obtain ⟨i, rfl, -⟩ := exists_plannedCopy hcopy
    exact ⟨rfl, rfl, rfl⟩

/-- A directory with 4097 planned copies of one generation opens once and not again. -/
theorem reopen_crowdedFiles :
    ∃ s₁, openServer config (crowdedFiles 4097) = .ok s₁
      ∧ ∀ s₂, openServer config s₁.files ≠ .ok s₂ := by
  obtain ⟨p, hload, hrecords⟩ := load_crowdedFiles (n := 4097) (by decide)
  have hid : p.coordinatorId = config.coordinatorId :=
    (congrArg ControlPlane.coordinatorId hrecords :)
  have hinit : initializeServer config (crowdedFiles 4097) = .ok
      { plane := (p.configure config).recover, config, files := crowdedFiles 4097 } :=
    Server.initializeServer_iff.mpr ⟨by decide, p, hload, by simp [hid], rfl⟩
  have hmaps : (p.configure config).maps = (crowded 4097).maps :=
    (ControlPlane.maps_eq_of_records hrecords :)
  have hunreadable : (p.configure config).recover.readable = false :=
    not_readable_recover_crowded (by decide) (by decide) hmaps
  refine ⟨_, Server.openServer_of_initialize hinit, ?_⟩
  intro s₂ hopen
  simp only [openServer, bind_eq_ok] at hopen
  obtain ⟨s', hagain, -⟩ := hopen
  have hread := Server.readable_of_initialize_again hinit hagain
  exact absurd (hunreadable.symm.trans hread) Bool.false_ne_true

end Scenario

/-! ## A crash in the recovery checkpoint -/

/-- A recovery that a crash ends between the two replacements of its checkpoint, and that is then
run again to its end, leaves the copies and, up to what dates them, the operations of a recovery
without the crash, exactly when its snapshot can be read and the journal takes back no copy that
is not settled again. -/
theorem interrupted_recovery_converges_iff {config : FabricConfig} {files : Files} {s : Server}
    {loaded : ControlPlane} (opened : initializeServer config files = .ok s)
    (hload : files.load config.maximumRecords = .ok loaded) :
    (∃ s₁ s₂, openServer config files = .ok s₁
        ∧ openServer config (files.checkpointUntil s.plane .writeJournal) = .ok s₂
        ∧ s₂.plane.replicas = s₁.plane.replicas
        ∧ ∀ o : OperationId, s₂.plane.operations[o]?.map OperationRecord.undated
            = s₁.plane.operations[o]?.map OperationRecord.undated)
      ↔ s.plane.readable = true ∧ loaded.settlesAgain files.journalEffects = true := by
  have hopen := Server.openServer_of_initialize opened
  have hplane : s.plane = (loaded.configure config).recover := by
    obtain ⟨-, loaded', hload', -, rfl⟩ := Server.initializeServer_iff.mp opened
    rw [Except.ok.inj (hload'.symm.trans hload)]
  have hcoherent : Coherent (loaded.configure config) :=
    (Files.load_coherent hload).1.configure config
  obtain ⟨-, scan, -, hscan, heffects, -⟩ := Files.load_sources hload
  have hcontains := Files.load_contains hload
  rw [heffects] at hcontains ⊢
  constructor
  · rintro ⟨s₁, s₂, h₁, h₂, hreplicas, -⟩
    obtain rfl := Except.ok.inj (hopen.symm.trans h₁)
    simp only [openServer, bind_eq_ok, pure_eq_ok] at h₂
    obtain ⟨s', hagain, rfl⟩ := h₂
    have hread := Server.readable_of_initialize_again opened hagain
    obtain ⟨p', s'', hagain', hreplays, hplane'⟩ :=
      Server.initialize_again opened hload hread hscan hcontains
    obtain rfl := Except.ok.inj (hagain.symm.trans hagain')
    refine ⟨hread, (hreplays.recover_replicas_iff hcoherent).mp ?_⟩
    rw [← hplane, ← hplane']
    exact hreplicas
  · rintro ⟨hread, hsettles⟩
    obtain ⟨p', s', hagain, hreplays, hplane'⟩ :=
      Server.initialize_again opened hload hread hscan hcontains
    have hreplicas := (hreplays.recover_replicas_iff hcoherent).mpr hsettles
    have hoperations := hreplays.recover_operations hcoherent
    rw [← hplane, ← hplane'] at hreplicas hoperations
    exact ⟨_, _, hopen, Server.openServer_of_initialize hagain, hreplicas, hoperations⟩

/-! ## Directories a script leaves -/

namespace Directory

variable {d : Directory}

instance Fits.decidable (d : Directory) : Decidable d.Fits :=
  decidable_of_iff
    ((∀ p ∈ d.snapshot, p.Fits ∧ p.encode.length ≤ maxPayloadBytes)
      ∧ ∀ records ∈ d.journal, ∀ r ∈ records,
          r.fits = true ∧ r.payload.length ≤ maxPayloadBytes)
    ⟨fun h => ⟨h.1, h.2⟩, fun h => ⟨h.snapshot, h.journal⟩⟩

/-- What the files of a directory are loaded to. -/
def loaded (d : Directory) (maximumRecords : Nat) : Result ControlPlane :=
  loadPlane (d.snapshot.map ControlPlane.image)
    (d.journal.map fun records => { records := records.map JournalRecord.image }) maximumRecords

/-- The files of a directory are read without a complaint about their bytes. -/
structure Legible (d : Directory) : Prop where
  fits : d.Fits
  small : ∀ bytes ∈ d.files.journal, bytes.length ≤ maxFileBytes

instance Legible.decidable (d : Directory) : Decidable d.Legible :=
  decidable_of_iff (d.Fits ∧ ∀ bytes ∈ d.files.journal, bytes.length ≤ maxFileBytes)
    ⟨fun h => ⟨h.1, h.2⟩, fun h => ⟨h.fits, h.small⟩⟩

theorem Legible.load (h : d.Legible) (maximumRecords : Nat) :
    d.files.load maximumRecords = d.loaded maximumRecords := by
  have hload := load_torn h.fits tornTail_nil (by rw [Files.withTail_nil]; exact h.small)
    maximumRecords
  rwa [Files.withTail_nil] at hload

theorem Legible.journalEffects (h : d.Legible) : d.files.journalEffects = d.effects := by
  have hscan := h.fits.readWhenPresent_journal tornTail_nil
    (by rw [Files.withTail_nil]; exact h.small)
  rw [Files.withTail_nil] at hscan
  rw [Files.journalEffects, hscan]
  exact effects_scan d []

end Directory

namespace Scenario

open ControlPlane

/-- A copy on its way to cluster 2, with its authorization in the journal. -/
def inTransit : Runtime :=
  (reach ([cluster 1, cluster 2, state 1 1 .immutable, stateCommit 1 1 5]
    ++ copy 20 1 1 1 7 false)).persist.1.after (replication 1 1 2)

def inTransitDisk : Directory := inTransit.store.getD {}

/-- The destination of the same transfer is quarantined after a checkpoint. -/
def quarantining : Runtime := (inTransit.persist.1).afterAll [quarantine 28]

def quarantiningDisk : Directory := quarantining.store.getD {}

/-- What the two directories are loaded to. -/
def loadedFrom (d : Directory) : ControlPlane := (d.loaded config.maximumRecords).toOption.getD {}

theorem loaded_eq (h : (d.loaded config.maximumRecords).isOk = true) :
    d.loaded config.maximumRecords = .ok (loadedFrom d) := by
  cases hload : d.loaded config.maximumRecords with
  | error => simp [hload, Except.isOk, Except.toBool] at h
  | ok => simp [loadedFrom, hload, Except.toOption]

/-- The coordinator that is recovering one of the directories. -/
def recovering (d : Directory) : Server :=
  { plane := ((loadedFrom d).configure config).recover, config, files := d.files }

/-- The directory is legible, is loaded and belongs to the coordinator. -/
def opens (d : Directory) : Bool :=
  decide d.Legible && (d.loaded config.maximumRecords).isOk
    && decide ((loadedFrom d).coordinatorId = config.coordinatorId)

theorem legible_of_opens (h : opens d = true) : d.Legible := by
  simp only [opens, Bool.and_eq_true, decide_eq_true_eq] at h
  exact h.1.1

theorem load_of_opens (h : opens d = true) :
    d.files.load config.maximumRecords = .ok (loadedFrom d) := by
  simp only [opens, Bool.and_eq_true, decide_eq_true_eq] at h
  rw [h.1.1.load, loaded_eq h.1.2]

theorem initialize_of_opens (h : opens d = true) :
    initializeServer config d.files = .ok (recovering d) := by
  have hload := load_of_opens h
  simp only [opens, Bool.and_eq_true, decide_eq_true_eq] at h
  exact Server.initializeServer_iff.mpr ⟨by decide, _, hload, by simp [h.2], rfl⟩

theorem opens_inTransit : opens inTransitDisk = true := by decide +kernel

theorem opens_quarantining : opens quarantiningDisk = true := by decide +kernel

/-- A directory in the middle of a transfer opens twice to the same records. -/
theorem recovery_idempotent_of_inTransit :
    ∃ s₁ s₂, openServer config inTransitDisk.files = .ok s₁
      ∧ openServer config s₁.files = .ok s₂ ∧ s₁.plane.SameUndated s₂.plane := by
  have hopen := Server.openServer_of_initialize (initialize_of_opens opens_inTransit)
  have hreadable : (recovering inTransitDisk).plane.readable = true := by decide +kernel
  rw [← readable_eq_of_maps (Server.checkpoint_maps _)] at hreadable
  obtain ⟨s₂, hopen₂, hsame⟩ := (recovery_idempotent_iff hopen).mpr hreadable
  exact ⟨_, s₂, hopen, hopen₂, hsame⟩

/-- A crash in the recovery of the same directory is harmless: the journal holds the transfer and
its destination, so both are recovered again. -/
theorem interrupted_recovery_converges_of_inTransit :
    ∃ s₁ s₂, openServer config inTransitDisk.files = .ok s₁
      ∧ openServer config
          (inTransitDisk.files.checkpointUntil (recovering inTransitDisk).plane .writeJournal)
            = .ok s₂
      ∧ s₂.plane.replicas = s₁.plane.replicas
      ∧ ∀ o : OperationId, s₂.plane.operations[o]?.map OperationRecord.undated
          = s₁.plane.operations[o]?.map OperationRecord.undated := by
  refine (interrupted_recovery_converges_iff (initialize_of_opens opens_inTransit)
    (load_of_opens opens_inTransit)).mpr ⟨by decide +kernel, ?_⟩
  rw [(legible_of_opens opens_inTransit).journalEffects]
  decide +kernel

/-- After a crash in the recovery of the directory whose journal only holds the quarantine, the
destination is left quarantined; without the crash it is abandoned. -/
theorem interrupted_recovery_of_quarantining :
    ∃ s₁ s₂, openServer config quarantiningDisk.files = .ok s₁
      ∧ openServer config
          (quarantiningDisk.files.checkpointUntil (recovering quarantiningDisk).plane
            .writeJournal) = .ok s₂
      ∧ s₁.plane.replicas[(⟨28⟩ : ReplicaId)]?.map ReplicaRecord.lifecycle = some .abandoned
      ∧ s₂.plane.replicas[(⟨28⟩ : ReplicaId)]?.map ReplicaRecord.lifecycle
          = some .quarantined := by
  have hinit := initialize_of_opens opens_quarantining
  have hload := load_of_opens opens_quarantining
  have hcoherent : Coherent ((loadedFrom quarantiningDisk).configure config) :=
    (Files.load_coherent hload).1.configure config
  have hcontains := Files.load_contains hload
  obtain ⟨-, scan, -, hscan, heffects, -⟩ := Files.load_sources hload
  rw [heffects] at hcontains
  obtain ⟨p', s', hagain, hreplays, hplane⟩ :=
    Server.initialize_again hinit hload (by decide +kernel) hscan hcontains
  rw [← heffects, (legible_of_opens opens_quarantining).journalEffects] at hreplays
  refine ⟨_, _, Server.openServer_of_initialize hinit, Server.openServer_of_initialize hagain,
    by decide +kernel, ?_⟩
  have hsame : (s'.checkpoint none).1.plane.replicas = s'.plane.replicas := rfl
  rw [hsame, hplane, hreplays.getElem?_recover_replicas hcoherent]
  decide +kernel

end Scenario

end StateFabric
