import StateFabric.Refinement.Loading

/-!
# Recovering what was recovered

Recovery writes a plane that the next restart reads again, possibly with a journal on top that
recovery has already read.  What the operations make of a copy is summed up by two bits
(`settledCopy`): whether some transfer to it had not completed, and whether the outcome of some
operation on it is unknown.  Recovery clears the first and keeps the second, so recovering again
changes nothing, except where the journal takes a copy back to what it was and leaves out the
transfer that was abandoned (`Replays.recover_replicas_iff`).
-/

namespace StateFabric

open OrderedMap Protocol

variable {q : ControlPlane} {journal : Option Bytes} {scan : Option JournalScan}

/-! ## What recovery leaves of a copy -/

/-- A copy is left as it was when it is not abandoned again, exactly when it was committed or
abandoned before, or there was nothing to abandon it for. -/
theorem settledCopy_recoveredReplica_eq_iff (r : ReplicaRecord) {abandoned again : Bool}
    (suspended : Bool) (h : again = true → abandoned = true) :
    settledCopy again suspended (recoveredReplica r)
        = settledCopy abandoned suspended (recoveredReplica r)
      ↔ r.commitRecorded = true ∨ abandonedByRecovery r = r ∨ abandoned = false
          ∨ again = true := by
  have hcommit : (recoveredReplica r).commitRecorded = r.commitRecorded := by
    unfold recoveredReplica
    split <;> rfl
  have hterminal : (recoveredReplica r).isTerminal = r.isTerminal := by
    unfold recoveredReplica
    split <;> rfl
  unfold settledCopy
  rw [hcommit, hterminal]
  cases r.commitRecorded with
  | true => simp
  | false =>
    cases abandoned with
    | false => cases again <;> simp at h ⊢
    | true =>
      cases again with
      | true => simp
      | false =>
        simp only [Bool.false_eq_true, Bool.true_eq_false, if_false, if_true, false_or, or_false]
        cases hlive : r.isTerminal with
        | true =>
          have hsame : recoveredReplica r = r := by rw [recoveredReplica, if_pos hlive]
          simp [hsame, eq_comm]
        | false =>
          -- Left alone or suspended, the copy is not terminal; abandoned it is.
          constructor
          · intro heq
            have hends := congrArg ReplicaRecord.isTerminal heq
            split at hends <;> simp [hterminal, hlive] at hends
          · intro heq
            have hends := congrArg ReplicaRecord.isTerminal heq
            simp [hlive] at hends

/-! ## What recovery leaves of the operations -/

/-- The operation without the epoch, the tick and the notes of its last changes. -/
def OperationRecord.undated (operation : OperationRecord) : OperationRecord :=
  { operation with lastEpoch := {}, updatedAt := 0, journal := [] }

section Operations

variable (operation : OperationRecord) (epoch epoch' : CoordinatorEpoch) (tick tick' : Tick)

theorem undated_recoveredOperation :
    (recoveredOperation operation epoch tick).undated =
      let outcome := classifyRecovery operation.state
      let trusted := !outcome.destinationAbandoned && outcome.state != .outcomeUnknown
      { operation.undated with
        state := outcome.state
        recoveryRequired := !outcome.destinationTrusted
        destinationCommitted := trusted
        destinationVerified := if trusted then true else operation.destinationVerified } := by
  simp only [recoveredOperation, OperationRecord.note, OperationRecord.undated]
  split <;> rfl

theorem recoveredOperation_state :
    (recoveredOperation operation epoch tick).state = (classifyRecovery operation.state).state :=
  congrArg OperationView.state (recoveredOperation_view operation epoch tick)

theorem recoveredOperation_destinationReplica :
    (recoveredOperation operation epoch tick).destinationReplica
      = operation.destinationReplica :=
  congrArg OperationView.destination (recoveredOperation_view operation epoch tick)

theorem restartedOperation_cases :
    (restartedOperation operation epoch tick).isTerminal = true
      ∨ (restartedOperation operation epoch tick).state = .outcomeUnknown := by
  unfold restartedOperation
  split
  · rename_i hterminal
    exact .inl hterminal
  · rename_i hlive
    rw [OperationRecord.isTerminal, recoveredOperation_state]
    unfold OperationRecord.isTerminal at hlive
    cases hs : operation.state <;> simp_all [classifyRecovery]

theorem abandons_restartedOperation (k : ReplicaId) :
    (restartedOperation operation epoch tick).abandons k = false := by
  rcases restartedOperation_cases operation epoch tick with hterminal | hunknown
  · simp [OperationRecord.abandons, hterminal]
  · simp [OperationRecord.abandons, hunknown, classifyRecovery]

theorem suspends_restartedOperation (k : ReplicaId) :
    (restartedOperation operation epoch tick).suspends k = operation.suspends k := by
  unfold restartedOperation
  split
  · rfl
  · rename_i hlive
    unfold OperationRecord.suspends OperationRecord.isTerminal
    rw [recoveredOperation_state, recoveredOperation_destinationReplica]
    unfold OperationRecord.isTerminal at hlive
    cases hs : operation.state <;> simp_all [classifyRecovery]

/-- An operation whose outcome is unknown is to be recovered and its destination not committed. -/
theorem recoveredOperation_unknown
    (h : (recoveredOperation operation epoch tick).state = .outcomeUnknown) :
    (recoveredOperation operation epoch tick).recoveryRequired = true
      ∧ (recoveredOperation operation epoch tick).destinationCommitted = false := by
  have hundated := undated_recoveredOperation operation epoch tick
  have hrequired : (recoveredOperation operation epoch tick).recoveryRequired
      = !(classifyRecovery operation.state).destinationTrusted :=
    congrArg OperationRecord.recoveryRequired hundated
  have hcommitted : (recoveredOperation operation epoch tick).destinationCommitted
      = (!(classifyRecovery operation.state).destinationAbandoned
        && (classifyRecovery operation.state).state != .outcomeUnknown) :=
    congrArg OperationRecord.destinationCommitted hundated
  rw [recoveredOperation_state] at h
  rw [hrequired, hcommitted]
  cases hs : operation.state <;> simp_all [classifyRecovery]

theorem undated_restartedOperation :
    (restartedOperation operation epoch tick).undated
      = (restartedOperation operation epoch' tick').undated := by
  unfold restartedOperation
  split
  · rfl
  · rw [undated_recoveredOperation, undated_recoveredOperation]

theorem undated_restartedOperation_twice :
    (restartedOperation (restartedOperation operation epoch tick) epoch' tick').undated
      = (restartedOperation operation epoch tick).undated := by
  unfold restartedOperation
  cases hlive : operation.isTerminal with
  | true => simp [hlive]
  | false =>
    rw [if_neg Bool.false_ne_true]
    split
    · rfl
    · rename_i hagain
      have hcases := restartedOperation_cases operation epoch tick
      rw [restartedOperation, if_neg (by simp [hlive])] at hcases
      have hunknown := hcases.resolve_left hagain
      obtain ⟨hrequired, hcommitted⟩ := recoveredOperation_unknown operation epoch tick hunknown
      rw [undated_recoveredOperation, hunknown]
      simp only [classifyRecovery, OperationRecord.undated, hunknown, hrequired, hcommitted]
      rfl

end Operations

/-! ## What recovery leaves of the replica sets -/

/-- The replica set without the epoch it was last written under. -/
def ReplicaSetRecord.undated (set : ReplicaSetRecord) : ReplicaSetRecord :=
  { set with epoch := {} }

theorem recomputeReplicaSet_revalidationRequired (set : ReplicaSetRecord) :
    (recomputeReplicaSet set).revalidationRequired = set.revalidationRequired := by
  simp only [recomputeReplicaSet]
  split <;> rfl

theorem recomputeReplicaSet_recomputeReplicaSet (set : ReplicaSetRecord) :
    recomputeReplicaSet (recomputeReplicaSet set) = recomputeReplicaSet set := by
  by_cases hpinned : set.state = .splitBrainRisk ∨ set.state = .rebuilding ∨ set.state = .retiring
  · simp only [recomputeReplicaSet, hpinned, if_true]
  · simp only [recomputeReplicaSet, hpinned, if_false]
    -- The recomputed state is none of the three that are kept.
    rw [if_neg]
    · rfl
    · split_ifs <;> simp

namespace ControlPlane

variable {p q : ControlPlane}

theorem rebuildReplicaSet_congr (h : q.replicas = p.replicas) (set : ReplicaSetRecord) :
    q.rebuildReplicaSet set = p.rebuildReplicaSet set := by
  simp only [rebuildReplicaSet, replicasOfState, replicaList, h]

theorem rebuildReplicaSet_epoch (set : ReplicaSetRecord) (epoch : CoordinatorEpoch) :
    p.rebuildReplicaSet { set with epoch := epoch }
      = { p.rebuildReplicaSet set with epoch := epoch } := by
  simp only [rebuildReplicaSet, recomputeReplicaSet]
  split <;> rfl

theorem rebuildReplicaSet_rebuildReplicaSet (set : ReplicaSetRecord) :
    p.rebuildReplicaSet (p.rebuildReplicaSet set) = p.rebuildReplicaSet set := by
  have hkey : (p.rebuildReplicaSet set).key = set.key := rebuildReplicaSet_key set
  have hauthoritative : (p.rebuildReplicaSet set).authoritativeMembers
      = (((p.replicasOfState set.key).filter (!·.isTerminal)).filter
          replicaCountsTowardReplicationFactor).map makeMember :=
    recomputeReplicaSet_authoritativeMembers _
  have hdegraded : (p.rebuildReplicaSet set).degradedMembers
      = (((p.replicasOfState set.key).filter (!·.isTerminal)).filter
          (!replicaCountsTowardReplicationFactor ·)).map makeMember :=
    recomputeReplicaSet_degradedMembers _
  calc p.rebuildReplicaSet (p.rebuildReplicaSet set)
      = recomputeReplicaSet (p.rebuildReplicaSet set) := by
        rw [rebuildReplicaSet, hkey, ← hauthoritative, ← hdegraded]
    _ = p.rebuildReplicaSet set := recomputeReplicaSet_recomputeReplicaSet _

/-- A replica set as a restart leaves it. -/
def restartedSet (p : ControlPlane) (set : ReplicaSetRecord) (epoch : CoordinatorEpoch) :
    ReplicaSetRecord :=
  p.rebuildReplicaSet { set with revalidationRequired := true, epoch := epoch }

theorem restartedSet_eq (set : ReplicaSetRecord) (epoch : CoordinatorEpoch) :
    p.restartedSet set epoch
      = { p.rebuildReplicaSet { set with revalidationRequired := true } with epoch := epoch } :=
  rebuildReplicaSet_epoch { set with revalidationRequired := true } epoch

theorem undated_restartedSet (set : ReplicaSetRecord) (epoch epoch' : CoordinatorEpoch) :
    (p.restartedSet set epoch).undated = (p.restartedSet set epoch').undated := by
  rw [restartedSet_eq, restartedSet_eq]
  rfl

theorem undated_restartedSet_twice (set : ReplicaSetRecord) (epoch epoch' : CoordinatorEpoch) :
    (p.restartedSet (p.restartedSet set epoch) epoch').undated
      = (p.restartedSet set epoch).undated := by
  have hrequired : (p.restartedSet set epoch).revalidationRequired = true :=
    recomputeReplicaSet_revalidationRequired _
  have hsame : { p.restartedSet set epoch with revalidationRequired := true }
      = p.restartedSet set epoch := by rw [← hrequired]
  rw [restartedSet_eq (p.restartedSet set epoch), hsame, restartedSet,
    rebuildReplicaSet_rebuildReplicaSet]
  rfl

end ControlPlane

/-! ## Keys -/

namespace ControlPlane

/-- The planes have records under the same keys. -/
structure SameKeys (p q : ControlPlane) : Prop where
  states (K : StateKey) : q.states[K]?.isSome = p.states[K]?.isSome
  clusters (c : ClusterId) : q.clusters[c]?.isSome = p.clusters[c]?.isSome
  replicas (k : ReplicaId) : q.replicas[k]?.isSome = p.replicas[k]?.isSome
  replicaSets (K : StateKey) : q.replicaSets[K]?.isSome = p.replicaSets[K]?.isSome
  operations (o : OperationId) : q.operations[o]?.isSome = p.operations[o]?.isSome
  authorizations (o : OperationId) : q.authorizations[o]?.isSome = p.authorizations[o]?.isSome
  ownership (K : StateKey) : q.ownership[K]?.isSome = p.ownership[K]?.isSome
  compatibilityRecords (c : CompatibilityId) :
    q.compatibilityRecords[c]?.isSome = p.compatibilityRecords[c]?.isSome
  placementPolicies (k : PlacementPolicyId) :
    q.placementPolicies[k]?.isSome = p.placementPolicies[k]?.isSome
  replicationPolicies (k : ReplicationPolicyId) :
    q.replicationPolicies[k]?.isSome = p.replicationPolicies[k]?.isSome

variable {p q : ControlPlane}

theorem SameKeys.recordCount_eq (h : p.SameKeys q) : q.recordCount = p.recordCount := by
  simp only [recordCount, size_eq_of_isSome h.states, size_eq_of_isSome h.clusters,
    size_eq_of_isSome h.replicas, size_eq_of_isSome h.replicaSets,
    size_eq_of_isSome h.operations, size_eq_of_isSome h.authorizations,
    size_eq_of_isSome h.ownership, size_eq_of_isSome h.compatibilityRecords,
    size_eq_of_isSome h.placementPolicies, size_eq_of_isSome h.replicationPolicies]

theorem SameKeys.of_sameKeys {p' : ControlPlane} (h : p.SameKeys p') (hq : p.SameKeys q) :
    q.SameKeys p' where
  states K := (h.states K).trans (hq.states K).symm
  clusters c := (h.clusters c).trans (hq.clusters c).symm
  replicas k := (h.replicas k).trans (hq.replicas k).symm
  replicaSets K := (h.replicaSets K).trans (hq.replicaSets K).symm
  operations o := (h.operations o).trans (hq.operations o).symm
  authorizations o := (h.authorizations o).trans (hq.authorizations o).symm
  ownership K := (h.ownership K).trans (hq.ownership K).symm
  compatibilityRecords c := (h.compatibilityRecords c).trans (hq.compatibilityRecords c).symm
  placementPolicies k := (h.placementPolicies k).trans (hq.placementPolicies k).symm
  replicationPolicies k := (h.replicationPolicies k).trans (hq.replicationPolicies k).symm

theorem SameKeys.groundedReplica (h : p.SameKeys q) {r : ReplicaRecord} (hr : r.GroundedIn p) :
    r.GroundedIn q where
  state := (h.states r.key).trans hr.state
  cluster := (h.clusters _).trans hr.cluster
  set valid := (h.replicaSets _).trans (hr.set valid)

theorem SameKeys.groundedSet (h : p.SameKeys q) {s : ReplicaSetRecord} (hs : s.GroundedIn p) :
    s.GroundedIn q where
  state := (h.states s.key).trans hs.state
  members m hm := (h.replicas _).trans (hs.members m hm)

end ControlPlane

namespace Coherent

open ControlPlane

variable {p q p' : ControlPlane}

theorem sameKeys_recover (h : Coherent p) : p.SameKeys p.recover := by
  obtain ⟨hcompatibility, hplacement, hreplication⟩ := p.recover_policies
  exact
    { states := fun K => by rw [recover_states]
      clusters := fun c => by rw [getElem?_recover_clusters, Option.isSome_map]
      replicas := fun k => by rw [getElem?_recover_replicas, Option.isSome_map]
      replicaSets := fun K => by rw [getElem?_recover_replicaSets, Option.isSome_map]
      operations := fun o => by
        obtain ⟨tick, htick⟩ := h.getElem?_recover_operations o
        rw [htick, Option.isSome_map]
      authorizations := fun o => by rw [recover_authorizations]
      ownership := fun K => by rw [recover_ownership]
      compatibilityRecords := fun c => by rw [hcompatibility]
      placementPolicies := fun k => by rw [hplacement]
      replicationPolicies := fun k => by rw [hreplication] }

/-- A plane all of whose records come from two coherent planes with its keys is coherent. -/
theorem of_sources (hp : Coherent p) (hq : Coherent q) (keys : p.SameKeys p')
    (keys' : q.SameKeys p')
    (states : ∀ K : StateKey, p'.states[K]? = p.states[K]? ∨ p'.states[K]? = q.states[K]?)
    (clusters : ∀ c : ClusterId,
      p'.clusters[c]? = p.clusters[c]? ∨ p'.clusters[c]? = q.clusters[c]?)
    (replicas : ∀ k : ReplicaId,
      p'.replicas[k]? = p.replicas[k]? ∨ p'.replicas[k]? = q.replicas[k]?)
    (replicaSets : ∀ K : StateKey,
      p'.replicaSets[K]? = p.replicaSets[K]? ∨ p'.replicaSets[K]? = q.replicaSets[K]?)
    (operations : ∀ o : OperationId,
      p'.operations[o]? = p.operations[o]? ∨ p'.operations[o]? = q.operations[o]?)
    (ownership : ∀ K : StateKey,
      p'.ownership[K]? = p.ownership[K]? ∨ p'.ownership[K]? = q.ownership[K]?) :
    Coherent p' where
  states {K r} hr := by
    rcases states K with h | h
    · exact hp.states (h.symm.trans hr)
    · exact hq.states (h.symm.trans hr)
  clusters {c r} hr := by
    rcases clusters c with h | h
    · exact hp.clusters (h.symm.trans hr)
    · exact hq.clusters (h.symm.trans hr)
  replicas {k r} hr := by
    rcases replicas k with h | h
    · obtain ⟨hkey, hground⟩ := hp.replicas (h.symm.trans hr)
      exact ⟨hkey, keys.groundedReplica hground⟩
    · obtain ⟨hkey, hground⟩ := hq.replicas (h.symm.trans hr)
      exact ⟨hkey, keys'.groundedReplica hground⟩
  replicaSets {K s} hs := by
    rcases replicaSets K with h | h
    · obtain ⟨hkey, hground⟩ := hp.replicaSets (h.symm.trans hs)
      exact ⟨hkey, keys.groundedSet hground⟩
    · obtain ⟨hkey, hground⟩ := hq.replicaSets (h.symm.trans hs)
      exact ⟨hkey, keys'.groundedSet hground⟩
  operations {o r} hr := by
    rcases operations o with h | h
    · obtain ⟨hid, hstate⟩ := hp.operations (h.symm.trans hr)
      exact ⟨hid, (keys.states _).trans hstate⟩
    · obtain ⟨hid, hstate⟩ := hq.operations (h.symm.trans hr)
      exact ⟨hid, (keys'.states _).trans hstate⟩
  ownership {K r} hr := by
    rcases ownership K with h | h
    · obtain ⟨hkey, hstate⟩ := hp.ownership (h.symm.trans hr)
      exact ⟨hkey, (keys.states _).trans hstate⟩
    · obtain ⟨hkey, hstate⟩ := hq.ownership (h.symm.trans hr)
      exact ⟨hkey, (keys'.states _).trans hstate⟩

end Coherent

/-! ## A journal on top of what was recovered -/

/-- The batch puts a record under the key. -/
def puts {κ α : Type} [DecidableEq κ] (put : Effect → Option (κ × α)) (es : List Effect)
    (k : κ) : Bool :=
  (es.filterMap put).any fun entry => decide (entry.1 = k)

/-- A restart reads the snapshot of a recovered plane, and over it a journal that was read before
the plane was recovered. -/
structure Replays (p : ControlPlane) (es : List Effect) (p' : ControlPlane) : Prop where
  contained : (p.applyAll es).maps = p.maps
  maps : p'.maps = (p.recover.applyAll es).maps

namespace Replays

open ControlPlane

variable {p p' : ControlPlane} {es : List Effect}

section Maps

variable {κ α : Type} [Ord κ] [Std.TransOrd κ] [Std.LawfulEqOrd κ] [DecidableEq κ]
  {get : ControlPlane → Std.ExtTreeMap κ α} {put : Effect → Option (κ × α)}

/-- Where the journal puts a record the plane is as before its recovery. -/
theorem getElem?_eq (h : Replays p es p') (of_maps : ∀ p : ControlPlane, get p.maps = get p)
    (applies : ∀ (p : ControlPlane) es, get (p.applyAll es) = insertAll (get p) (es.filterMap put))
    (k : κ) : (get p')[k]? = if puts put es k then (get p)[k]? else (get p.recover)[k]? := by
  have hcontained : insertAll (get p) (es.filterMap put) = get p := by
    rw [← applies, ← of_maps (p.applyAll es), h.contained, of_maps]
  rw [← of_maps p', h.maps, of_maps, applies, getElem?_insertAll_of_contained hcontained,
    isSome_lastPut]
  rfl

theorem map_eq (h : Replays p es p') (of_maps : ∀ p : ControlPlane, get p.maps = get p)
    (applies : ∀ (p : ControlPlane) es, get (p.applyAll es) = insertAll (get p) (es.filterMap put))
    (unchanged : get p.recover = get p) : get p' = get p := by
  apply Std.ExtTreeMap.ext_getElem?
  intro k
  rw [h.getElem?_eq of_maps applies, unchanged, ite_self]

end Maps

section

variable (h : Replays p es p')
include h

theorem states : p'.states = p.states :=
  h.map_eq (fun _ => rfl) applyAll_states p.recover_states

theorem ownership : p'.ownership = p.ownership :=
  h.map_eq (fun _ => rfl) applyAll_ownership p.recover_ownership

theorem authorizations : p'.authorizations = p.authorizations :=
  h.map_eq (fun _ => rfl) applyAll_authorizations p.recover_authorizations

theorem policies :
    p'.compatibilityRecords = p.compatibilityRecords
      ∧ p'.placementPolicies = p.placementPolicies
      ∧ p'.replicationPolicies = p.replicationPolicies := by
  obtain ⟨hcompatibility, hplacement, hreplication⟩ := p.recover_policies
  exact ⟨h.map_eq (fun _ => rfl) applyAll_compatibilityRecords hcompatibility,
    h.map_eq (fun _ => rfl) applyAll_placementPolicies hplacement,
    h.map_eq (fun _ => rfl) applyAll_replicationPolicies hreplication⟩

theorem getElem?_clusters (c : ClusterId) :
    p'.clusters[c]?
      = if puts Effect.cluster? es c then p.clusters[c]? else p.recover.clusters[c]? :=
  h.getElem?_eq (fun _ => rfl) applyAll_clusters c

theorem getElem?_replicas (k : ReplicaId) :
    p'.replicas[k]?
      = if puts Effect.replica? es k then p.replicas[k]? else p.recover.replicas[k]? :=
  h.getElem?_eq (fun _ => rfl) applyAll_replicas k

theorem getElem?_replicaSets (K : StateKey) :
    p'.replicaSets[K]?
      = if puts Effect.replicaSet? es K then p.replicaSets[K]? else p.recover.replicaSets[K]? :=
  h.getElem?_eq (fun _ => rfl) applyAll_replicaSets K

theorem getElem?_operations (o : OperationId) :
    p'.operations[o]?
      = if puts Effect.operation? es o then p.operations[o]? else p.recover.operations[o]? :=
  h.getElem?_eq (fun _ => rfl) applyAll_operations o

theorem sameKeys (coherent : Coherent p) : p.SameKeys p' := by
  have hkeys := coherent.sameKeys_recover
  obtain ⟨hcompatibility, hplacement, hreplication⟩ := h.policies
  exact
    { states := fun K => by rw [h.states]
      clusters := fun c => by
        rw [h.getElem?_clusters]
        split
        · rfl
        · exact hkeys.clusters c
      replicas := fun k => by
        rw [h.getElem?_replicas]
        split
        · rfl
        · exact hkeys.replicas k
      replicaSets := fun K => by
        rw [h.getElem?_replicaSets]
        split
        · rfl
        · exact hkeys.replicaSets K
      operations := fun o => by
        rw [h.getElem?_operations]
        split
        · rfl
        · exact hkeys.operations o
      authorizations := fun o => by rw [h.authorizations]
      ownership := fun K => by rw [h.ownership]
      compatibilityRecords := fun c => by rw [hcompatibility]
      placementPolicies := fun k => by rw [hplacement]
      replicationPolicies := fun k => by rw [hreplication] }

theorem coherent (coherent : Coherent p) : Coherent p' := by
  have hkeys := h.sameKeys coherent
  have hkeys' : p.recover.SameKeys p' := hkeys.of_sameKeys coherent.sameKeys_recover
  refine coherent.of_sources coherent.recover hkeys hkeys' (fun K => .inl (by rw [h.states]))
    (fun c => ?_) (fun k => ?_) (fun K => ?_) (fun o => ?_) (fun K => .inl (by rw [h.ownership]))
  · rw [h.getElem?_clusters]
    split <;> simp
  · rw [h.getElem?_replicas]
    split <;> simp
  · rw [h.getElem?_replicaSets]
    split <;> simp
  · rw [h.getElem?_operations]
    split <;> simp

end

end Replays

/-! ## Recovering again -/

namespace ControlPlane

variable {p : ControlPlane} {es : List Effect}

/-- The batch puts the record of a transfer to the copy that had not completed. -/
def putsAbandoning (p : ControlPlane) (es : List Effect) (k : ReplicaId) : Bool :=
  p.operationList.any fun operation =>
    operation.abandons k && puts Effect.operation? es operation.operationId

/-- A batch that takes copies back to what they were before a recovery takes back nothing that the
next recovery will not settle again: every copy it puts was committed or abandoned before, or no
transfer abandons it, or the batch puts a transfer that does. -/
def settlesAgain (p : ControlPlane) (es : List Effect) : Bool :=
  p.replicas.toList.all fun (k, r) =>
    !puts Effect.replica? es k || r.commitRecorded || decide (abandonedByRecovery r = r)
      || !p.abandonsCopy k || p.putsAbandoning es k

theorem settlesAgain_iff :
    p.settlesAgain es = true ↔
      ∀ (k : ReplicaId) (r : ReplicaRecord), p.replicas[k]? = some r →
        puts Effect.replica? es k = true →
          r.commitRecorded = true ∨ abandonedByRecovery r = r ∨ p.abandonsCopy k = false
            ∨ p.putsAbandoning es k = true := by
  simp only [settlesAgain, List.all_eq_true, Prod.forall, mem_toList_iff, Bool.or_eq_true,
    Bool.not_eq_true', decide_eq_true_eq, or_assoc]
  refine forall₃_congr fun k r hr => ?_
  rw [← Bool.not_eq_true, imp_iff_not_or]

theorem abandonsCopy_of_putsAbandoning {k : ReplicaId} (h : p.putsAbandoning es k = true) :
    p.abandonsCopy k = true := by
  obtain ⟨o, operation, hop, hf⟩ := any_operationList.mp h
  exact any_operationList.mpr ⟨o, operation, hop, (Bool.and_eq_true_iff.mp hf).1⟩

end ControlPlane

namespace Replays

open ControlPlane

variable {p p' : ControlPlane} {es : List Effect}

theorem abandonsCopy (h : Replays p es p') (coherent : Coherent p) (k : ReplicaId) :
    p'.abandonsCopy k = p.putsAbandoning es k := by
  rw [Bool.eq_iff_iff, ControlPlane.abandonsCopy, putsAbandoning, any_operationList,
    any_operationList]
  constructor
  · rintro ⟨o, operation, hop, hf⟩
    rw [h.getElem?_operations] at hop
    split at hop
    · rename_i hputs
      obtain rfl := (coherent.operations hop).1
      exact ⟨_, operation, hop, Bool.and_eq_true_iff.mpr ⟨hf, hputs⟩⟩
    · obtain ⟨tick, htick⟩ := coherent.getElem?_recover_operations o
      rw [htick] at hop
      obtain ⟨op, -, rfl⟩ := Option.map_eq_some_iff.mp hop
      rw [abandons_restartedOperation] at hf
      cases hf
  · rintro ⟨o, operation, hop, hf⟩
    obtain ⟨habandons, hputs⟩ := Bool.and_eq_true_iff.mp hf
    obtain rfl := (coherent.operations hop).1
    exact ⟨_, operation, by rw [h.getElem?_operations, if_pos hputs, hop], habandons⟩

theorem suspendsCopy (h : Replays p es p') (coherent : Coherent p) (k : ReplicaId) :
    p'.suspendsCopy k = p.suspendsCopy k := by
  rw [Bool.eq_iff_iff, ControlPlane.suspendsCopy, ControlPlane.suspendsCopy, any_operationList,
    any_operationList]
  refine exists_congr fun o => ?_
  obtain ⟨tick, htick⟩ := coherent.getElem?_recover_operations o
  rw [h.getElem?_operations]
  split
  · rfl
  · rw [htick]
    simp only [Option.map_eq_some_iff]
    constructor
    · rintro ⟨_, ⟨op, hop, rfl⟩, hf⟩
      rw [suspends_restartedOperation] at hf
      exact ⟨op, hop, hf⟩
    · rintro ⟨op, hop, hf⟩
      exact ⟨_, ⟨op, hop, rfl⟩, by rwa [suspends_restartedOperation]⟩

/-- What recovering again makes of a copy: what recovering once did, unless the journal puts the
copy and no transfer to it that had not completed. -/
theorem getElem?_recover_replicas (h : Replays p es p') (coherent : Coherent p)
    (k : ReplicaId) :
    p'.recover.replicas[k]? = p.replicas[k]?.map fun r =>
      settledCopy (if puts Effect.replica? es k then p.putsAbandoning es k else p.abandonsCopy k)
        (p.suspendsCopy k) (recoveredReplica r) := by
  rw [ControlPlane.getElem?_recover_replicas, h.abandonsCopy coherent, h.suspendsCopy coherent,
    h.getElem?_replicas]
  split
  · rfl
  · rw [ControlPlane.getElem?_recover_replicas, Option.map_map]
    congr 1
    funext r
    have hwithdrawn := withdrawn_recoveredReplica r
    have habandons : (p.abandonsCopy k || p.putsAbandoning es k) = p.abandonsCopy k := by
      cases hputs : p.putsAbandoning es k with
      | false => rw [Bool.or_false]
      | true => rw [abandonsCopy_of_putsAbandoning hputs, Bool.true_or]
    rw [Function.comp_apply, (hwithdrawn.settledCopy _ _).recoveredReplica_eq,
      hwithdrawn.settledCopy_settledCopy, habandons, Bool.or_self]

/-- Recovering again gives the copies of recovering once, exactly when the journal takes back
nothing that is not settled again. -/
theorem recover_replicas_iff (h : Replays p es p') (coherent : Coherent p) :
    p'.recover.replicas = p.recover.replicas ↔ p.settlesAgain es = true := by
  have hcopy : ∀ k : ReplicaId, p'.recover.replicas[k]? = p.recover.replicas[k]? ↔
      ∀ r, p.replicas[k]? = some r → puts Effect.replica? es k = true →
        r.commitRecorded = true ∨ abandonedByRecovery r = r ∨ p.abandonsCopy k = false
          ∨ p.putsAbandoning es k = true := by
    intro k
    rw [h.getElem?_recover_replicas coherent, ControlPlane.getElem?_recover_replicas]
    cases hputs : puts Effect.replica? es k with
    | false => simp
    | true =>
      cases p.replicas[k]? with
      | none => simp
      | some r =>
        have habandons : p.putsAbandoning es k = true → p.abandonsCopy k = true :=
          abandonsCopy_of_putsAbandoning
        simpa using settledCopy_recoveredReplica_eq_iff r (p.suspendsCopy k) habandons
  rw [settlesAgain_iff, Std.ExtTreeMap.ext_getElem?_iff]
  exact forall_congr' hcopy

theorem recoveredCluster_recoveredCluster (cluster : ClusterRecord) :
    recoveredCluster (recoveredCluster cluster) = recoveredCluster cluster := by
  unfold recoveredCluster
  by_cases hactive : cluster.lifecycle = .active
  · simp [hactive]
  · simp [hactive]

theorem recover_clusters (h : Replays p es p') : p'.recover.clusters = p.recover.clusters := by
  apply Std.ExtTreeMap.ext_getElem?
  intro c
  rw [getElem?_recover_clusters, getElem?_recover_clusters, h.getElem?_clusters]
  split
  · rfl
  · rw [getElem?_recover_clusters, Option.map_map]
    congr 1
    funext cluster
    exact recoveredCluster_recoveredCluster cluster

theorem recover_operations (h : Replays p es p') (coherent : Coherent p) (o : OperationId) :
    p'.recover.operations[o]?.map OperationRecord.undated
      = p.recover.operations[o]?.map OperationRecord.undated := by
  obtain ⟨tick, htick⟩ := coherent.getElem?_recover_operations o
  obtain ⟨tick', htick'⟩ := (h.coherent coherent).getElem?_recover_operations o
  rw [htick', h.getElem?_operations]
  split
  · rw [htick, Option.map_map, Option.map_map]
    congr 1
    funext operation
    exact undated_restartedOperation ..
  · rw [htick, Option.map_map, Option.map_map, Option.map_map]
    congr 1
    funext operation
    exact undated_restartedOperation_twice ..

/-- Recovering again leaves the replica sets alone, up to their epoch, when it leaves the copies
alone. -/
theorem recover_replicaSets (h : Replays p es p')
    (replicas : p'.recover.replicas = p.recover.replicas) (K : StateKey) :
    p'.recover.replicaSets[K]?.map ReplicaSetRecord.undated
      = p.recover.replicaSets[K]?.map ReplicaSetRecord.undated := by
  have hreplicas : p'.settled.replicas = p.settled.replicas := by
    rw [← recover_replicas_eq, ← recover_replicas_eq, replicas]
  have hrestarted : ∀ (q : ControlPlane) (K : StateKey), q.recover.replicaSets[K]?
      = q.replicaSets[K]?.map fun set => q.settled.restartedSet set q.coordinatorEpoch.next :=
    getElem?_recover_replicaSets
  have hsame : ∀ set epoch, p'.settled.restartedSet set epoch = p.settled.restartedSet set epoch :=
    fun set epoch => rebuildReplicaSet_congr hreplicas _
  rw [hrestarted p', h.getElem?_replicaSets]
  split
  · rw [hrestarted p, Option.map_map, Option.map_map]
    congr 1
    funext set
    rw [Function.comp_apply, hsame]
    exact undated_restartedSet ..
  · rw [hrestarted p, Option.map_map, Option.map_map, Option.map_map]
    congr 1
    funext set
    simp only [Function.comp_apply, hsame]
    exact undated_restartedSet_twice ..

end Replays

/-! ## Opening again -/

namespace ControlPlane

@[simp] theorem recover_coordinatorId (p : ControlPlane) :
    p.recover.coordinatorId = p.coordinatorId := by
  rw [recover_eq]
  exact recoverOperations_frame coordinatorId
    (fun p o => by unfold recoverOperation; split <;> rfl) p.withdrawEvidence p.operationList

theorem maps_applyAll_congr {p : ControlPlane} (h : p.maps = q.maps) (es : List Effect) :
    (p.applyAll es).maps = (q.applyAll es).maps := by
  have hmaps : ∀ r : ControlPlane, (r.applyAll es).maps = (r.maps.applyAll es).maps := by
    intro r
    simp only [maps, applyAll_states, applyAll_clusters, applyAll_replicas, applyAll_replicaSets,
      applyAll_operations, applyAll_authorizations, applyAll_ownership,
      applyAll_compatibilityRecords, applyAll_placementPolicies, applyAll_replicationPolicies]
  rw [hmaps p, h, ← hmaps]

end ControlPlane

namespace Files

variable {files : Files} {p : ControlPlane} {maximumRecords : Nat}

theorem load_contains (h : files.load maximumRecords = .ok p) :
    (p.applyAll files.journalEffects).maps = p.maps := by
  obtain ⟨base, -, hrecords, -⟩ := load_parts h
  apply ControlPlane.maps_eq_of_records
  calc (p.applyAll files.journalEffects).records
      = ((base.applyAll files.journalEffects).applyAll files.journalEffects).records :=
        ControlPlane.records_applyAll_congr hrecords _
    _ = (base.applyAll files.journalEffects).records := ControlPlane.records_applyAll_twice _ _
    _ = p.records := hrecords.symm

/-- A snapshot that can be read and a journal that can be scanned load to the journal replayed
over the snapshot, when the result passes the checks. -/
theorem load_snapshot (fits : q.Fits) (bounded : q.encode.length ≤ maxPayloadBytes)
    (scanned : readWhenPresent journal scanJournal = .ok scan)
    (coherent : Coherent (q.applyAll (scan.elim [] JournalScan.effects)))
    (count : (q.applyAll (scan.elim [] JournalScan.effects)).recordCount ≤ maximumRecords) :
    ∃ p', ({ snapshot := some (encodeSnapshot q), journal := journal } : Files).load
        maximumRecords = .ok p'
      ∧ p'.records = (q.applyAll (scan.elim [] JournalScan.effects)).records := by
  have hsmall : (encodeSnapshot q).length ≤ maxFileBytes := by
    have hroom : snapshotHeaderBytes + maxPayloadBytes ≤ maxFileBytes := by decide
    rw [length_encodeSnapshot]
    omega
  have hsnapshot : readWhenPresent (some (encodeSnapshot q)) decodeSnapshot
      = .ok (some q.image) := by
    have hfile : ¬ maxFileBytes < (encodeSnapshot q).length := Nat.not_lt_of_le hsmall
    simp [readWhenPresent, readFile, rejectIf, hfile, decodeSnapshot_encodeSnapshot fits bounded,
      bind, Except.bind, pure, Except.pure]
  have hcontents : (((some q.image : Option ControlPlane).getD {}).applyAll
      (scan.elim [] JournalScan.effects)).records
        = (q.applyAll (scan.elim [] JournalScan.effects)).records :=
    ControlPlane.records_applyAll_congr (p := q.image) (q := q) rfl _
  have hcases := loadPlane_cases coherent hcontents maximumRecords
  rw [if_pos count] at hcases
  simp only [load, hsnapshot, scanned, bind, Except.bind]
  exact hcases

end Files

namespace Server

variable {config : FabricConfig} {files : Files} {s : Server} {loaded : ControlPlane}

/-- A coordinator that is ended after its recovery wrote a snapshot that can be read opens again,
over whatever is left of the journal that it read. -/
theorem initialize_again (opened : initializeServer config files = .ok s)
    (hload : files.load config.maximumRecords = .ok loaded) (readable : s.plane.readable = true)
    (scanned : readWhenPresent journal scanJournal = .ok scan)
    (contained : (loaded.applyAll (scan.elim [] JournalScan.effects)).maps = loaded.maps) :
    ∃ p' s', initializeServer config
        { snapshot := some (encodeSnapshot s.plane), journal := journal } = .ok s'
      ∧ Replays (loaded.configure config) (scan.elim [] JournalScan.effects) p'
      ∧ s'.plane = p'.recover := by
  obtain ⟨hvalid, loaded', hload', -, rfl⟩ := initializeServer_iff.mp opened
  obtain rfl := Except.ok.inj (hload'.symm.trans hload)
  obtain ⟨-, -, -, -, hcount⟩ := Files.load_parts hload
  obtain ⟨hcoherent, hkeyed⟩ := Files.load_coherent hload
  set p := loaded'.configure config with hp
  have hcoherent : Coherent p := hcoherent.configure config
  have hkeyed : p.Keyed := hkeyed.configure config
  have hreplays : Replays p (scan.elim [] JournalScan.effects)
      (p.recover.applyAll (scan.elim [] JournalScan.effects)) :=
    ⟨(ControlPlane.maps_applyAll_congr (p := p) (q := loaded') rfl _).trans contained, rfl⟩
  simp only [ControlPlane.readable, Bool.and_eq_true, decide_eq_true_eq] at readable
  have hfits := ControlPlane.fits_of_withinBounds hcoherent.recover hkeyed.recover readable.1
  obtain ⟨q, hq, hrecords⟩ := Files.load_snapshot hfits readable.2 scanned
    (hreplays.coherent hcoherent) ((hreplays.sameKeys hcoherent).recordCount_eq.trans_le hcount)
  have hid : q.coordinatorId = config.coordinatorId := by
    have hsame : q.coordinatorId = (p.recover.applyAll _).coordinatorId :=
      (congrArg ControlPlane.coordinatorId hrecords :)
    rw [hsame, ControlPlane.applyAll_coordinatorId, ControlPlane.recover_coordinatorId]
    rfl
  have hmaps : (q.configure config).maps = q.maps := rfl
  exact ⟨q.configure config, _, initializeServer_iff.mpr ⟨hvalid, q, hq, by simp [hid], rfl⟩,
    ⟨hreplays.contained, hmaps.trans (ControlPlane.maps_eq_of_records hrecords)⟩, rfl⟩

end Server

end StateFabric
