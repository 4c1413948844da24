import StateFabric.Fabric.Lifecycle
import StateFabric.Refinement.Coherent

/-!
# Recovery as a protocol step

`recover` runs over the operations and writes replicas as it goes, so a replica may be written
more than once.  What is left of it is the fold of `settle` over all operations, and that fold is
summed up by two bits (`settledCopy`): whether some transfer to the copy had not completed, and
whether the outcome of some operation on it is unknown.  The outcome is one of the four cases of
`Recovered`, and `Coherent.recover_step` assembles the protocol step of a restart.
-/

namespace StateFabric

open OrderedMap Protocol

variable {r' : ReplicaRecord} {l : List OperationRecord} {o : OperationId}

variable {r : ReplicaRecord} {operation : OperationRecord} {k : ReplicaId}

theorem Coherent.of_maps {p q : ControlPlane} (h : Coherent p) (states : q.states = p.states)
    (clusters : q.clusters = p.clusters) (replicas : q.replicas = p.replicas)
    (replicaSets : q.replicaSets = p.replicaSets) (operations : q.operations = p.operations)
    (ownership : q.ownership = p.ownership) : Coherent q where
  states hr := h.states (states ▸ hr)
  clusters hr := h.clusters (clusters ▸ hr)
  replicas hr := by
    obtain ⟨hkey, hground⟩ := h.replicas (replicas ▸ hr)
    exact ⟨hkey, states ▸ hground.state, clusters ▸ hground.cluster,
      fun valid => replicaSets ▸ hground.set valid⟩
  replicaSets hs := by
    obtain ⟨hkey, hground⟩ := h.replicaSets (replicaSets ▸ hs)
    exact ⟨hkey, states ▸ hground.state, fun m hm => replicas ▸ hground.members m hm⟩
  operations hr := states ▸ h.operations (operations ▸ hr)
  ownership hr := states ▸ h.ownership (ownership ▸ hr)

/-! ## What recovery leaves of a replica -/

/-- A replica after a restart: terminal ones stay, live ones lose their evidence, and an
uncommitted destination of an operation in flight may be abandoned or suspended. -/
inductive Recovered (p : Plane) (k : ReplicaId) (v : ReplicaView) : ReplicaView → Prop
  | kept (terminal : v.Terminal) : Recovered p k v v
  | withheld (live : ¬ v.Terminal) :
      Recovered p k v { v with revalidation := true, availability := .unknown }
  | abandoned (revalidation : Bool) (uncommitted : v.committed = false)
      (early : ∃ o op, p.operations o = some op ∧ op.Early ∧ op.destination = k)
      (withheld : revalidation = true ∨ v.Terminal) :
      Recovered p k v { v with
        lifecycle := .abandoned, authority := .none, counts := false
        availability := .absent, revalidation := revalidation }
  | suspended (uncommitted : v.committed = false) (live : ¬ v.Terminal) :
      Recovered p k v { v with
        lifecycle := .quarantined, authority := .fenced, counts := false
        availability := .unknown, revalidation := true }

namespace Recovered

variable {p : Plane} {k : ReplicaId} {v w : ReplicaView}

theorem committed_eq (h : Recovered p k v w) : w.committed = v.committed := by cases h <;> rfl

theorem withheld_or_terminal (h : Recovered p k v w) (live : ¬ v.Terminal) :
    w.revalidation = true ∨ w.Terminal := by
  cases h with
  | kept terminal => exact absurd terminal live
  | withheld | suspended => exact .inl rfl
  | abandoned => exact .inr (.inr rfl)

theorem counting_iff (h : Recovered p k v w) : w.Counting ↔ v.Counting := by
  cases h with
  | kept | withheld => exact Iff.rfl
  | abandoned revalidation uncommitted | suspended uncommitted =>
    simp [ReplicaView.Counting, uncommitted]

theorem move {p' : Plane} (h : Recovered p k v w) :
    w = v ∨ ReplicaMove .reopen p p' k (some v) w := by
  cases h with
  | kept => exact .inl rfl
  | withheld live => exact .inr (.recover v rfl live)
  | abandoned revalidation uncommitted early =>
    obtain ⟨o, op, hop, hearly, hdest⟩ := early
    exact .inr (.abandon v revalidation
      (.inr (.inr ⟨o, op, rfl, hop, hearly, hdest, uncommitted⟩)))
  | suspended uncommitted live => exact .inr (.suspend v rfl uncommitted live)

end Recovered

theorem recovered_recoveredReplica (p : Plane) (k : ReplicaId) (r : ReplicaRecord) :
    Recovered p k r.view (recoveredReplica r).view := by
  unfold recoveredReplica
  cases h : r.isTerminal with
  | true => exact .kept (r.isTerminal_iff.mp h)
  | false => exact .withheld (ReplicaRecord.not_terminal h)

/-! ## What the operations make of a copy -/

namespace OperationRecord

/-- Recovery abandons the copy as the destination of the operation. -/
def abandons (k : ReplicaId) (operation : OperationRecord) : Bool :=
  !operation.isTerminal && operation.destinationReplica == k
    && (classifyRecovery operation.state).destinationAbandoned

/-- Recovery suspends the copy as the destination of the operation. -/
def suspends (k : ReplicaId) (operation : OperationRecord) : Bool :=
  !operation.isTerminal && operation.destinationReplica == k
    && (classifyRecovery operation.state).state == .outcomeUnknown

end OperationRecord

/-- The copy that is left when some operation abandons it, or suspends it. -/
def settledCopy (abandoned suspended : Bool) (r : ReplicaRecord) : ReplicaRecord :=
  if r.commitRecorded then r
  else if abandoned then abandonedByRecovery r
  else if suspended && !r.isTerminal then quarantinedByRecovery r
  else r

/-- What one iteration of the recovery loop makes of the replica `k`. -/
def settle (k : ReplicaId) (r : ReplicaRecord) (operation : OperationRecord) : ReplicaRecord :=
  if operation.isTerminal = false ∧ operation.destinationReplica = k then
    (recoveredDestination operation r).getD r
  else r

theorem settle_eq (k : ReplicaId) (r : ReplicaRecord) (operation : OperationRecord) :
    settle k r operation = settledCopy (operation.abandons k) (operation.suspends k) r := by
  unfold settle settledCopy OperationRecord.abandons OperationRecord.suspends
  cases operation.isTerminal with
  | true => simp
  | false =>
    by_cases hk : operation.destinationReplica = k
    · unfold recoveredDestination
      cases operation.state <;> cases r.commitRecorded <;> cases hterminal : r.isTerminal <;>
        simp [classifyRecovery, hk]
    · simp [hk]

/-- A copy no live evidence is left of. -/
def ReplicaRecord.Withdrawn (r : ReplicaRecord) : Prop :=
  r.isTerminal = true ∨ (r.evidence.revalidationRequired = true ∧ r.availability = .unknown)

theorem withdrawn_recoveredReplica (r : ReplicaRecord) : (recoveredReplica r).Withdrawn := by
  unfold recoveredReplica
  split
  · rename_i hterminal
    exact .inl hterminal
  · exact .inr ⟨rfl, rfl⟩

theorem ReplicaRecord.Withdrawn.settledCopy (h : r.Withdrawn) (abandoned suspended : Bool) :
    (settledCopy abandoned suspended r).Withdrawn := by
  unfold StateFabric.settledCopy
  split_ifs
  · exact h
  · exact .inl rfl
  · exact .inr ⟨rfl, rfl⟩
  · exact h

theorem ReplicaRecord.Withdrawn.recoveredReplica_eq (h : r.Withdrawn) : recoveredReplica r = r := by
  unfold recoveredReplica
  split
  · rfl
  · rename_i hlive
    obtain ⟨hevidence, havailability⟩ := h.resolve_left hlive
    rw [← hevidence, ← havailability]

section Settled

variable (r : ReplicaRecord)

@[simp] theorem commitRecorded_abandonedByRecovery :
    (abandonedByRecovery r).commitRecorded = r.commitRecorded := rfl

@[simp] theorem isTerminal_abandonedByRecovery : (abandonedByRecovery r).isTerminal = true := rfl

@[simp] theorem abandonedByRecovery_abandonedByRecovery :
    abandonedByRecovery (abandonedByRecovery r) = abandonedByRecovery r := rfl

@[simp] theorem commitRecorded_quarantinedByRecovery :
    (quarantinedByRecovery r).commitRecorded = r.commitRecorded := rfl

@[simp] theorem isTerminal_quarantinedByRecovery :
    (quarantinedByRecovery r).isTerminal = false := rfl

@[simp] theorem quarantinedByRecovery_quarantinedByRecovery :
    quarantinedByRecovery (quarantinedByRecovery r) = quarantinedByRecovery r := rfl

/-- A copy without evidence that is suspended and then abandoned is as if abandoned at once. -/
theorem abandonedByRecovery_quarantinedByRecovery {r : ReplicaRecord}
    (h : r.evidence.revalidationRequired = true) :
    abandonedByRecovery (quarantinedByRecovery r) = abandonedByRecovery r := by
  have hevidence : { r.evidence with revalidationRequired := true } = r.evidence := by rw [← h]
  simp only [abandonedByRecovery, quarantinedByRecovery, hevidence]

end Settled

theorem ReplicaRecord.Withdrawn.settledCopy_settledCopy (h : r.Withdrawn) (a s a' s' : Bool) :
    StateFabric.settledCopy a' s' (StateFabric.settledCopy a s r)
      = StateFabric.settledCopy (a || a') (s || s') r := by
  unfold StateFabric.settledCopy
  cases hcommit : r.commitRecorded with
  | true => simp [hcommit]
  | false =>
    cases hterminal : r.isTerminal with
    | true => cases a <;> cases a' <;> simp [hcommit, hterminal]
    | false =>
      have hevidence : r.evidence.revalidationRequired = true :=
        (h.resolve_left (by simp [hterminal])).1
      have hboth := abandonedByRecovery_quarantinedByRecovery hevidence
      cases a <;> cases a' <;> cases s <;> cases s' <;> simp [hcommit, hterminal, hboth]

theorem settleAll_eq (h : r.Withdrawn) (l : List OperationRecord) :
    l.foldl (settle k) r = settledCopy (l.any (·.abandons k)) (l.any (·.suspends k)) r := by
  induction l generalizing r with
  | nil => simp [settledCopy]
  | cons operation rest ih =>
    have hwithdrawn := h.settledCopy (operation.abandons k) (operation.suspends k)
    rw [List.foldl_cons, settle_eq, ih hwithdrawn, h.settledCopy_settledCopy, List.any_cons,
      List.any_cons]

/-- A copy after a restart is one of the outcomes, whatever the operations make of it. -/
theorem recovered_settledCopy {p : Plane} (r : ReplicaRecord) {abandoned : Bool} (suspended : Bool)
    (early : abandoned = true →
      ∃ o op, p.operations o = some op ∧ op.Early ∧ op.destination = k) :
    Recovered p k r.view (settledCopy abandoned suspended (recoveredReplica r)).view := by
  have hkept := recovered_recoveredReplica p k r
  have hcommit : (recoveredReplica r).commitRecorded = r.commitRecorded := hkept.committed_eq
  unfold settledCopy
  rw [hcommit]
  split_ifs with hcommitted habandoned hsuspended
  · exact hkept
  · have huncommitted := Bool.eq_false_iff.mpr hcommitted
    unfold recoveredReplica
    split
    · rename_i hterminal
      exact .abandoned r.view.revalidation huncommitted (early habandoned)
        (.inr (r.isTerminal_iff.mp hterminal))
    · exact .abandoned true huncommitted (early habandoned) (.inl rfl)
  · have huncommitted := Bool.eq_false_iff.mpr hcommitted
    unfold recoveredReplica at hsuspended ⊢
    split at hsuspended
    · simp_all
    · rename_i hlive
      rw [if_neg hlive]
      exact .suspended huncommitted (ReplicaRecord.not_terminal (Bool.eq_false_iff.mpr hlive))
  · exact hkept

theorem settledCopy_suspended (abandoned : Bool) (uncommitted : r.commitRecorded = false) :
    (settledCopy abandoned true r).view.lifecycle = .quarantined
      ∨ (settledCopy abandoned true r).view.Terminal := by
  simp only [settledCopy, uncommitted, Bool.false_eq_true, if_false, Bool.true_and]
  split_ifs with _ hlive
  · exact .inr (.inr rfl)
  · exact .inl rfl
  · exact .inr (r.isTerminal_iff.mp (by simpa using hlive))

/-- What a restart never changes of a replica: its identity, what it refers to, and whether its
commit was recorded. -/
def ReplicaRecord.Retains (r r' : ReplicaRecord) : Prop :=
  r'.replicaId = r.replicaId ∧ r'.key = r.key ∧ r'.location = r.location
    ∧ r'.replicaSetId = r.replicaSetId ∧ r'.commitRecorded = r.commitRecorded

theorem settledCopy_retains (abandoned suspended : Bool) (r : ReplicaRecord) :
    r.Retains (settledCopy abandoned suspended (recoveredReplica r)) := by
  unfold settledCopy recoveredReplica
  split_ifs <;> exact ⟨rfl, rfl, rfl, rfl, rfl⟩

theorem ReplicaRecord.Retains.groundedIn {p : ControlPlane} (same : r.Retains r')
    (h : r.GroundedIn p) : r'.GroundedIn p := by
  obtain ⟨-, hkey, hlocation, hset, -⟩ := same
  exact ⟨hkey ▸ h.state, hlocation ▸ h.cluster, fun valid => hkey ▸ h.set (hset ▸ valid)⟩

/-! ## What recovery leaves of an operation -/

@[simp] theorem recoveredOperation_operationId (operation : OperationRecord)
    (epoch : CoordinatorEpoch) (tick : Tick) :
    (recoveredOperation operation epoch tick).operationId = operation.operationId :=
  OperationRecord.note_operationId _ _

theorem recoveredOperation_view (operation : OperationRecord) (epoch : CoordinatorEpoch)
    (tick : Tick) : (recoveredOperation operation epoch tick).view =
      { operation.view with state := (classifyRecovery operation.state).state } :=
  OperationRecord.note_view _ _

@[simp] theorem recoveredOperation_key (operation : OperationRecord) (epoch : CoordinatorEpoch)
    (tick : Tick) : (recoveredOperation operation epoch tick).key = operation.key :=
  congrArg OperationView.key (recoveredOperation_view operation epoch tick)

theorem classifyRecovery_outcome (live : operation.isTerminal = false) :
    operation.view.RecoversTo (classifyRecovery operation.state).state := by
  unfold OperationRecord.isTerminal at live
  unfold OperationView.RecoversTo OperationView.Early OperationRecord.view
  cases hs : operation.state <;> simp_all [classifyRecovery]

/-- Recovery abandons the destinations of exactly the operations whose transfer had not
completed. -/
theorem classifyRecovery_abandons :
    (classifyRecovery operation.state).destinationAbandoned = true ↔ operation.view.Early := by
  unfold OperationView.Early OperationRecord.view
  cases operation.state <;> simp [classifyRecovery]

/-- The operation as a restart leaves it, live or not. -/
def restartedOperation (operation : OperationRecord) (epoch : CoordinatorEpoch) (tick : Tick) :
    OperationRecord :=
  if operation.isTerminal then operation else recoveredOperation operation epoch tick

@[simp] theorem restartedOperation_operationId (operation : OperationRecord)
    (epoch : CoordinatorEpoch) (tick : Tick) :
    (restartedOperation operation epoch tick).operationId = operation.operationId := by
  unfold restartedOperation
  split
  · rfl
  · exact recoveredOperation_operationId ..

@[simp] theorem restartedOperation_key (operation : OperationRecord) (epoch : CoordinatorEpoch)
    (tick : Tick) : (restartedOperation operation epoch tick).key = operation.key := by
  unfold restartedOperation
  split
  · rfl
  · exact recoveredOperation_key ..

theorem OperationRecord.abandons_of_abandoned (live : operation.isTerminal = false)
    (abandoned : (classifyRecovery operation.state).state = .abandoned) :
    operation.abandons operation.destinationReplica = true := by
  unfold OperationRecord.abandons
  unfold OperationRecord.isTerminal at live ⊢
  cases hs : operation.state <;> simp_all [classifyRecovery]

/-- An operation whose outcome is unknown suspends its destination and does not abandon it. -/
theorem OperationRecord.suspends_of_unknown (live : operation.isTerminal = false)
    (unknown : (classifyRecovery operation.state).state = .outcomeUnknown) :
    operation.suspends operation.destinationReplica = true
      ∧ operation.abandons operation.destinationReplica = false := by
  unfold OperationRecord.suspends OperationRecord.abandons
  unfold OperationRecord.isTerminal at live ⊢
  cases hs : operation.state <;> simp_all [classifyRecovery]

theorem OperationRecord.early_of_abandons (h : operation.abandons k = true) :
    operation.view.Early ∧ operation.destinationReplica = k := by
  simp only [OperationRecord.abandons, Bool.and_eq_true, beq_iff_eq] at h
  exact ⟨classifyRecovery_abandons.mp h.2, h.1.2⟩

/-! ## The recovery loop -/

namespace ControlPlane

variable {p : ControlPlane}

/-- The recovery loop over a list of operations. -/
def recoverOperations (p : ControlPlane) (operations : List OperationRecord) : ControlPlane :=
  operations.foldl recoverOperation p

theorem recoverOperations_frame {α : Type} (get : ControlPlane → α)
    (step : ∀ p operation, get (recoverOperation p operation) = get p) (p : ControlPlane)
    (l : List OperationRecord) : get (p.recoverOperations l) = get p := by
  induction l generalizing p with
  | nil => rfl
  | cons operation rest ih => exact (ih _).trans (step p operation)

@[simp] theorem recoverOperations_states (l : List OperationRecord) :
    (p.recoverOperations l).states = p.states :=
  recoverOperations_frame states (fun p o => by unfold recoverOperation; split <;> rfl) p l

@[simp] theorem recoverOperations_clusters (l : List OperationRecord) :
    (p.recoverOperations l).clusters = p.clusters :=
  recoverOperations_frame clusters (fun p o => by unfold recoverOperation; split <;> rfl) p l

@[simp] theorem recoverOperations_replicaSets (l : List OperationRecord) :
    (p.recoverOperations l).replicaSets = p.replicaSets :=
  recoverOperations_frame replicaSets (fun p o => by unfold recoverOperation; split <;> rfl) p l

@[simp] theorem recoverOperations_ownership (l : List OperationRecord) :
    (p.recoverOperations l).ownership = p.ownership :=
  recoverOperations_frame ownership (fun p o => by unfold recoverOperation; split <;> rfl) p l

@[simp] theorem recoverOperations_authorizations (l : List OperationRecord) :
    (p.recoverOperations l).authorizations = p.authorizations :=
  recoverOperations_frame authorizations (fun p o => by unfold recoverOperation; split <;> rfl) p l

@[simp] theorem recoverOperations_coordinatorEpoch (l : List OperationRecord) :
    (p.recoverOperations l).coordinatorEpoch = p.coordinatorEpoch :=
  recoverOperations_frame coordinatorEpoch
    (fun p o => by unfold recoverOperation; split <;> rfl) p l

theorem getElem?_replicas_recoverOperation (operation : OperationRecord) (k : ReplicaId) :
    (p.recoverOperation operation).replicas[k]? =
      p.replicas[k]?.map (settle k · operation) := by
  unfold recoverOperation settle
  cases hterminal : operation.isTerminal with
  | true => simp
  | false =>
    by_cases hk : operation.destinationReplica = k
    · subst hk
      cases hr : p.replicas[operation.destinationReplica]? with
      | none => simp [hr]
      | some r =>
        cases hd : recoveredDestination operation r with
        | none => simp [hr, hd]
        | some => simp [hd]
    · simp only [Bool.false_eq_true, if_false, hk, and_false, Option.map_id']
      cases p.replicas[operation.destinationReplica]?.bind (recoveredDestination operation) with
      | none => rfl
      | some => rw [getElem?_insert_eq, if_neg hk]

/-- The loop leaves of a replica what all operations together make of it. -/
theorem getElem?_replicas_recoverOperations (l : List OperationRecord) (k : ReplicaId) :
    (p.recoverOperations l).replicas[k]? = p.replicas[k]?.map (l.foldl (settle k)) := by
  induction l generalizing p with
  | nil => exact Option.map_id'.symm
  | cons operation rest ih =>
    calc ((p.recoverOperation operation).recoverOperations rest).replicas[k]?
        = (p.recoverOperation operation).replicas[k]?.map (rest.foldl (settle k)) := ih
      _ = (p.replicas[k]?.map (settle k · operation)).map (rest.foldl (settle k)) := by
          rw [getElem?_replicas_recoverOperation]
      _ = p.replicas[k]?.map ((operation :: rest).foldl (settle k)) := Option.map_map ..

theorem getElem?_operations_recoverOperation (operation : OperationRecord) (o : OperationId) :
    (p.recoverOperation operation).operations[o]? =
      if operation.isTerminal = false ∧ operation.operationId = o then
        some (recoveredOperation operation p.coordinatorEpoch (p.logicalTime + 1))
      else p.operations[o]? := by
  unfold recoverOperation
  cases operation.isTerminal with
  | true => simp
  | false => simp [getElem?_insert_eq]

theorem getElem?_operations_recoverOperations_of_not_mem
    (h : ∀ operation ∈ l, operation.isTerminal = false →
      operation.operationId ≠ o) : (p.recoverOperations l).operations[o]? = p.operations[o]? := by
  induction l generalizing p with
  | nil => rfl
  | cons operation rest ih =>
    have hstep : (p.recoverOperation operation).operations[o]? = p.operations[o]? := by
      rw [getElem?_operations_recoverOperation, if_neg]
      rintro ⟨live, hid⟩
      exact h operation List.mem_cons_self live hid
    exact (ih fun op hop => h op (List.mem_cons_of_mem _ hop)).trans hstep

theorem getElem?_operations_recoverOperations_of_mem (nodup : (l.map (·.operationId)).Nodup)
    (mem : operation ∈ l) (live : operation.isTerminal = false) :
    ∃ tick, (p.recoverOperations l).operations[operation.operationId]? =
      some (recoveredOperation operation p.coordinatorEpoch tick) := by
  induction l generalizing p with
  | nil => exact absurd mem (by simp)
  | cons head rest ih =>
    rw [List.map_cons, List.nodup_cons] at nodup
    have hepoch : (p.recoverOperation head).coordinatorEpoch = p.coordinatorEpoch :=
      recoverOperations_coordinatorEpoch [head]
    rcases List.mem_cons.mp mem with rfl | hmem
    · refine ⟨p.logicalTime + 1, ?_⟩
      have hrest : ∀ op ∈ rest, op.isTerminal = false → op.operationId ≠ operation.operationId :=
        fun op hop _ heq => nodup.1 (List.mem_map.mpr ⟨op, hop, heq⟩)
      calc ((p.recoverOperation operation).recoverOperations rest).operations[_]?
          = (p.recoverOperation operation).operations[operation.operationId]? :=
            getElem?_operations_recoverOperations_of_not_mem hrest
        _ = _ := by rw [getElem?_operations_recoverOperation, if_pos ⟨live, rfl⟩]
    · obtain ⟨tick, htick⟩ := ih (p := p.recoverOperation head) nodup.2 hmem
      exact ⟨tick, hepoch ▸ htick⟩

end ControlPlane

/-! ## What is left after a restart -/

namespace ControlPlane

/-- The plane of a new epoch, in which no evidence is trusted. -/
def withdrawEvidence (p : ControlPlane) : ControlPlane :=
  { p with
    coordinatorEpoch := p.coordinatorEpoch.next
    replayGeneration := p.replayGeneration + 1
    clusters := p.clusters.map fun _ cluster => recoveredCluster cluster
    replicas := p.replicas.map fun _ replica => recoveredReplica replica }

/-- The plane once every operation is settled. -/
def settled (p : ControlPlane) : ControlPlane :=
  p.withdrawEvidence.recoverOperations p.operationList

variable (p : ControlPlane)

theorem recover_eq : p.recover =
    { p.settled.recoverReplicaSets.recomputeDerivedCounters with
      persistenceDetail := text "control plane recovered after coordinator restart" } := rfl

/-- After the loop only the replica sets, the counters and the detail line are written. -/
theorem recover_frame :
    p.recover.states = p.settled.states ∧ p.recover.clusters = p.settled.clusters
      ∧ p.recover.replicas = p.settled.replicas ∧ p.recover.operations = p.settled.operations
      ∧ p.recover.ownership = p.settled.ownership
      ∧ p.recover.replicaSets = p.settled.recoverReplicaSets.replicaSets
      ∧ p.recover.coordinatorEpoch = p.settled.coordinatorEpoch := by
  rw [recover_eq]
  simp only [recomputeDerivedCounters, recoverReplicaSets, and_self]

theorem recover_replicas_eq : p.recover.replicas = p.settled.replicas :=
  p.recover_frame.2.2.1

theorem recover_operations_eq : p.recover.operations = p.settled.operations :=
  p.recover_frame.2.2.2.1

theorem recover_replicaSets_eq :
    p.recover.replicaSets = p.settled.recoverReplicaSets.replicaSets :=
  p.recover_frame.2.2.2.2.2.1

@[simp] theorem recover_states : p.recover.states = p.states := by
  rw [p.recover_frame.1, settled, recoverOperations_states, withdrawEvidence]

@[simp] theorem recover_ownership : p.recover.ownership = p.ownership := by
  rw [p.recover_frame.2.2.2.2.1, settled, recoverOperations_ownership, withdrawEvidence]

@[simp] theorem recover_authorizations : p.recover.authorizations = p.authorizations := by
  rw [recover_eq]
  simp only [recomputeDerivedCounters, recoverReplicaSets, settled,
    recoverOperations_authorizations, withdrawEvidence]

@[simp] theorem recover_coordinatorEpoch :
    p.recover.coordinatorEpoch = p.coordinatorEpoch.next := by
  rw [p.recover_frame.2.2.2.2.2.2, settled, recoverOperations_coordinatorEpoch, withdrawEvidence]

theorem getElem?_recover_clusters (c : ClusterId) :
    p.recover.clusters[c]? = p.clusters[c]?.map recoveredCluster := by
  rw [p.recover_frame.2.1, settled, recoverOperations_clusters, withdrawEvidence,
    Std.ExtTreeMap.getElem?_map]

/-- Some transfer to the copy had not completed. -/
def abandonsCopy (p : ControlPlane) (k : ReplicaId) : Bool := p.operationList.any (·.abandons k)

/-- The outcome of some operation on the copy is unknown. -/
def suspendsCopy (p : ControlPlane) (k : ReplicaId) : Bool := p.operationList.any (·.suspends k)

theorem any_operationList {p : ControlPlane} {f : OperationRecord → Bool} :
    p.operationList.any f = true ↔
      ∃ (o : OperationId) (operation : OperationRecord),
        p.operations[o]? = some operation ∧ f operation = true := by
  simp only [operationList, List.any_eq_true, List.mem_map, Prod.exists, mem_toList_iff]
  constructor
  · rintro ⟨operation, ⟨o, op, hop, rfl⟩, hf⟩
    exact ⟨o, op, hop, hf⟩
  · rintro ⟨o, operation, hop, hf⟩
    exact ⟨operation, ⟨o, operation, hop, rfl⟩, hf⟩

theorem getElem?_recover_replicas (k : ReplicaId) :
    p.recover.replicas[k]? = p.replicas[k]?.map fun r =>
      settledCopy (p.abandonsCopy k) (p.suspendsCopy k) (recoveredReplica r) := by
  rw [recover_replicas_eq, settled, getElem?_replicas_recoverOperations, withdrawEvidence,
    Std.ExtTreeMap.getElem?_map, Option.map_map]
  congr 1
  funext r
  exact settleAll_eq (withdrawn_recoveredReplica r) p.operationList

theorem recover_replica {p : ControlPlane} (hr : p.replicas[k]? = some r) :
    ∃ r', p.recover.replicas[k]? = some r' ∧ Recovered p.abs k r.view r'.view
      ∧ r.Retains r' := by
  refine ⟨_, by rw [getElem?_recover_replicas, hr, Option.map_some],
    recovered_settledCopy r _ fun habandons => ?_, settledCopy_retains _ _ r⟩
  obtain ⟨o, operation, hop, habandons⟩ := any_operationList.mp habandons
  exact ⟨o, operation.view, abs_operations hop, operation.early_of_abandons habandons⟩

theorem exists_of_recover_replica {p : ControlPlane} (hr' : p.recover.replicas[k]? = some r') :
    ∃ r, p.replicas[k]? = some r ∧ Recovered p.abs k r.view r'.view ∧ r.Retains r' := by
  have hsome := hr'
  rw [getElem?_recover_replicas] at hsome
  obtain ⟨r, hr, -⟩ := Option.map_eq_some_iff.mp hsome
  obtain ⟨w, hw, hrecovered, hretains⟩ := recover_replica hr
  obtain rfl := some_unique hw hr'
  exact ⟨r, hr, hrecovered, hretains⟩

theorem getElem?_recover_replicaSets (K : StateKey) :
    p.recover.replicaSets[K]? = p.replicaSets[K]?.map fun set =>
      p.settled.rebuildReplicaSet
        { set with revalidationRequired := true, epoch := p.coordinatorEpoch.next } := by
  have hsets : p.settled.replicaSets = p.replicaSets :=
    recoverOperations_replicaSets (p := p.withdrawEvidence) p.operationList
  have hepoch : p.settled.coordinatorEpoch = p.coordinatorEpoch.next :=
    recoverOperations_coordinatorEpoch (p := p.withdrawEvidence) p.operationList
  rw [recover_replicaSets_eq, recoverReplicaSets, Std.ExtTreeMap.getElem?_map, hsets, hepoch]

end ControlPlane

namespace Coherent

open ControlPlane

variable {p : ControlPlane}

theorem mem_operationList (h : Coherent p) :
    operation ∈ p.operationList ↔ p.operations[operation.operationId]? = some operation := by
  rw [operationList, List.mem_map]
  constructor
  · rintro ⟨⟨o, operation⟩, hmem, rfl⟩
    have ho := mem_toList_iff.mp hmem
    rwa [(h.operations ho).1]
  · intro ho
    exact ⟨(operation.operationId, operation), mem_toList_iff.mpr ho, rfl⟩

theorem nodup_operationList (h : Coherent p) :
    (p.operationList.map (·.operationId)).Nodup := by
  have hkeys : p.operationList.map (·.operationId) = p.operations.toList.map Prod.fst := by
    rw [operationList, List.map_map]
    refine List.map_congr_left fun e he => ?_
    exact (h.operations (mem_toList_iff.mp he)).1
  rw [hkeys]
  exact nodup_keys_toList p.operations

theorem getElem?_recover_operations (h : Coherent p) (o : OperationId) :
    ∃ tick, p.recover.operations[o]? = p.operations[o]?.map fun operation =>
      restartedOperation operation p.coordinatorEpoch.next tick := by
  rw [recover_operations_eq, settled]
  by_cases hlive : ∃ operation, p.operations[o]? = some operation ∧ operation.isTerminal = false
  · obtain ⟨operation, ho, hlive⟩ := hlive
    obtain rfl := (h.operations ho).1
    obtain ⟨tick, htick⟩ := getElem?_operations_recoverOperations_of_mem (p := p.withdrawEvidence)
      h.nodup_operationList (h.mem_operationList.mpr ho) hlive
    refine ⟨tick, htick.trans ?_⟩
    rw [ho, Option.map_some, restartedOperation, hlive]
    rfl
  · refine ⟨0, ?_⟩
    push Not at hlive
    have hterminal : ∀ operation ∈ p.operationList, operation.isTerminal = false →
        operation.operationId ≠ o := by
      rintro operation hmem hterminal rfl
      exact hlive operation (h.mem_operationList.mp hmem) hterminal
    rw [getElem?_operations_recoverOperations_of_not_mem hterminal, withdrawEvidence]
    cases ho : p.operations[o]? with
    | none => rfl
    | some operation =>
      rw [Option.map_some, restartedOperation, if_pos (by simpa using hlive operation ho)]

theorem recover_operation (h : Coherent p) (ho : p.operations[o]? = some operation)
    (live : operation.isTerminal = false) :
    ∃ tick, p.recover.operations[o]? =
      some (recoveredOperation operation p.coordinatorEpoch.next tick) := by
  obtain ⟨tick, htick⟩ := h.getElem?_recover_operations o
  rw [htick, ho, Option.map_some, restartedOperation, live]
  exact ⟨tick, rfl⟩

theorem recover (h : Coherent p) : Coherent p.recover := by
  have hkeyed : ∀ {k : ReplicaId} {r : ReplicaRecord}, p.recover.replicas[k]? = some r →
      r.replicaId = k := fun hr => by
    obtain ⟨r₀, hr₀, -, hid, -⟩ := exists_of_recover_replica hr
    exact hid.trans (h.replicas hr₀).1
  exact
    { states := fun hr => h.states (p.recover_states ▸ hr)
      clusters := fun {c r} hr => by
        rw [getElem?_recover_clusters] at hr
        obtain ⟨r₀, hr₀, rfl⟩ := Option.map_eq_some_iff.mp hr
        have hkey : r₀.clusterId = c := h.clusters hr₀
        exact hkey
      replicas := fun {k r} hr => by
        obtain ⟨r₀, hr₀, -, hretains⟩ := exists_of_recover_replica hr
        have hground := hretains.groundedIn (h.replicas hr₀).2
        refine ⟨hkeyed hr, ?_, ?_, fun valid => ?_⟩
        · rw [recover_states]
          exact hground.state
        · rw [getElem?_recover_clusters, Option.isSome_map]
          exact hground.cluster
        · rw [getElem?_recover_replicaSets, Option.isSome_map]
          exact hground.set valid
      replicaSets := fun {K s} hs => by
        rw [getElem?_recover_replicaSets] at hs
        obtain ⟨s₀, hs₀, rfl⟩ := Option.map_eq_some_iff.mp hs
        obtain ⟨hkey, hground⟩ := h.replicaSets hs₀
        refine ⟨(rebuildReplicaSet_key _).trans hkey, ?_, fun m hm => ?_⟩
        · rw [recover_states, rebuildReplicaSet_key]
          exact hground.state
        · rw [recover_replicas_eq] at hkeyed ⊢
          exact isSome_of_mem_rebuildReplicaSet hkeyed hm
      operations := fun {o r} hr => by
        obtain ⟨tick, htick⟩ := h.getElem?_recover_operations o
        rw [htick] at hr
        obtain ⟨op, hop, rfl⟩ := Option.map_eq_some_iff.mp hr
        rw [recover_states, restartedOperation_operationId, restartedOperation_key]
        exact h.operations hop
      ownership := fun hr => by
        rw [recover_states]
        exact h.ownership (p.recover_ownership ▸ hr) }

/-- A restart is a step of the protocol. -/
theorem recover_step (h : Coherent p) : Protocol.Step .reopen p.abs p.recover.abs where
  states K := .inl (by simp [ControlPlane.abs])
  clusters c := .inl (by
    simp only [ControlPlane.abs, getElem?_recover_clusters, Option.map_map]
    rfl)
  replicas k := by
    cases hr : p.replicas[k]? with
    | none => simp [ControlPlane.abs, getElem?_recover_replicas, hr]
    | some =>
      obtain ⟨r', hr', hrecovered, -⟩ := recover_replica hr
      rw [abs_replicas hr, abs_replicas hr']
      rcases hrecovered.move with hview | hmove
      · exact .inl (congrArg some hview)
      · exact .inr ⟨r'.view, rfl, hmove⟩
  sets K := .inl (by
    simp only [ControlPlane.abs, getElem?_recover_replicaSets, Option.map_map]
    congr 1
    funext set
    exact congrArg StrongId.value (rebuildReplicaSet_generation _))
  operations o := by
    obtain ⟨tick, htick⟩ := h.getElem?_recover_operations o
    cases ho : p.operations[o]? with
    | none => exact .inl (by simp [ControlPlane.abs, htick, ho])
    | some op =>
      rw [ho, Option.map_some, restartedOperation] at htick
      cases live : op.isTerminal with
      | true => exact .inl (by simp [ControlPlane.abs, htick, ho, live])
      | false =>
        rw [live] at htick
        refine .inr ⟨_, abs_operations htick, ?_⟩
        rw [abs_operations ho, if_neg Bool.false_ne_true, recoveredOperation_view]
        exact .recover op.view _ rfl (OperationRecord.not_terminal live)
          (classifyRecovery_outcome live)
  ownership K := .inl (by simp [ControlPlane.abs])
  settles _ o v ho live := by
    obtain ⟨op, hop, rfl⟩ := abs_operations_eq_some.mp ho
    have hlive : op.isTerminal = false := by
      rwa [← Bool.not_eq_true, op.isTerminal_iff]
    obtain ⟨tick, htick⟩ := h.recover_operation hop hlive
    refine ⟨_, (abs_operations htick).trans (congrArg some (recoveredOperation_view ..)),
      classifyRecovery_outcome hlive, ?_⟩
    intro unknown d hd uncommitted
    obtain ⟨r, hr, rfl⟩ := abs_replicas_eq_some.mp hd
    obtain ⟨r', hr', hrecovered, -⟩ := recover_replica hr
    refine ⟨r'.view, abs_replicas hr', hrecovered.committed_eq.trans uncommitted, ?_⟩
    have hsuspends : p.suspendsCopy op.view.destination = true :=
      any_operationList.mpr ⟨o, op, hop, (op.suspends_of_unknown hlive unknown).1⟩
    have hcommit : (recoveredReplica r).commitRecorded = r.commitRecorded :=
      (recovered_recoveredReplica p.abs op.destinationReplica r).committed_eq
    rw [getElem?_recover_replicas, hr, Option.map_some, hsuspends] at hr'
    obtain rfl := Option.some.inj hr'
    exact settledCopy_suspended _ (hcommit.trans uncommitted)
  withholds _ k v hv live := by
    obtain ⟨r, hr, rfl⟩ := abs_replicas_eq_some.mp hv
    obtain ⟨r', hr', hrecovered, -⟩ := recover_replica hr
    exact ⟨r'.view, abs_replicas hr', hrecovered.withheld_or_terminal live⟩

end Coherent

end StateFabric
