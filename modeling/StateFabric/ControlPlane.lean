import StateFabric.Library.OrderedMap
import StateFabric.Records

/-!
# The durable control plane

The in-memory image of the control plane (`src/detail/control_plane.cpp`), the redo effects
that are the only way a mutation changes it, and what is derived from it: replica set
membership, live counters and the structural checks made after a load.

An effect is a whole-record put, so what a batch of effects leaves in each map is the last
put under each key: `applyAll_states` and its siblings reduce every later argument about a
mutation to its list of effects.
-/

namespace StateFabric

open OrderedMap

/-- One redo effect. -/
inductive Effect
  | putState (record : StateGenerationRecord)
  | putCluster (record : ClusterRecord)
  | putReplica (record : ReplicaRecord)
  | putReplicaSet (record : ReplicaSetRecord)
  | putOperation (record : OperationRecord)
  | putAuthorization (record : TransferAuthorization)
  | putOwnership (record : OwnershipRecord)
  | putCompatibility (record : CompatibilityRecord)
  | putPlacementPolicy (record : PlacementPolicyRecord)
  | putReplicationPolicy (record : ReplicationPolicyRecord)
  | putCounters (counters : FabricCounters)
  | setEpoch (epoch : CoordinatorEpoch)
  | setNextId (value : UInt64)
  deriving DecidableEq

/-- In-memory image of the durable control plane. -/
structure ControlPlane where
  coordinatorId : CoordinatorId := {}
  coordinatorEpoch : CoordinatorEpoch := {}
  logicalTime : Tick := 0
  durableSequence : UInt64 := 0
  counters : FabricCounters := {}
  states : Std.ExtTreeMap StateKey StateGenerationRecord := ∅
  clusters : Std.ExtTreeMap ClusterId ClusterRecord := ∅
  replicas : Std.ExtTreeMap ReplicaId ReplicaRecord := ∅
  replicaSets : Std.ExtTreeMap StateKey ReplicaSetRecord := ∅
  operations : Std.ExtTreeMap OperationId OperationRecord := ∅
  authorizations : Std.ExtTreeMap OperationId TransferAuthorization := ∅
  ownership : Std.ExtTreeMap StateKey OwnershipRecord := ∅
  compatibilityRecords : Std.ExtTreeMap CompatibilityId CompatibilityRecord := ∅
  placementPolicies : Std.ExtTreeMap PlacementPolicyId PlacementPolicyRecord := ∅
  replicationPolicies : Std.ExtTreeMap ReplicationPolicyId ReplicationPolicyRecord := ∅
  nextId : UInt64 := 1
  replayGeneration : UInt64 := 1
  journalRecords : UInt64 := 0
  journalTailTruncated : UInt64 := 0
  snapshotsWritten : UInt64 := 0
  recovered : Bool := false
  persistenceEnabled : Bool := false
  persistenceHealthy : Bool := true
  persistenceDetail : Text := []

/-! ## Applying effects -/

/-- Moves the identity counter past a value; the counter wraps at the end of its range. -/
def bump (nextId value : UInt64) : UInt64 := if nextId ≤ value then value + 1 else nextId

/-- The identity values an effect moves the counter past. -/
def Effect.identities : Effect → List UInt64
  | .putState r =>
    [r.stateId.value, r.generation.value, r.compatibilityId.value, r.replicaSetId.value,
     r.reconstruction.reconstructionId.value]
  | .putCluster r =>
    [r.clusterId.value, r.incarnation.value, r.workerId.value, r.workerBootId.value]
  | .putReplica r =>
    [r.replicaId.value, r.replicaGeneration.value, r.transferId.value, r.operationId.value]
  | .putReplicaSet r => [r.replicaSetId.value, r.generation.value]
  | .putOperation r =>
    [r.operationId.value, r.migrationId.value, r.transferId.value, r.reservationId.value]
  | .putAuthorization r => [r.operationId.value, r.transferId.value, r.reservationId.value]
  | .putOwnership r => [r.commit.value]
  | .putCompatibility r => [r.compatibilityId.value, r.generation.value]
  | .putPlacementPolicy r => [r.placementPolicyId.value, r.generation.value]
  | .putReplicationPolicy r => [r.replicationPolicyId.value, r.generation.value]
  | .putCounters _ | .setEpoch _ | .setNextId _ => []

/-- The identity counter after an effect. -/
def Effect.nextIdAfter (e : Effect) (nextId : UInt64) : UInt64 :=
  match e with
  | .setNextId value => if nextId < value then value else nextId
  | e => e.identities.foldl bump nextId

/-- Applies one effect. -/
def ControlPlane.apply (p : ControlPlane) (e : Effect) : ControlPlane :=
  let p := { p with nextId := e.nextIdAfter p.nextId }
  match e with
  | .putState r => { p with states := p.states.insert r.key r }
  | .putCluster r => { p with clusters := p.clusters.insert r.clusterId r }
  | .putReplica r => { p with replicas := p.replicas.insert r.replicaId r }
  | .putReplicaSet r => { p with replicaSets := p.replicaSets.insert r.key r }
  | .putOperation r => { p with operations := p.operations.insert r.operationId r }
  | .putAuthorization r => { p with authorizations := p.authorizations.insert r.operationId r }
  | .putOwnership r => { p with ownership := p.ownership.insert r.key r }
  | .putCompatibility r =>
    { p with compatibilityRecords := p.compatibilityRecords.insert r.compatibilityId r }
  | .putPlacementPolicy r =>
    { p with placementPolicies := p.placementPolicies.insert r.placementPolicyId r }
  | .putReplicationPolicy r =>
    { p with replicationPolicies := p.replicationPolicies.insert r.replicationPolicyId r }
  | .putCounters counters => { p with counters := counters }
  | .setEpoch epoch =>
    if p.coordinatorEpoch < epoch then { p with coordinatorEpoch := epoch } else p
  | .setNextId _ => p

/-- Applies a batch of effects in order. -/
def ControlPlane.applyAll (p : ControlPlane) (effects : List Effect) : ControlPlane :=
  effects.foldl ControlPlane.apply p

namespace Effect

/-! The put an effect makes on each map, if any. -/

def state? : Effect → Option (StateKey × StateGenerationRecord)
  | .putState r => some (r.key, r)
  | _ => none

def cluster? : Effect → Option (ClusterId × ClusterRecord)
  | .putCluster r => some (r.clusterId, r)
  | _ => none

def replica? : Effect → Option (ReplicaId × ReplicaRecord)
  | .putReplica r => some (r.replicaId, r)
  | _ => none

def replicaSet? : Effect → Option (StateKey × ReplicaSetRecord)
  | .putReplicaSet r => some (r.key, r)
  | _ => none

def operation? : Effect → Option (OperationId × OperationRecord)
  | .putOperation r => some (r.operationId, r)
  | _ => none

def authorization? : Effect → Option (OperationId × TransferAuthorization)
  | .putAuthorization r => some (r.operationId, r)
  | _ => none

def ownership? : Effect → Option (StateKey × OwnershipRecord)
  | .putOwnership r => some (r.key, r)
  | _ => none

def compatibility? : Effect → Option (CompatibilityId × CompatibilityRecord)
  | .putCompatibility r => some (r.compatibilityId, r)
  | _ => none

def placementPolicy? : Effect → Option (PlacementPolicyId × PlacementPolicyRecord)
  | .putPlacementPolicy r => some (r.placementPolicyId, r)
  | _ => none

def replicationPolicy? : Effect → Option (ReplicationPolicyId × ReplicationPolicyRecord)
  | .putReplicationPolicy r => some (r.replicationPolicyId, r)
  | _ => none

end Effect

namespace ControlPlane

section Maps

variable {κ α : Type} [Ord κ] [Std.TransOrd κ]

/-- A map that one effect changes only by its own put is changed by a batch only by the
batch's puts. -/
theorem map_applyAll (get : ControlPlane → Std.ExtTreeMap κ α) (put : Effect → Option (κ × α))
    (p : ControlPlane) (effects : List Effect)
    (step : ∀ p e, get (apply p e) = insertAll (get p) (put e).toList := by
      intro p e; cases e <;> first | rfl | (simp only [apply]; split <;> rfl)) :
    get (p.applyAll effects) = insertAll (get p) (effects.filterMap put) := by
  induction effects generalizing p with
  | nil => rfl
  | cons e rest ih =>
    have hstep := step p e
    calc get (p.applyAll (e :: rest))
        = insertAll (get (p.apply e)) (rest.filterMap put) := ih (p.apply e)
      _ = insertAll (insertAll (get p) (put e).toList) (rest.filterMap put) := by rw [hstep]
      _ = insertAll (get p) ((put e).toList ++ rest.filterMap put) := (insertAll_append ..).symm
      _ = insertAll (get p) ((e :: rest).filterMap put) := by
          cases h : put e <;> simp [h]

end Maps

variable (p : ControlPlane) (effects : List Effect)

theorem applyAll_states :
    (p.applyAll effects).states = insertAll p.states (effects.filterMap Effect.state?) :=
  map_applyAll states Effect.state? p effects

theorem applyAll_clusters :
    (p.applyAll effects).clusters = insertAll p.clusters (effects.filterMap Effect.cluster?) :=
  map_applyAll clusters Effect.cluster? p effects

theorem applyAll_replicas :
    (p.applyAll effects).replicas = insertAll p.replicas (effects.filterMap Effect.replica?) :=
  map_applyAll replicas Effect.replica? p effects

theorem applyAll_replicaSets :
    (p.applyAll effects).replicaSets =
      insertAll p.replicaSets (effects.filterMap Effect.replicaSet?) :=
  map_applyAll replicaSets Effect.replicaSet? p effects

theorem applyAll_operations :
    (p.applyAll effects).operations =
      insertAll p.operations (effects.filterMap Effect.operation?) :=
  map_applyAll operations Effect.operation? p effects

theorem applyAll_authorizations :
    (p.applyAll effects).authorizations =
      insertAll p.authorizations (effects.filterMap Effect.authorization?) :=
  map_applyAll authorizations Effect.authorization? p effects

theorem applyAll_ownership :
    (p.applyAll effects).ownership =
      insertAll p.ownership (effects.filterMap Effect.ownership?) :=
  map_applyAll ownership Effect.ownership? p effects

theorem applyAll_compatibilityRecords :
    (p.applyAll effects).compatibilityRecords =
      insertAll p.compatibilityRecords (effects.filterMap Effect.compatibility?) :=
  map_applyAll compatibilityRecords Effect.compatibility? p effects

theorem applyAll_placementPolicies :
    (p.applyAll effects).placementPolicies =
      insertAll p.placementPolicies (effects.filterMap Effect.placementPolicy?) :=
  map_applyAll placementPolicies Effect.placementPolicy? p effects

theorem applyAll_replicationPolicies :
    (p.applyAll effects).replicationPolicies =
      insertAll p.replicationPolicies (effects.filterMap Effect.replicationPolicy?) :=
  map_applyAll replicationPolicies Effect.replicationPolicy? p effects

end ControlPlane

/-! ## Derived membership -/

/-- Builds a set member view from a replica record. -/
def makeMember (replica : ReplicaRecord) : ReplicaSetMember :=
  { replicaId := replica.replicaId
    replicaGeneration := replica.replicaGeneration
    clusterId := replica.location.clusterId
    clusterIncarnation := replica.location.clusterIncarnation
    region := replica.location.region
    failureDomain := replica.location.failureDomain
    authoritative := replicaCountsTowardReplicationFactor replica
    lifecycle := replica.lifecycle
    integrity := replica.integrity
    compatibility := replica.compatibility
    authority := replica.authority
    commitId := replica.commitId
    joinedAt := replica.updatedAt }

namespace ControlPlane

/-- The replica records in identity order. -/
def replicaList (p : ControlPlane) : List ReplicaRecord := p.replicas.toList.map Prod.snd

/-- The replicas of one state generation, in identity order. -/
def replicasOfState (p : ControlPlane) (key : StateKey) : List ReplicaRecord :=
  p.replicaList.filter fun replica => replica.key == key

/-- Rebuilds a replica set's membership from the replica records. -/
def rebuildReplicaSet (p : ControlPlane) (set : ReplicaSetRecord) : ReplicaSetRecord :=
  let live := (p.replicasOfState set.key).filter (!·.isTerminal)
  recomputeReplicaSet
    { set with
      authoritativeMembers :=
        (live.filter replicaCountsTowardReplicationFactor).map makeMember
      degradedMembers :=
        (live.filter (!replicaCountsTowardReplicationFactor ·)).map makeMember }

/-- The number of governed records. -/
def recordCount (p : ControlPlane) : Nat :=
  p.states.size + p.clusters.size + p.replicas.size + p.replicaSets.size + p.operations.size
    + p.authorizations.size + p.ownership.size + p.compatibilityRecords.size
    + p.placementPolicies.size + p.replicationPolicies.size

/-- The operation records in identity order. -/
def operationList (p : ControlPlane) : List OperationRecord := p.operations.toList.map Prod.snd

/-- Recomputes the counters that are derived from live operations. -/
def recomputeDerivedCounters (p : ControlPlane) : ControlPlane :=
  let active := p.operationList.filter (!·.isTerminal)
  let transfers := UInt64.ofNat
    (active.filter fun o => o.state == .transferring || o.state == .stagingDestination).length
  let reserved := active.foldl
    (fun total o => if o.transferBytes.known then total + o.transferBytes.bytes else total) 0
  { p with
    counters :=
      { p.counters with
        activeOperations := UInt64.ofNat active.length
        activeTransfers := transfers
        reservedBytes := reserved
        reservedTransferSlots := transfers } }

/-! ## Structural checks after a load -/

/-- What is wrong with a replica record, if anything. -/
def replicaProblem (p : ControlPlane) (entry : ReplicaId × ReplicaRecord) : Option Text :=
  let replica := entry.2
  if replica.replicaId ≠ entry.1 then
    some (text "replica map key does not match the replica identity")
  else if p.states[replica.key]?.isNone then
    some (text "replica " ++ replica.replicaId.str
      ++ text " references an unregistered state generation")
  else if p.clusters[replica.location.clusterId]?.isNone then
    some (text "replica " ++ replica.replicaId.str ++ text " references an unregistered cluster")
  else if replica.replicaSetId.valid && p.replicaSets[replica.key]?.isNone then
    some (text "replica " ++ replica.replicaId.str
      ++ text " references a missing replica set for its state generation")
  else none

/-- What is wrong with a replica set record, if anything. -/
def replicaSetProblem (p : ControlPlane) (entry : StateKey × ReplicaSetRecord) : Option Text :=
  if p.states[entry.1]?.isNone then
    some (text "replica set references an unregistered state generation")
  else
    (entry.2.authoritativeMembers.findSome? fun member =>
      if p.replicas[member.replicaId]?.isNone then
        some (text "replica set member " ++ member.replicaId.str
          ++ text " is not a registered replica")
      else none).or
    (entry.2.degradedMembers.findSome? fun member =>
      if p.replicas[member.replicaId]?.isNone then
        some (text "degraded replica set member " ++ member.replicaId.str
          ++ text " is not a registered replica")
      else none)

def operationProblem (p : ControlPlane) (entry : OperationId × OperationRecord) : Option Text :=
  if p.states[entry.2.key]?.isNone then
    some (text "operation " ++ entry.2.operationId.str
      ++ text " references an unregistered state generation")
  else none

def ownershipProblem (p : ControlPlane) (entry : StateKey × OwnershipRecord) : Option Text :=
  if p.states[entry.1]?.isNone then
    some (text "ownership record references an unregistered state generation")
  else none

def stateProblem (entry : StateKey × StateGenerationRecord) : Option Text :=
  if entry.2.key ≠ entry.1 then
    some (text "state map key does not match the state record identity")
  else none

/-- `validate`: the reason of the first violated structural invariant. -/
def validate (p : ControlPlane) : Option Text :=
  (p.replicas.toList.findSome? p.replicaProblem).or <|
  (p.replicaSets.toList.findSome? p.replicaSetProblem).or <|
  (p.operations.toList.findSome? p.operationProblem).or <|
  (p.ownership.toList.findSome? p.ownershipProblem).or <|
  p.states.toList.findSome? stateProblem

end ControlPlane

end StateFabric
