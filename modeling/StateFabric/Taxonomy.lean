import StateFabric.Ids
import StateFabric.Library.WireEnum

/-!
# Taxonomy

The orthogonal dimensions of `include/ccsf/taxonomy.hpp` (and the small enumerations
of `cost.hpp`, `digest.hpp` and `policy.hpp`), each as its own inductive type, encoded as the
places of its values, and the names they are rendered with.
-/

namespace StateFabric

/-- Broad kind of reusable machine state. -/
inductive StateClass
  | opaqueState | tensorState | kvState | prefixState | checkpointState | compiledArtifact
  | modelComponent | executionSnapshot | cacheObject | intermediateResult | custom
  deriving DecidableEq

instance : WireEnum StateClass :=
  .numbered StateClass.ctorIdx StateClass.ofNat 11 (by rintro ⟨⟩ <;> rfl)

/-- Consistency semantics a state generation claims. -/
inductive ConsistencyMode
  | immutable | appendOnly | singleWriter | snapshot | opaqueExternalConsistency
  deriving DecidableEq

instance : WireEnum ConsistencyMode :=
  .numbered ConsistencyMode.ctorIdx ConsistencyMode.ofNat 5 (by rintro ⟨⟩ <;> rfl)

/-- `to_string`. -/
def ConsistencyMode.str : ConsistencyMode → Text
  | .immutable => text "IMMUTABLE"
  | .appendOnly => text "APPEND_ONLY"
  | .singleWriter => text "SINGLE_WRITER"
  | .snapshot => text "SNAPSHOT"
  | .opaqueExternalConsistency => text "OPAQUE_EXTERNAL_CONSISTENCY"

/-- Lifecycle of one state generation. -/
inductive StateGenerationLifecycle
  | staged | current | superseded | historical | invalid | corrupt | revalidationRequired
  | retired
  deriving DecidableEq

instance : WireEnum StateGenerationLifecycle :=
  .numbered StateGenerationLifecycle.ctorIdx StateGenerationLifecycle.ofNat 8 (by rintro ⟨⟩ <;> rfl)

/-- `to_string`. -/
def StateGenerationLifecycle.str : StateGenerationLifecycle → Text
  | .staged => text "STAGED"
  | .current => text "CURRENT"
  | .superseded => text "SUPERSEDED"
  | .historical => text "HISTORICAL"
  | .invalid => text "INVALID"
  | .corrupt => text "CORRUPT"
  | .revalidationRequired => text "REVALIDATION_REQUIRED"
  | .retired => text "RETIRED"

/-- Durability obligation attached to state or to a replica. -/
inductive DurabilityClass
  | unknown | volatile | ephemeral | standard | durable | archival
  deriving DecidableEq

instance : WireEnum DurabilityClass :=
  .numbered DurabilityClass.ctorIdx DurabilityClass.ofNat 6 (by rintro ⟨⟩ <;> rfl)

/-- `to_string`. -/
def DurabilityClass.str : DurabilityClass → Text
  | .unknown => text "UNKNOWN"
  | .volatile => text "VOLATILE"
  | .ephemeral => text "EPHEMERAL"
  | .standard => text "STANDARD"
  | .durable => text "DURABLE"
  | .archival => text "ARCHIVAL"

/-- How broadly a state generation may be reused. -/
inductive ReuseClass
  | unknown | sharedRead | sharedMutable | exclusive | archivalOnly
  deriving DecidableEq

instance : WireEnum ReuseClass :=
  .numbered ReuseClass.ctorIdx ReuseClass.ofNat 5 (by rintro ⟨⟩ <;> rfl)

/-- Observed health of a registered cluster. -/
inductive ClusterHealthState
  | unknown | healthy | degraded | unreachable | draining | failed
  deriving DecidableEq

instance : WireEnum ClusterHealthState :=
  .numbered ClusterHealthState.ctorIdx ClusterHealthState.ofNat 6 (by rintro ⟨⟩ <;> rfl)

/-- `to_string`. -/
def ClusterHealthState.str : ClusterHealthState → Text
  | .unknown => text "UNKNOWN"
  | .healthy => text "HEALTHY"
  | .degraded => text "DEGRADED"
  | .unreachable => text "UNREACHABLE"
  | .draining => text "DRAINING"
  | .failed => text "FAILED"

/-- Registration lifecycle of a cluster identity. -/
inductive ClusterLifecycle
  | registered | active | suspect | unreachable | reincarnated | retired
  deriving DecidableEq

instance : WireEnum ClusterLifecycle :=
  .numbered ClusterLifecycle.ctorIdx ClusterLifecycle.ofNat 6 (by rintro ⟨⟩ <;> rfl)

/-- Outcome of content integrity verification for one replica. -/
inductive ReplicaIntegrityState
  | unknown | unverified | verifying | verified | mismatch | corrupt
  deriving DecidableEq

instance : WireEnum ReplicaIntegrityState :=
  .numbered ReplicaIntegrityState.ctorIdx ReplicaIntegrityState.ofNat 6 (by rintro ⟨⟩ <;> rfl)

/-- Outcome of compatibility gating for one replica. -/
inductive ReplicaCompatibilityState
  | unknown | incompatible | compatible | revalidationRequired
  deriving DecidableEq

instance : WireEnum ReplicaCompatibilityState :=
  .numbered ReplicaCompatibilityState.ctorIdx ReplicaCompatibilityState.ofNat 4 (by rintro ⟨⟩ <;> rfl)

/-- Durability actually established for one replica. -/
inductive ReplicaDurabilityState
  | unknown | volatile | standard | durable | archival
  deriving DecidableEq

instance : WireEnum ReplicaDurabilityState :=
  .numbered ReplicaDurabilityState.ctorIdx ReplicaDurabilityState.ofNat 5 (by rintro ⟨⟩ <;> rfl)

/-- Observed availability of one replica. -/
inductive ReplicaAvailabilityState
  | unknown | present | absent | unreachable | draining
  deriving DecidableEq

instance : WireEnum ReplicaAvailabilityState :=
  .numbered ReplicaAvailabilityState.ctorIdx ReplicaAvailabilityState.ofNat 5 (by rintro ⟨⟩ <;> rfl)

/-- `to_string`. -/
def ReplicaAvailabilityState.str : ReplicaAvailabilityState → Text
  | .unknown => text "UNKNOWN"
  | .present => text "PRESENT"
  | .absent => text "ABSENT"
  | .unreachable => text "UNREACHABLE"
  | .draining => text "DRAINING"

/-- Authority dimension; authority is never inferred from presence. -/
inductive ReplicaAuthorityState
  | none | historical | candidate | authoritativeForReuse | authoritativeSource
  | authoritativeOwner | fenced
  deriving DecidableEq

instance : WireEnum ReplicaAuthorityState :=
  .numbered ReplicaAuthorityState.ctorIdx ReplicaAuthorityState.ofNat 7 (by rintro ⟨⟩ <;> rfl)

/-- Operational lifecycle of one replica. -/
inductive ReplicaLifecycle
  | planned | reserved | staging | transferring | transferred | verifying | prepared
  | authoritative | degraded | stale | revalidationRequired | superseded | quarantined
  | corrupt | retiring | retired | abandoned
  deriving DecidableEq

instance : WireEnum ReplicaLifecycle :=
  .numbered ReplicaLifecycle.ctorIdx ReplicaLifecycle.ofNat 17 (by rintro ⟨⟩ <;> rfl)

/-- `to_string`. -/
def ReplicaLifecycle.str : ReplicaLifecycle → Text
  | .planned => text "PLANNED"
  | .reserved => text "RESERVED"
  | .staging => text "STAGING"
  | .transferring => text "TRANSFERRING"
  | .transferred => text "TRANSFERRED"
  | .verifying => text "VERIFYING"
  | .prepared => text "PREPARED"
  | .authoritative => text "AUTHORITATIVE"
  | .degraded => text "DEGRADED"
  | .stale => text "STALE"
  | .revalidationRequired => text "REVALIDATION_REQUIRED"
  | .superseded => text "SUPERSEDED"
  | .quarantined => text "QUARANTINED"
  | .corrupt => text "CORRUPT"
  | .retiring => text "RETIRING"
  | .retired => text "RETIRED"
  | .abandoned => text "ABANDONED"

/-- Aggregate health of one replica set generation. -/
inductive ReplicaSetState
  | healthy | degraded | underReplicated | overReplicated | revalidationRequired
  | splitBrainRisk | noAuthoritativeReplica | corrupt | rebuilding | retiring
  deriving DecidableEq

instance : WireEnum ReplicaSetState :=
  .numbered ReplicaSetState.ctorIdx ReplicaSetState.ofNat 10 (by rintro ⟨⟩ <;> rfl)

/-- `to_string`. -/
def ReplicaSetState.str : ReplicaSetState → Text
  | .healthy => text "HEALTHY"
  | .degraded => text "DEGRADED"
  | .underReplicated => text "UNDER_REPLICATED"
  | .overReplicated => text "OVER_REPLICATED"
  | .revalidationRequired => text "REVALIDATION_REQUIRED"
  | .splitBrainRisk => text "SPLIT_BRAIN_RISK"
  | .noAuthoritativeReplica => text "NO_AUTHORITATIVE_REPLICA"
  | .corrupt => text "CORRUPT"
  | .rebuilding => text "REBUILDING"
  | .retiring => text "RETIRING"

/-- Result of gating a candidate against a compatibility requirement. -/
inductive CompatibilityResult
  | compatible | incompatible | unknown | revalidationRequired
  deriving DecidableEq

/-- `to_string`. -/
def CompatibilityResult.str : CompatibilityResult → Text
  | .compatible => text "COMPATIBLE"
  | .incompatible => text "INCOMPATIBLE"
  | .unknown => text "UNKNOWN"
  | .revalidationRequired => text "REVALIDATION_REQUIRED"

/-- Kind of governed cross-cluster operation. -/
inductive OperationKind
  | replication | migration | ownershipTransfer | retirement | revalidation | reconstruction
  deriving DecidableEq

instance : WireEnum OperationKind :=
  .numbered OperationKind.ctorIdx OperationKind.ofNat 6 (by rintro ⟨⟩ <;> rfl)

/-- Transactional state of a governed operation. -/
inductive OperationState
  | planned | reserved | stagingDestination | transferring | transferred | verifying | prepared
  | committed | addedToReplicaSet | sourceRetiring | complete | failed | abandoned | cancelled
  | outcomeUnknown
  deriving DecidableEq

instance : WireEnum OperationState :=
  .numbered OperationState.ctorIdx OperationState.ofNat 15 (by rintro ⟨⟩ <;> rfl)

/-- Terminal classification of a cancelled operation. -/
inductive CancellationOutcome
  | cancelledBeforeTransfer | cancelledDuringTransfer | cancelledBeforeCommit
  | commitAlreadyAuthoritative | outcomeUnknown
  deriving DecidableEq

instance : WireEnum CancellationOutcome :=
  .numbered CancellationOutcome.ctorIdx CancellationOutcome.ofNat 5 (by rintro ⟨⟩ <;> rfl)

/-- `to_string`. -/
def CancellationOutcome.str : CancellationOutcome → Text
  | .cancelledBeforeTransfer => text "CANCELLED_BEFORE_TRANSFER"
  | .cancelledDuringTransfer => text "CANCELLED_DURING_TRANSFER"
  | .cancelledBeforeCommit => text "CANCELLED_BEFORE_COMMIT"
  | .commitAlreadyAuthoritative => text "COMMIT_ALREADY_AUTHORITATIVE"
  | .outcomeUnknown => text "OUTCOME_UNKNOWN"

/-- Decision reported by placement and reuse evaluation. -/
inductive DecisionKind
  | reuseLocal | reuseRemote | replicate | migrate | reconstruct | defer | reject | unknown
  deriving DecidableEq

/-- Named replication policy forms. -/
inductive ReplicationPolicyForm
  | single | nReplicas | regionDiverse | clusterDiverse | policyCustom
  deriving DecidableEq

instance : WireEnum ReplicationPolicyForm :=
  .numbered ReplicationPolicyForm.ctorIdx ReplicationPolicyForm.ofNat 5 (by rintro ⟨⟩ <;> rfl)

/-- Behaviour permitted when a replica set is degraded. -/
inductive DegradedBehavior
  | rejectReuse | allowHistoricalReadOnly | allowVerifiedReadOnly
  deriving DecidableEq

instance : WireEnum DegradedBehavior :=
  .numbered DegradedBehavior.ctorIdx DegradedBehavior.ofNat 3 (by rintro ⟨⟩ <;> rfl)

/-- Action taken when a destination fails eligibility or verification. -/
inductive OperationFailureAction
  | abandonDestination | quarantineDestination | retainForRetry
  deriving DecidableEq

instance : WireEnum OperationFailureAction :=
  .numbered OperationFailureAction.ctorIdx OperationFailureAction.ofNat 3 (by rintro ⟨⟩ <;> rfl)

/-- Provenance of an economic or quantitative value. -/
inductive CostSource
  | unknown | measured | policy | estimated
  deriving DecidableEq

instance : WireEnum CostSource :=
  .numbered CostSource.ctorIdx CostSource.ofNat 4 (by rintro ⟨⟩ <;> rfl)

/-- `to_string`. -/
def CostSource.str : CostSource → Text
  | .unknown => text "UNKNOWN"
  | .measured => text "MEASURED"
  | .policy => text "POLICY"
  | .estimated => text "ESTIMATED"

/-- Integrity algorithms this build understands. -/
inductive IntegrityAlgorithm
  | none | sha256
  deriving DecidableEq

instance : WireEnum IntegrityAlgorithm :=
  .numbered IntegrityAlgorithm.ctorIdx IntegrityAlgorithm.ofNat 2 (by rintro ⟨⟩ <;> rfl)

/-- Named ranking factors, in the evaluation order of the planner. -/
inductive RankingFactor
  | expectedReuseValue | transferCost | reconstructionCost | availableBandwidth
  | predictedTransferDuration | storageCost | computeCost | regionAffinity | workloadAffinity
  | existingReplicaProximity | failureDomainDiversity | expectedFutureDemand | sourceHealth
  | destinationHealth | pressure | utilization
  deriving DecidableEq

end StateFabric
