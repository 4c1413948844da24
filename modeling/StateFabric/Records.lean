import StateFabric.Compatibility
import StateFabric.Policy

/-!
# Records of the control plane

The governed records (`cluster.hpp`, `state.hpp`, `replica.hpp`, `replica_set.hpp`,
`migration.hpp`, `authority.hpp`, `snapshot.hpp`) with the predicates `src/model.cpp` computes
from one record alone.  Defaults are those of the source.
-/

namespace StateFabric

/-! ## Clusters -/

def maxClusterTagCount : Nat := 128

/-- Capability evidence published by a cluster agent. -/
structure ClusterCapabilities where
  tags : List Text := []
  storageClasses : List Text := []
  acceleratorArchitectures : List Text := []
  encryptionAtRest : Bool := false
  attestation : Bool := false
  deriving DecidableEq

namespace ClusterCapabilities

def canonicalize (c : ClusterCapabilities) : ClusterCapabilities :=
  { c with
    tags := sortUnique c.tags
    storageClasses := sortUnique c.storageClasses
    acceleratorArchitectures := sortUnique c.acceleratorArchitectures }

def hasTag (c : ClusterCapabilities) (tag : Text) : Bool := c.tags.contains tag

def hasStorageClass (c : ClusterCapabilities) (storageClass : Text) : Bool :=
  c.storageClasses.contains storageClass

def hasAccelerator (c : ClusterCapabilities) (architecture : Text) : Bool :=
  c.acceleratorArchitectures.contains architecture

end ClusterCapabilities

/-- Capacity and pressure evidence published by a cluster agent. -/
structure ClusterCapacity where
  totalLogicalBytes : UInt64 := 0
  usedLogicalBytes : UInt64 := 0
  inboundBytesPerTick : UInt64 := 0
  freeTransferSlots : UInt32 := 0
  utilizationPerMille : UInt32 := 0
  deriving DecidableEq

def ClusterCapacity.freeLogicalBytes (c : ClusterCapacity) : UInt64 :=
  if c.totalLogicalBytes ≤ c.usedLogicalBytes then 0
  else c.totalLogicalBytes - c.usedLogicalBytes

def ClusterCapacity.hasRoomFor (c : ClusterCapacity) (bytes : UInt64) : Bool :=
  bytes ≤ c.freeLogicalBytes

/-- Where a cluster physically lives. -/
structure ClusterLocation where
  region : RegionId := {}
  site : SiteId := {}
  failureDomain : FailureDomainId := {}
  descriptor : Text := []
  deriving DecidableEq

/-- The evidence generations of a cluster incarnation. -/
structure ClusterEvidence where
  capabilityGeneration : CapabilityGeneration := {}
  healthGeneration : HealthGeneration := {}
  topologyGeneration : TopologyGeneration := {}
  costGeneration : CostGeneration := {}
  evidenceGeneration : EvidenceGeneration := {}
  publishedAt : Tick := 0
  coordinatorEpoch : CoordinatorEpoch := {}
  revalidationRequired : Bool := false
  present : Bool := false
  deriving DecidableEq

/-- Input to `register_cluster`. -/
structure ClusterRegistration where
  clusterId : ClusterId := {}
  region : RegionId := {}
  site : SiteId := {}
  failureDomain : FailureDomainId := {}
  locationDescriptor : Text := []
  workerId : WorkerId := {}
  workerBootId : WorkerBootId := {}
  capabilities : ClusterCapabilities := {}
  capacity : ClusterCapacity := {}
  health : ClusterHealthState := .healthy
  expectedCoordinatorEpoch : CoordinatorEpoch := {}
  forceReincarnation : Bool := false
  deriving DecidableEq

/-- Input to `publish_cluster_evidence`. -/
structure ClusterEvidenceUpdate where
  clusterId : ClusterId := {}
  incarnation : ClusterIncarnationId := {}
  health : ClusterHealthState := .healthy
  capabilities : ClusterCapabilities := {}
  capacity : ClusterCapacity := {}
  hasCapabilities : Bool := false
  hasCapacity : Bool := false
  expectedCoordinatorEpoch : CoordinatorEpoch := {}
  workerBootId : WorkerBootId := {}
  deriving DecidableEq

/-- The durable record of one cluster. -/
structure ClusterRecord where
  clusterId : ClusterId := {}
  incarnation : ClusterIncarnationId := {}
  lifecycle : ClusterLifecycle := .registered
  health : ClusterHealthState := .unknown
  location : ClusterLocation := {}
  workerId : WorkerId := {}
  workerBootId : WorkerBootId := {}
  capabilities : ClusterCapabilities := {}
  capacity : ClusterCapacity := {}
  evidence : ClusterEvidence := {}
  registeredEpoch : CoordinatorEpoch := {}
  lastEvidenceEpoch : CoordinatorEpoch := {}
  registeredAt : Tick := 0
  updatedAt : Tick := 0
  incarnationStartedAt : Tick := 0
  liveAuthority : Bool := false
  hostedReplicaCount : UInt32 := 0
  historicalReplicaCount : UInt32 := 0
  reincarnationCount : UInt32 := 0
  deriving DecidableEq

def clusterEvidenceIsCurrent (record : ClusterRecord) : Bool :=
  record.evidence.present && !record.evidence.revalidationRequired && record.liveAuthority

/-- Whether a cluster may receive new authority. -/
def clusterAdmitsNewAuthority (record : ClusterRecord) (requiredHealth : ClusterHealthState)
    (maximumEvidenceStalenessTicks : UInt64) (now : Tick) : Bool :=
  if !record.liveAuthority then false
  else if !record.evidence.present then false
  else if record.health ≠ .healthy ∧ record.health ≠ .degraded then false
  else if requiredHealth = .healthy ∧ record.health ≠ .healthy then false
  else if maximumEvidenceStalenessTicks ≠ 0 ∧ record.evidence.publishedAt < now
      ∧ maximumEvidenceStalenessTicks < now - record.evidence.publishedAt then false
  else true

/-! ## State generations -/

def maxFreeTextLength : Nat := 256

/-- Where a generation or replica came from. -/
structure StateProvenance where
  producer : Text := []
  originCluster : ClusterId := {}
  originIncarnation : ClusterIncarnationId := {}
  sourceGeneration : StateGeneration := {}
  sourceReplica : ReplicaId := {}
  operation : OperationId := {}
  workerBoot : WorkerBootId := {}
  coordinatorEpoch : CoordinatorEpoch := {}
  commit : CommitId := {}
  verification : Text := []
  recordedAt : Tick := 0
  revalidated : Bool := false
  revalidatedAt : Tick := 0
  deriving DecidableEq

/-- How a generation may be rebuilt instead of transferred. -/
structure ReconstructionIdentity where
  reconstructionId : ReconstructionId := {}
  method : Text := []
  outputSize : SizeValue := {}
  estimatedCost : CostValue := {}
  deterministic : Bool := false
  deriving DecidableEq

/-- Input to `register_state` and `publish_state_generation`. -/
structure StateGenerationSpec where
  stateId : StateId := {}
  generation : StateGeneration := {}
  lineage : LineageId := {}
  branch : Bool := false
  branchesFrom : StateGeneration := {}
  stateClass : StateClass := .opaqueState
  consistency : ConsistencyMode := .immutable
  logicalSize : SizeValue := {}
  physicalSize : SizeValue := {}
  contentDigest : Digest := {}
  digestAlgorithm : IntegrityAlgorithm := .sha256
  compatibilityId : CompatibilityId := {}
  compatibilityGeneration : CompatibilityGeneration := {}
  compatibilityRequired : CompatibilityDescriptor := {}
  reconstruction : ReconstructionIdentity := {}
  durability : DurabilityClass := .standard
  reuseClass : ReuseClass := .sharedRead
  placementConstraints : PlacementConstraints := {}
  replicationRequirements : ReplicationRequirements := {}
  provenance : StateProvenance := {}
  expectedReuse : ReuseValue := {}
  transferCost : CostValue := {}
  reconstructionCost : CostValue := {}
  deriving DecidableEq

/-- The durable record of one state generation. -/
structure StateGenerationRecord where
  stateId : StateId := {}
  generation : StateGeneration := {}
  lineage : LineageId := {}
  branch : Bool := false
  branchesFrom : StateGeneration := {}
  stateClass : StateClass := .opaqueState
  consistency : ConsistencyMode := .immutable
  lifecycle : StateGenerationLifecycle := .staged
  logicalSize : SizeValue := {}
  physicalSize : SizeValue := {}
  contentDigest : Digest := {}
  digestAlgorithm : IntegrityAlgorithm := .sha256
  compatibilityId : CompatibilityId := {}
  compatibilityGeneration : CompatibilityGeneration := {}
  compatibilityRequired : CompatibilityDescriptor := {}
  reconstruction : ReconstructionIdentity := {}
  durability : DurabilityClass := .standard
  reuseClass : ReuseClass := .sharedRead
  placementConstraints : PlacementConstraints := {}
  replicationRequirements : ReplicationRequirements := {}
  provenance : StateProvenance := {}
  expectedReuse : ReuseValue := {}
  transferCost : CostValue := {}
  reconstructionCost : CostValue := {}
  replicaSetId : ReplicaSetId := {}
  replicaSetGeneration : ReplicaSetGeneration := {}
  commit : CommitId := {}
  committedEpoch : CoordinatorEpoch := {}
  registeredAt : Tick := 0
  committedAt : Tick := 0
  revalidationRequired : Bool := false
  deriving DecidableEq

namespace StateGenerationRecord

/-- The key the record is stored under. -/
def key (r : StateGenerationRecord) : StateKey := ⟨r.stateId, r.generation⟩

def isCurrent (r : StateGenerationRecord) : Bool := r.lifecycle == .current

def isReusableGeneration (r : StateGenerationRecord) : Bool :=
  r.lifecycle == .current || r.lifecycle == .historical

end StateGenerationRecord

def stateGenerationLabel (stateId : StateId) (generation : StateGeneration) : Text :=
  text "S" ++ stateId.str ++ text " g" ++ generation.str

/-! ## Replicas -/

/-- The lifecycles of a replica whose bytes are still being staged. -/
def ReplicaLifecycle.isStagingPhase : ReplicaLifecycle → Bool
  | .planned | .reserved | .staging | .transferring => true
  | _ => false

/-- The lifecycles a completion report is accepted in. -/
def ReplicaLifecycle.acceptsCompletion : ReplicaLifecycle → Bool
  | .planned | .reserved | .staging | .transferring | .transferred | .verifying => true
  | _ => false

/-- The lifecycles a verification report is accepted in. -/
def ReplicaLifecycle.acceptsVerification : ReplicaLifecycle → Bool
  | .transferred | .verifying | .prepared | .authoritative | .degraded
  | .revalidationRequired => true
  | _ => false

/-- Where a replica lives. -/
structure ReplicaLocation where
  clusterId : ClusterId := {}
  clusterIncarnation : ClusterIncarnationId := {}
  region : RegionId := {}
  site : SiteId := {}
  failureDomain : FailureDomainId := {}
  descriptor : Text := []
  deriving DecidableEq

/-- The evidence a replica was last verified with. -/
structure ReplicaEvidence where
  integrityGeneration : IntegrityGeneration := {}
  compatibilityGeneration : CompatibilityGeneration := {}
  evidenceGeneration : EvidenceGeneration := {}
  capabilityGeneration : CapabilityGeneration := {}
  healthGeneration : HealthGeneration := {}
  verificationId : VerificationId := {}
  verifiedAt : Tick := 0
  coordinatorEpoch : CoordinatorEpoch := {}
  revalidationRequired : Bool := false
  integrityEvidencePresent : Bool := false
  compatibilityEvidencePresent : Bool := false
  deriving DecidableEq

/-- The durable record of one replica. -/
structure ReplicaRecord where
  replicaId : ReplicaId := {}
  replicaGeneration : ReplicaGeneration := {}
  stateId : StateId := {}
  stateGeneration : StateGeneration := {}
  replicaSetId : ReplicaSetId := {}
  replicaSetGeneration : ReplicaSetGeneration := {}
  location : ReplicaLocation := {}
  lifecycle : ReplicaLifecycle := .planned
  integrity : ReplicaIntegrityState := .unknown
  compatibility : ReplicaCompatibilityState := .unknown
  durability : ReplicaDurabilityState := .unknown
  availability : ReplicaAvailabilityState := .unknown
  authority : ReplicaAuthorityState := .none
  contentDigest : Digest := {}
  measuredDigest : Digest := {}
  digestAlgorithm : IntegrityAlgorithm := .sha256
  compatibilityId : CompatibilityId := {}
  compatibilityGeneration : CompatibilityGeneration := {}
  compatibilityDescriptor : CompatibilityDescriptor := {}
  logicalSize : SizeValue := {}
  transferredBytes : SizeValue := {}
  provenance : StateProvenance := {}
  evidence : ReplicaEvidence := {}
  workerId : WorkerId := {}
  workerBootId : WorkerBootId := {}
  createdEpoch : CoordinatorEpoch := {}
  lastEpoch : CoordinatorEpoch := {}
  createdAt : Tick := 0
  updatedAt : Tick := 0
  transferId : TransferId := {}
  transferGeneration : TransferGeneration := {}
  operationId : OperationId := {}
  operationGeneration : OperationGeneration := {}
  commitId : CommitId := {}
  attemptCount : UInt32 := 0
  lastError : Text := []
  commitRecorded : Bool := false
  countsTowardFactor : Bool := false
  deriving DecidableEq

namespace ReplicaRecord

/-- The state generation the replica belongs to. -/
def key (r : ReplicaRecord) : StateKey := ⟨r.stateId, r.stateGeneration⟩

def isTerminal (r : ReplicaRecord) : Bool := r.lifecycle == .retired || r.lifecycle == .abandoned

end ReplicaRecord

/-- True when the replica is counted toward the authoritative replication factor. -/
def replicaCountsTowardReplicationFactor (record : ReplicaRecord) : Bool :=
  if !record.commitRecorded || !record.countsTowardFactor then false
  else if record.integrity ≠ .verified then false
  else if record.compatibility ≠ .compatible then false
  else
    match record.lifecycle with
    | .authoritative | .degraded => true
    | _ => false

/-- True when the replica keeps historical metadata alive after its cluster disappears. -/
def replicaSurvivesClusterLoss (record : ReplicaRecord) : Bool :=
  if record.isTerminal then false
  else
    match record.durability with
    | .durable | .archival => record.commitRecorded
    | _ => false

/-- Input to `register_replica`. -/
structure ReplicaRegistration where
  replicaId : ReplicaId := {}
  stateId : StateId := {}
  stateGeneration : StateGeneration := {}
  replicaSetId : ReplicaSetId := {}
  replicaSetGeneration : ReplicaSetGeneration := {}
  replicaGeneration : ReplicaGeneration := {}
  lifecycle : ReplicaLifecycle := .planned
  durability : DurabilityClass := .standard
  logicalSize : SizeValue := {}
  contentDigest : Digest := {}
  digestAlgorithm : IntegrityAlgorithm := .sha256
  compatibilityId : CompatibilityId := {}
  compatibilityGeneration : CompatibilityGeneration := {}
  compatibilityDescriptor : CompatibilityDescriptor := {}
  location : ReplicaLocation := {}
  workerId : WorkerId := {}
  workerBootId : WorkerBootId := {}
  expectedCoordinatorEpoch : CoordinatorEpoch := {}
  provenance : StateProvenance := {}
  transferId : TransferId := {}
  transferGeneration : TransferGeneration := {}
  operationId : OperationId := {}
  operationGeneration : OperationGeneration := {}
  deriving DecidableEq

/-- Input to `record_transfer_progress`. -/
structure TransferProgress where
  transferId : TransferId := {}
  transferGeneration : TransferGeneration := {}
  replicaId : ReplicaId := {}
  replicaGeneration : ReplicaGeneration := {}
  operationId : OperationId := {}
  operationGeneration : OperationGeneration := {}
  clusterId : ClusterId := {}
  clusterIncarnation : ClusterIncarnationId := {}
  workerBootId : WorkerBootId := {}
  expectedCoordinatorEpoch : CoordinatorEpoch := {}
  bytesTransferred : UInt64 := 0
  failed : Bool := false
  failureReason : Text := []
  deriving DecidableEq

/-- Input to `record_transfer_completion`. -/
structure TransferCompletion where
  transferId : TransferId := {}
  transferGeneration : TransferGeneration := {}
  replicaId : ReplicaId := {}
  replicaGeneration : ReplicaGeneration := {}
  operationId : OperationId := {}
  operationGeneration : OperationGeneration := {}
  clusterId : ClusterId := {}
  clusterIncarnation : ClusterIncarnationId := {}
  workerBootId : WorkerBootId := {}
  expectedCoordinatorEpoch : CoordinatorEpoch := {}
  bytesTransferred : UInt64 := 0
  measuredDigest : Digest := {}
  digestAlgorithm : IntegrityAlgorithm := .sha256
  transferComplete : Bool := true
  detail : Text := []
  deriving DecidableEq

/-- Input to `verify_replica`. -/
structure ReplicaVerification where
  verificationId : VerificationId := {}
  replicaId : ReplicaId := {}
  replicaGeneration : ReplicaGeneration := {}
  operationId : OperationId := {}
  operationGeneration : OperationGeneration := {}
  clusterId : ClusterId := {}
  clusterIncarnation : ClusterIncarnationId := {}
  workerBootId : WorkerBootId := {}
  expectedCoordinatorEpoch : CoordinatorEpoch := {}
  integrityVerified : Bool := false
  measuredDigest : Digest := {}
  digestAlgorithm : IntegrityAlgorithm := .sha256
  compatibilityVerified : Bool := false
  compatibilityId : CompatibilityId := {}
  compatibilityGeneration : CompatibilityGeneration := {}
  compatibilityDescriptor : CompatibilityDescriptor := {}
  establishedDurability : DurabilityClass := .standard
  verifiedBytes : UInt64 := 0
  detail : Text := []
  deriving DecidableEq

/-- Input to `commit_replica`. -/
structure ReplicaCommit where
  replicaId : ReplicaId := {}
  replicaGeneration : ReplicaGeneration := {}
  commitId : CommitId := {}
  operationId : OperationId := {}
  operationGeneration : OperationGeneration := {}
  expectedCoordinatorEpoch : CoordinatorEpoch := {}
  expectedReplicaSetGeneration : ReplicaSetGeneration := {}
  makeAuthoritativeOwner : Bool := false
  addToReplicaSet : Bool := true
  requireIntegrityVerified : Bool := true
  requireCompatibilityVerified : Bool := true
  deriving DecidableEq

/-- Input to `retire_replica`, `quarantine_replica` and `revalidate_replica`. -/
structure ReplicaTransition where
  replicaId : ReplicaId := {}
  replicaGeneration : ReplicaGeneration := {}
  operationId : OperationId := {}
  operationGeneration : OperationGeneration := {}
  expectedCoordinatorEpoch : CoordinatorEpoch := {}
  clusterIncarnation : ClusterIncarnationId := {}
  workerBootId : WorkerBootId := {}
  reason : Text := []
  deriving DecidableEq

/-! ## Replica sets -/

/-- One member of a replica set generation. -/
structure ReplicaSetMember where
  replicaId : ReplicaId := {}
  replicaGeneration : ReplicaGeneration := {}
  clusterId : ClusterId := {}
  clusterIncarnation : ClusterIncarnationId := {}
  region : RegionId := {}
  failureDomain : FailureDomainId := {}
  authoritative : Bool := false
  lifecycle : ReplicaLifecycle := .planned
  integrity : ReplicaIntegrityState := .unknown
  compatibility : ReplicaCompatibilityState := .unknown
  authority : ReplicaAuthorityState := .none
  commitId : CommitId := {}
  joinedAt : Tick := 0
  deriving DecidableEq

/-- The authoritative membership of one state generation under one set of requirements. -/
structure ReplicaSetRecord where
  replicaSetId : ReplicaSetId := {}
  generation : ReplicaSetGeneration := {}
  stateId : StateId := {}
  stateGeneration : StateGeneration := {}
  state : ReplicaSetState := .noAuthoritativeReplica
  requirements : ReplicationRequirements := {}
  authoritativeMembers : List ReplicaSetMember := []
  degradedMembers : List ReplicaSetMember := []
  authoritativeCount : UInt32 := 0
  degradedCount : UInt32 := 0
  distinctClusters : UInt32 := 0
  distinctRegions : UInt32 := 0
  distinctFailureDomains : UInt32 := 0
  placementId : PlacementId := {}
  placementGeneration : PlacementGeneration := {}
  epoch : CoordinatorEpoch := {}
  lastCommit : CommitId := {}
  createdAt : Tick := 0
  updatedAt : Tick := 0
  revalidationRequired : Bool := false
  deriving DecidableEq

/-- The key the record is stored under. -/
def ReplicaSetRecord.key (r : ReplicaSetRecord) : StateKey := ⟨r.stateId, r.stateGeneration⟩

def ReplicaSetRecord.meetsRequirements (r : ReplicaSetRecord) : Bool :=
  if r.authoritativeCount < r.requirements.minimumAuthoritativeReplicas then false
  else if r.distinctClusters < r.requirements.clusterDiversity then false
  else if r.distinctRegions < r.requirements.regionDiversity then false
  else if r.distinctFailureDomains < r.requirements.failureDomainDiversity then false
  else true

/-- The number of distinct values, as the size of a `std::set`. -/
def distinctCount {α : Type} [Ord α] [Std.TransOrd α] (values : List α) : UInt32 :=
  UInt32.ofNat (sortUnique values).length

/-- Recomputes the derived fields of a replica set record from its membership. -/
def recomputeReplicaSet (record : ReplicaSetRecord) : ReplicaSetRecord :=
  let members := record.authoritativeMembers.filter (·.authoritative)
  let anyCorrupt := members.any fun m => m.integrity == .corrupt || m.integrity == .mismatch
  let anyIncompatible := members.any fun m => m.compatibility == .incompatible
  let anyUnverified := members.any fun m =>
    m.integrity != .verified || m.compatibility != .compatible
  let authoritative := UInt32.ofNat members.length
  let record : ReplicaSetRecord :=
    { record with
      authoritativeCount := authoritative
      degradedCount := UInt32.ofNat record.degradedMembers.length
      distinctClusters := distinctCount (members.map (·.clusterId))
      distinctRegions := distinctCount (members.map (·.region))
      distinctFailureDomains :=
        distinctCount ((members.map (·.failureDomain)).filter (·.valid)) }
  if record.state = .splitBrainRisk ∨ record.state = .rebuilding ∨ record.state = .retiring then
    record
  else
    { record with
      state :=
        if authoritative = 0 then .noAuthoritativeReplica
        else if anyIncompatible || anyCorrupt then .corrupt
        else if record.revalidationRequired || anyUnverified then .revalidationRequired
        else if record.requirements.maximumReplicas < authoritative then .overReplicated
        else if authoritative < record.requirements.minimumAuthoritativeReplicas then
          .underReplicated
        else if !record.meetsRequirements then .degraded
        else .healthy }

/-! ## Operations and ownership -/

def maxOperationJournalEntries : Nat := 512

/-- Request to replicate a state generation into another cluster. -/
structure ReplicationRequest where
  stateId : StateId := {}
  stateGeneration : StateGeneration := {}
  destinationCluster : ClusterId := {}
  sourceCluster : ClusterId := {}
  placementPolicy : PlacementPolicyRecord := {}
  replicationPolicy : ReplicationPolicyRecord := {}
  expectedCoordinatorEpoch : CoordinatorEpoch := {}
  desiredReplicasOverride : UInt32 := 0
  deriving DecidableEq

/-- Request to migrate a state generation to another cluster. -/
structure MigrationRequest where
  stateId : StateId := {}
  stateGeneration : StateGeneration := {}
  destinationCluster : ClusterId := {}
  sourceCluster : ClusterId := {}
  retireSourceAfterCommit : Bool := false
  allowSourceRetirementBeforeCommit : Bool := false
  placementPolicy : PlacementPolicyRecord := {}
  replicationPolicy : ReplicationPolicyRecord := {}
  expectedCoordinatorEpoch : CoordinatorEpoch := {}
  deriving DecidableEq

/-- Request to hand mutable ownership to another replica. -/
structure OwnershipTransferRequest where
  stateId : StateId := {}
  stateGeneration : StateGeneration := {}
  expectedCurrentOwner : ReplicaId := {}
  newOwnerReplica : ReplicaId := {}
  newOwnerReplicaGeneration : ReplicaGeneration := {}
  newOwnerCluster : ClusterId := {}
  handoffCommit : CommitId := {}
  expectedOperationGeneration : OperationGeneration := {}
  expectedCoordinatorEpoch : CoordinatorEpoch := {}
  deriving DecidableEq

/-- The authority a planned operation carries into its execution steps. -/
structure TransferAuthorization where
  operationId : OperationId := {}
  operationGeneration : OperationGeneration := {}
  kind : OperationKind := .replication
  migrationId : MigrationId := {}
  migrationGeneration : MigrationGeneration := {}
  transferId : TransferId := {}
  transferGeneration : TransferGeneration := {}
  reservationId : ReservationId := {}
  reservationGeneration : ReservationGeneration := {}
  stateId : StateId := {}
  stateGeneration : StateGeneration := {}
  replicaSetId : ReplicaSetId := {}
  replicaSetGeneration : ReplicaSetGeneration := {}
  sourceReplica : ReplicaId := {}
  sourceReplicaGeneration : ReplicaGeneration := {}
  sourceCluster : ClusterId := {}
  sourceIncarnation : ClusterIncarnationId := {}
  destinationReplica : ReplicaId := {}
  destinationReplicaGeneration : ReplicaGeneration := {}
  destinationCluster : ClusterId := {}
  destinationIncarnation : ClusterIncarnationId := {}
  placementId : PlacementId := {}
  placementGeneration : PlacementGeneration := {}
  coordinatorEpoch : CoordinatorEpoch := {}
  transferBytes : SizeValue := {}
  expectedDigest : Digest := {}
  digestAlgorithm : IntegrityAlgorithm := .sha256
  reservationExpiresAt : Tick := 0
  authorizedAt : Tick := 0
  destructiveMove : Bool := false
  deriving DecidableEq

/-- The durable record of one governed operation. -/
structure OperationRecord where
  operationId : OperationId := {}
  operationGeneration : OperationGeneration := {}
  kind : OperationKind := .replication
  state : OperationState := .planned
  stateId : StateId := {}
  stateGeneration : StateGeneration := {}
  sourceReplica : ReplicaId := {}
  sourceReplicaGeneration : ReplicaGeneration := {}
  sourceCluster : ClusterId := {}
  sourceIncarnation : ClusterIncarnationId := {}
  destinationReplica : ReplicaId := {}
  destinationReplicaGeneration : ReplicaGeneration := {}
  destinationCluster : ClusterId := {}
  destinationIncarnation : ClusterIncarnationId := {}
  migrationId : MigrationId := {}
  migrationGeneration : MigrationGeneration := {}
  transferId : TransferId := {}
  transferGeneration : TransferGeneration := {}
  reservationId : ReservationId := {}
  reservationGeneration : ReservationGeneration := {}
  replicationPolicyId : ReplicationPolicyId := {}
  replicationPolicyGenerationRecorded : ReplicationPolicyGeneration := {}
  placementPolicyId : PlacementPolicyId := {}
  sourceReplicaSetGeneration : ReplicaSetGeneration := {}
  committedReplicaSetGeneration : ReplicaSetGeneration := {}
  placementGeneration : PlacementGeneration := {}
  placementPolicyGeneration : PlacementPolicyGeneration := {}
  replicationPolicyGeneration : ReplicationPolicyGeneration := {}
  plannedEpoch : CoordinatorEpoch := {}
  lastEpoch : CoordinatorEpoch := {}
  commitId : CommitId := {}
  transferBytes : SizeValue := {}
  transferredBytes : SizeValue := {}
  expectedDigest : Digest := {}
  measuredDigest : Digest := {}
  failureAction : OperationFailureAction := .abandonDestination
  cancellation : CancellationOutcome := .outcomeUnknown
  plannedAt : Tick := 0
  updatedAt : Tick := 0
  reservationExpiresAt : Tick := 0
  destructiveMove : Bool := false
  sourceRetired : Bool := false
  destinationVerified : Bool := false
  destinationCommitted : Bool := false
  recoveryRequired : Bool := false
  reason : Text := []
  lastError : Text := []
  journal : List Text := []
  deriving DecidableEq

namespace OperationRecord

/-- The state generation the operation acts on. -/
def key (r : OperationRecord) : StateKey := ⟨r.stateId, r.stateGeneration⟩

def isTerminal (r : OperationRecord) : Bool :=
  match r.state with
  | .complete | .failed | .abandoned | .cancelled => true
  | _ => false

end OperationRecord

/-- Commit request for a prepared migration or replication. -/
structure OperationCommit where
  operationId : OperationId := {}
  operationGeneration : OperationGeneration := {}
  commitId : CommitId := {}
  expectedCoordinatorEpoch : CoordinatorEpoch := {}
  retireSource : Bool := false
  deriving DecidableEq

/-- Cancellation request for an in-flight operation. -/
structure OperationCancellation where
  operationId : OperationId := {}
  operationGeneration : OperationGeneration := {}
  expectedCoordinatorEpoch : CoordinatorEpoch := {}
  reason : Text := []
  deriving DecidableEq

/-- Single-writer ownership record for mutable state. -/
structure OwnershipRecord where
  stateId : StateId := {}
  stateGeneration : StateGeneration := {}
  ownerReplica : ReplicaId := {}
  ownerReplicaGeneration : ReplicaGeneration := {}
  ownerCluster : ClusterId := {}
  ownerIncarnation : ClusterIncarnationId := {}
  epoch : CoordinatorEpoch := {}
  commit : CommitId := {}
  placementId : PlacementId := {}
  placementGeneration : PlacementGeneration := {}
  establishedAt : Tick := 0
  active : Bool := true
  deriving DecidableEq

/-- The key the record is stored under. -/
def OwnershipRecord.key (r : OwnershipRecord) : StateKey := ⟨r.stateId, r.stateGeneration⟩

/-- True when a consistency mode demands single-writer authority. -/
def requiresSingleAuthoritativeOwner : ConsistencyMode → Bool
  | .singleWriter | .snapshot | .appendOnly => true
  | .immutable | .opaqueExternalConsistency => false

/-! ## Counters -/

/-- Monotone and derived counters of the runtime. -/
structure FabricCounters where
  statesRegistered : UInt64 := 0
  generationsRegistered : UInt64 := 0
  generationsCommitted : UInt64 := 0
  generationsSuperseded : UInt64 := 0
  clustersRegistered : UInt64 := 0
  clusterReincarnations : UInt64 := 0
  clusterIncarnationsFenced : UInt64 := 0
  replicasRegistered : UInt64 := 0
  replicasCommitted : UInt64 := 0
  replicasRetired : UInt64 := 0
  replicasQuarantined : UInt64 := 0
  replicasAbandoned : UInt64 := 0
  replicasFenced : UInt64 := 0
  operationsPlanned : UInt64 := 0
  operationsReserved : UInt64 := 0
  operationsCommitted : UInt64 := 0
  operationsFailed : UInt64 := 0
  operationsCancelled : UInt64 := 0
  operationsAbandoned : UInt64 := 0
  operationsRecovered : UInt64 := 0
  transfersStarted : UInt64 := 0
  transfersCompleted : UInt64 := 0
  bytesTransferred : UInt64 := 0
  integrityVerifications : UInt64 := 0
  integrityFailures : UInt64 := 0
  compatibilityRejections : UInt64 := 0
  staleRejections : UInt64 := 0
  conflictsRejected : UInt64 := 0
  durableCommits : UInt64 := 0
  journalRecordsApplied : UInt64 := 0
  snapshotsWritten : UInt64 := 0
  ownershipTransfers : UInt64 := 0
  activeOperations : UInt64 := 0
  activeTransfers : UInt64 := 0
  reservedBytes : UInt64 := 0
  reservedTransferSlots : UInt64 := 0
  deriving DecidableEq

end StateFabric
