import StateFabric.Fabric.Replica

/-!
# Planning, authorization and transactions

`src/fabric_ops.cpp`: the evidence view of candidate clusters, the authorization of a
replication or migration, its commit and cancellation, ownership handoff, and the reuse
question.

An authorized operation remembers the generation its replica set had; `commitOperation`
refuses when the set has moved on since.
-/

namespace StateFabric

/-! ## Candidates -/

/-- The durability a new copy of a state may achieve. -/
def achievableDurability (durability : DurabilityClass) : ReplicaDurabilityState :=
  if durability = .archival then .archival
  else if WireEnum.code DurabilityClass.durable ≤ WireEnum.code durability then .durable
  else .standard

/-- `build_candidate`: the evidence view of one candidate cluster. -/
def buildCandidate (p : ControlPlane) (config : FabricConfig) (cluster : ClusterRecord)
    (state : StateGenerationRecord) (source : Option ReplicaRecord) : PlacementCandidate :=
  let transferBytes := (source.map (·.logicalSize)).getD state.logicalSize
  let requirement := state.compatibilityRequirement
  let costs := config.defaultPlacementPolicy.costPolicy
  let hosted := p.replicaList.filter fun replica =>
    replica.stateId == state.stateId && replica.location.clusterId == cluster.clusterId
      && !replica.isTerminal
  { clusterId := cluster.clusterId
    clusterIncarnation := if cluster.liveAuthority then cluster.incarnation else {}
    region := cluster.location.region
    failureDomain := cluster.location.failureDomain
    health := cluster.health
    capabilities := cluster.capabilities
    capacity := cluster.capacity
    evidence := cluster.evidence
    logicalSize := state.logicalSize
    transferBytes := transferBytes
    expectedReuse := state.expectedReuse
    achievableDurability := achievableDurability state.durability
    compatibility :=
      evaluateCompatibility requirement (some (clusterCompatibilityDescriptor cluster))
        requirement.generation false
    integrityEvidenceAvailable := source.any (·.integrity == .verified)
    transferCost := costs.priceBytes costs.transferMicroPerMib transferBytes
    storageCost := costs.priceBytes costs.storageMicroPerMibTick state.logicalSize
    computeCost := costs.priceBytes costs.computeMicroPerMib state.logicalSize
    reconstructionCost :=
      if state.reconstruction.estimatedCost.known then state.reconstruction.estimatedCost
      else costs.priceBytes costs.computeMicroPerMib state.logicalSize
    predictedTransferTicks :=
      let rate := cluster.capacity.inboundBytesPerTick
      if 0 < rate && transferBytes.known then (transferBytes.bytes + rate - 1) / rate else 0
    sourceClusterHealthy := source.any (·.availability == .present)
    existingReplicaCount := UInt32.ofNat hosted.length
    alreadyHostsCurrentReplica :=
      hosted.any fun replica =>
        replica.commitRecorded && replica.stateGeneration == state.generation
    inFlightOperations :=
      UInt32.ofNat (p.operationList.filter fun o =>
        !o.isTerminal && o.destinationCluster == cluster.clusterId).length }

/-- `build_request`, with the candidates it is asked about. -/
def buildRequest (p : ControlPlane) (key : StateKey) (set : ReplicaSetRecord)
    (policy : ReplicationPolicyRecord) (placement : PlacementPolicyRecord)
    (source : Option ReplicaRecord) (intent : DecisionKind)
    (candidates : List PlacementCandidate) : PlacementRequest :=
  { stateId := key.stateId
    stateGeneration := key.generation
    policy := placement
    replicationPolicy := policy
    intent := intent
    now := p.logicalTime
    preferredSource := (source.map (·.location.clusterId)).getD {}
    candidates := candidates
    currentClusters := set.authoritativeMembers.map (·.clusterId)
    currentRegions := set.authoritativeMembers.map (·.region)
    currentFailureDomains := set.authoritativeMembers.map (·.failureDomain) }

/-- The clusters placement considers. -/
def ControlPlane.placeableClusters (p : ControlPlane) : List ClusterRecord :=
  (p.clusters.toList.map Prod.snd).filter (·.lifecycle != .retired)

def planInto (p : ControlPlane) (config : FabricConfig) (state : StateGenerationRecord)
    (set : ReplicaSetRecord) (policy : ReplicationPolicyRecord)
    (placement : PlacementPolicyRecord) (intent : DecisionKind) : PlacementEvaluation :=
  let source := selectSourceReplica p state.key {} (some policy)
  let candidates := p.placeableClusters.map fun cluster =>
    buildCandidate p config cluster state source
  evaluatePlacement (buildRequest p state.key set policy placement source intent candidates)
    (some state)

/-- A plan without authority: `plan_replication` and `plan_migration`. -/
def planOperation (p : ControlPlane) (config : FabricConfig) (key : StateKey)
    (replicationPolicyId : ReplicationPolicyId) (placementPolicyId : PlacementPolicyId)
    (intent : DecisionKind) : Result PlacementEvaluation := do
  let state ← found p.states[key]?
    (makeError .unknownState (text "the state generation is not registered"))
  let set ← found p.replicaSets[key]?
    (makeError .unknownState (text "no replica set exists for that generation"))
  let policy ← found (resolveReplicationPolicy p config replicationPolicyId)
    (makeError .unknownPolicy (text "no replication policy is available"))
  let placement ← found (resolvePlacementPolicy p config placementPolicyId)
    (makeError .unknownPolicy (text "no placement policy is available"))
  pure (planInto p config state set policy placement intent)

def planReplication (p : ControlPlane) (config : FabricConfig) (request : ReplicationRequest) :
    Result PlacementEvaluation :=
  planOperation p config ⟨request.stateId, request.stateGeneration⟩
    request.replicationPolicy.replicationPolicyId request.placementPolicy.placementPolicyId
    .replicate

def planMigration (p : ControlPlane) (config : FabricConfig) (request : MigrationRequest) :
    Result PlacementEvaluation :=
  planOperation p config ⟨request.stateId, request.stateGeneration⟩
    request.replicationPolicy.replicationPolicyId request.placementPolicy.placementPolicyId
    .migrate

/-! ## Authorization -/

/-- What an authorization decided before it mints anything. -/
structure TransferPlan where
  key : StateKey
  state : StateGenerationRecord
  set : ReplicaSetRecord
  policy : ReplicationPolicyRecord
  placement : PlacementPolicyRecord
  source : ReplicaRecord
  destinationCluster : ClusterRecord
  chosen : ClusterId
  kind : OperationKind
  destructiveMove : Bool

namespace TransferPlan

/-- The operation record an authorization mints. -/
def operation (plan : TransferPlan) (inputs : MutationInputs) : OperationRecord :=
  let next := inputs.plane.nextId
  let transferId : TransferId := ⟨next + 2⟩
  { operationId := ⟨next⟩
    operationGeneration := ⟨1⟩
    kind := plan.kind
    state := .reserved
    stateId := plan.key.stateId
    stateGeneration := plan.key.generation
    sourceReplica := plan.source.replicaId
    sourceReplicaGeneration := plan.source.replicaGeneration
    sourceCluster := plan.source.location.clusterId
    sourceIncarnation := plan.source.location.clusterIncarnation
    destinationReplica := ⟨next + 4⟩
    destinationReplicaGeneration := ⟨1⟩
    destinationCluster := plan.chosen
    destinationIncarnation := plan.destinationCluster.incarnation
    migrationId := ⟨next + 1⟩
    migrationGeneration := ⟨1⟩
    transferId := transferId
    transferGeneration := ⟨1⟩
    reservationId := ⟨next + 3⟩
    reservationGeneration := ⟨1⟩
    sourceReplicaSetGeneration := plan.set.generation
    placementGeneration := plan.set.placementGeneration
    placementPolicyGeneration := plan.placement.generation
    replicationPolicyGeneration := plan.policy.generation
    replicationPolicyId := plan.policy.replicationPolicyId
    replicationPolicyGenerationRecorded := plan.policy.generation
    placementPolicyId := plan.placement.placementPolicyId
    plannedEpoch := inputs.plane.coordinatorEpoch
    lastEpoch := inputs.plane.coordinatorEpoch
    transferBytes := if plan.source.logicalSize.known then plan.source.logicalSize
      else plan.state.logicalSize
    transferredBytes := .of 0
    expectedDigest := plan.state.contentDigest
    failureAction := plan.policy.failureAction
    plannedAt := inputs.tick
    updatedAt := inputs.tick
    reservationExpiresAt := inputs.tick + reservationWindowTicks
    destructiveMove := plan.destructiveMove
    reason := text "authorized by deterministic placement under placement policy "
      ++ plan.placement.placementPolicyId.str ++ text " and replication policy "
      ++ plan.policy.replicationPolicyId.str
    journal := [text "planned destination cluster " ++ plan.chosen.str,
      text "reserved transfer " ++ transferId.str] }

/-- The destination replica an authorization reserves. -/
def destination (plan : TransferPlan) (inputs : MutationInputs) : ReplicaRecord :=
  let operation := plan.operation inputs
  { replicaId := operation.destinationReplica
    replicaGeneration := ⟨1⟩
    stateId := plan.key.stateId
    stateGeneration := plan.key.generation
    replicaSetId := plan.set.replicaSetId
    replicaSetGeneration := plan.set.generation
    location :=
      { clusterId := plan.chosen
        clusterIncarnation := plan.destinationCluster.incarnation
        region := plan.destinationCluster.location.region
        site := plan.destinationCluster.location.site
        failureDomain := plan.destinationCluster.location.failureDomain
        descriptor := plan.destinationCluster.location.descriptor }
    lifecycle := .reserved
    integrity := .unverified
    compatibility := .unknown
    durability := .unknown
    availability := .unknown
    authority := .candidate
    contentDigest := plan.state.contentDigest
    digestAlgorithm := plan.state.digestAlgorithm
    compatibilityId := plan.state.compatibilityId
    compatibilityGeneration := plan.state.compatibilityGeneration
    logicalSize := plan.state.logicalSize
    transferredBytes := .of 0
    provenance :=
      { producer := text "cross-cluster-state-fabric"
        originCluster := plan.source.location.clusterId
        originIncarnation := plan.source.location.clusterIncarnation
        sourceGeneration := plan.key.generation
        sourceReplica := plan.source.replicaId
        operation := operation.operationId
        workerBoot := plan.source.workerBootId
        coordinatorEpoch := inputs.plane.coordinatorEpoch
        recordedAt := inputs.tick }
    workerId := plan.destinationCluster.workerId
    workerBootId := plan.destinationCluster.workerBootId
    createdEpoch := inputs.plane.coordinatorEpoch
    lastEpoch := inputs.plane.coordinatorEpoch
    createdAt := inputs.tick
    updatedAt := inputs.tick
    transferId := operation.transferId
    transferGeneration := operation.transferGeneration
    operationId := operation.operationId
    operationGeneration := operation.operationGeneration }

/-- The authorization handed to the requester. -/
def authorization (plan : TransferPlan) (inputs : MutationInputs) : TransferAuthorization :=
  let operation := plan.operation inputs
  { operationId := operation.operationId
    operationGeneration := operation.operationGeneration
    kind := plan.kind
    migrationId := operation.migrationId
    migrationGeneration := operation.migrationGeneration
    transferId := operation.transferId
    transferGeneration := operation.transferGeneration
    reservationId := operation.reservationId
    reservationGeneration := operation.reservationGeneration
    stateId := plan.key.stateId
    stateGeneration := plan.key.generation
    replicaSetId := plan.set.replicaSetId
    replicaSetGeneration := plan.set.generation
    sourceReplica := plan.source.replicaId
    sourceReplicaGeneration := plan.source.replicaGeneration
    sourceCluster := plan.source.location.clusterId
    sourceIncarnation := plan.source.location.clusterIncarnation
    destinationReplica := operation.destinationReplica
    destinationReplicaGeneration := operation.destinationReplicaGeneration
    destinationCluster := plan.chosen
    destinationIncarnation := plan.destinationCluster.incarnation
    placementId := plan.set.placementId
    placementGeneration := plan.set.placementGeneration
    coordinatorEpoch := inputs.plane.coordinatorEpoch
    transferBytes := operation.transferBytes
    expectedDigest := plan.state.contentDigest
    digestAlgorithm := plan.state.digestAlgorithm
    reservationExpiresAt := operation.reservationExpiresAt
    authorizedAt := inputs.tick
    destructiveMove := plan.destructiveMove }

/-- The counters after an authorization. -/
def countersAfter (plan : TransferPlan) (inputs : MutationInputs) : FabricCounters :=
  let operation := plan.operation inputs
  let counters := inputs.plane.counters
  { counters with
    operationsPlanned := counters.operationsPlanned + 1
    operationsReserved := counters.operationsReserved + 1
    transfersStarted := counters.transfersStarted + 1
    reservedBytes := if operation.transferBytes.known then
        counters.reservedBytes + operation.transferBytes.bytes
      else counters.reservedBytes
    reservedTransferSlots := counters.reservedTransferSlots + 1 }

/-- The effects of an authorization. -/
def effects (plan : TransferPlan) (inputs : MutationInputs) : List Effect :=
  [.putOperation (plan.operation inputs),
   .putAuthorization (plan.authorization inputs),
   .putReplica (plan.destination inputs),
   bumpReplicaSetEffect inputs plan.key false,
   .putCounters (plan.countersAfter inputs),
   .setNextId (inputs.plane.nextId + 5)]

end TransferPlan

/-- What `authorize_replication` and `authorize_migration` ask for. -/
structure TransferRequest where
  key : StateKey
  destinationCluster : ClusterId
  sourceCluster : ClusterId
  kind : OperationKind
  destructiveMove : Bool
  replicationPolicyId : ReplicationPolicyId
  placementPolicyId : PlacementPolicyId
  expectedEpoch : CoordinatorEpoch

/-- The checks of `authorize_transaction`, up to the chosen destination. -/
def planTransfer (request : TransferRequest) (inputs : MutationInputs) : Result TransferPlan := do
  let p := inputs.plane
  rejectIf (staleEpoch request.expectedEpoch p.coordinatorEpoch)
    (makeError .staleEpoch
      (text "the request carries coordinator epoch " ++ request.expectedEpoch.str
        ++ text " but the current epoch is " ++ p.coordinatorEpoch.str))
  let state ← found p.states[request.key]?
    (makeError .unknownState (text "the state generation is not registered"))
  rejectIf (!state.isCurrent)
    (makeError .staleStateGeneration
      (text "only the current state generation may receive new authoritative copies"))
  let storedSet ← found p.replicaSets[request.key]?
    (makeError .unknownState (text "no replica set exists for that generation"))
  let set := p.rebuildReplicaSet storedSet
  let policy ← found (resolveReplicationPolicy p inputs.config request.replicationPolicyId)
    (makeError .unknownPolicy
      (text "no replication policy is configured, so eligibility cannot be evaluated"))
  let placement ← found (resolvePlacementPolicy p inputs.config request.placementPolicyId)
    (makeError .unknownPolicy (text "no placement policy is configured"))
  rejectIf (!operationCapacityAvailable p request.key.stateId
      policy.destinationRules.maximumInFlightOperationsPerState)
    (makeError .resourceExhausted
      (text ("the maximum number of in-flight operations for this state is already "
        ++ "reached")))
  let source ← found (selectSourceReplica p request.key request.sourceCluster (some policy))
    (makeError .noAuthoritativeReplica
      (text ("no replica currently holds authority as a replication source for this "
        ++ "state generation")))
  rejectIf (policy.sourceRules.requireHealthySource
      && !(p.clusters[source.location.clusterId]?.any
        (clusterAdmitsNewAuthority · .unknown 0 p.logicalTime)))
    (makeError .sourceIneligible
      (text "the source cluster does not hold current healthy evidence"))
  let candidates :=
    (p.placeableClusters.filter fun cluster =>
        !(request.destinationCluster.valid && cluster.clusterId != request.destinationCluster)).map
      fun cluster => buildCandidate p inputs.config cluster state (some source)
  rejectIf candidates.isEmpty
    (makeError .unknownCluster (text "the requested destination cluster is not registered"))
  let evaluation := evaluatePlacement
    (buildRequest p request.key set policy placement (some source)
      (if request.kind = .migration then .migrate else .replicate) candidates)
    (some state)
  rejectIf (!evaluation.chosenCluster.valid)
    (makeError .destinationIneligible
      (text "no legal destination exists" ++
        match evaluation.rejected with
        | [] => []
        | rejection :: _ => text ": " ++ rejection.constraint ++ text " - " ++ rejection.detail))
  let chosen := evaluation.chosenCluster
  rejectIf (chosen == source.location.clusterId && !policy.destinationRules.allowSameCluster)
    (makeError .destinationIneligible
      (text "the chosen destination is the source cluster and policy forbids that"))
  let noAuthority := makeError .destinationIneligible
    (text "the chosen destination cluster holds no live authority")
  let destinationCluster ← found p.clusters[chosen]? noAuthority
  rejectIf (!destinationCluster.liveAuthority) noAuthority
  pure
    { key := request.key, state := state, set := set, policy := policy, placement := placement
      source := source
      destinationCluster := destinationCluster, chosen := chosen, kind := request.kind
      destructiveMove := request.destructiveMove }

def authorizeTransaction (request : TransferRequest) (inputs : MutationInputs) :
    Result (Outcome TransferAuthorization) := do
  let plan ← planTransfer request inputs
  inputs.commit (plan.effects inputs) (plan.authorization inputs)

def authorizeReplication (request : ReplicationRequest) (inputs : MutationInputs) :
    Result (Outcome TransferAuthorization) :=
  authorizeTransaction
    { key := ⟨request.stateId, request.stateGeneration⟩
      destinationCluster := request.destinationCluster
      sourceCluster := request.sourceCluster
      kind := .replication
      destructiveMove := false
      replicationPolicyId := request.replicationPolicy.replicationPolicyId
      placementPolicyId := request.placementPolicy.placementPolicyId
      expectedEpoch := request.expectedCoordinatorEpoch }
    inputs

def authorizeMigration (request : MigrationRequest) (inputs : MutationInputs) :
    Result (Outcome TransferAuthorization) :=
  authorizeTransaction
    { key := ⟨request.stateId, request.stateGeneration⟩
      destinationCluster := request.destinationCluster
      sourceCluster := request.sourceCluster
      kind := .migration
      destructiveMove := request.retireSourceAfterCommit
      replicationPolicyId := request.replicationPolicy.replicationPolicyId
      placementPolicyId := request.placementPolicy.placementPolicyId
      expectedEpoch := request.expectedCoordinatorEpoch }
    inputs

/-! ## Commit -/

/-- The checks a commit and a cancellation share; `subject` names the message. -/
def guardOperation (p : ControlPlane) (operationId : OperationId)
    (generation : OperationGeneration) (expectedEpoch : CoordinatorEpoch) (subject : Text) :
    Result OperationRecord := do
  let existing ← found p.operations[operationId]?
    (makeError .unknownOperation (text "the operation is not registered"))
  rejectIf (staleEpoch expectedEpoch p.coordinatorEpoch)
    (makeError .staleEpoch (subject ++ text " carries a superseded coordinator epoch"))
  rejectIf (generation.valid && generation != existing.operationGeneration)
    (makeError .staleOperationGeneration
      (subject ++ text " names a superseded operation generation"))
  pure existing

/-- The operation once its destination is authoritative. -/
def completedOperation (inputs : MutationInputs) (existing : OperationRecord)
    (commitId : CommitId) (committed : ReplicaRecord) : OperationRecord :=
  OperationRecord.note
    { existing with
      state := .complete
      lastEpoch := inputs.plane.coordinatorEpoch
      commitId := commitId
      destinationVerified := true
      destinationCommitted := true
      recoveryRequired := false
      updatedAt := inputs.tick
      committedReplicaSetGeneration := committed.replicaSetGeneration }
    (text "destination committed as authoritative")

/-- The source a destructive move retires once its destination is committed. -/
def retiringSource (p : ControlPlane) (existing : OperationRecord) (commit : OperationCommit)
    (committed : ReplicaRecord) : Option ReplicaRecord :=
  if existing.destructiveMove && commit.retireSource then
    p.replicas[existing.sourceReplica]?.filter fun source =>
      !source.isTerminal && source.replicaId != committed.replicaId
  else none

/-- What `commit_operation` writes once the plan of the commit stands. -/
def operationCommitOutcome (inputs : MutationInputs) (existing : OperationRecord)
    (commit : OperationCommit) (plan : CommitPlan) : Result (Outcome OperationRecord) :=
  let counters := inputs.plane.counters
  let counters :=
    { counters with
      replicasCommitted := counters.replicasCommitted + 1
      ownershipTransfers := if plan.ownershipWritten then counters.ownershipTransfers + 1
        else counters.ownershipTransfers
      operationsCommitted := counters.operationsCommitted + 1 }
  let operation := completedOperation inputs existing commit.commitId plan.committed
  match retiringSource inputs.plane existing commit plan.committed with
  | none =>
    inputs.commit (plan.effects ++ [.putOperation operation, .putCounters counters]) operation
  | some source =>
    let retired := retiredReplica inputs source (text "retired after a legal destination commit")
    let operation := OperationRecord.note { operation with sourceRetired := true }
      (text "source retired after destination commit")
    inputs.commit
      (plan.effects ++
        [.putReplica retired, bumpReplicaSetEffect inputs retired.key true,
         .putOperation operation,
         .putCounters { counters with replicasRetired := counters.replicasRetired + 1 }])
      operation

/-- `commit_operation` (and `commit_migration`, which forwards to it). -/
def commitOperation (commit : OperationCommit) (inputs : MutationInputs) :
    Result (Outcome OperationRecord) := do
  let p := inputs.plane
  let existing ← guardOperation p commit.operationId commit.operationGeneration
    commit.expectedCoordinatorEpoch (text "commit")
  if existing.isTerminal then
    rejectIf (!((existing.state == .complete || existing.state == .addedToReplicaSet)
        && existing.commitId == commit.commitId))
      (makeError .commitConflict
        (text "the operation is already terminal under a different outcome"))
    inputs.commit [] existing
  else
    rejectIf (commit.retireSource && !existing.destructiveMove)
      (makeError .policyViolation
        (text "this operation was not authorized for destructive move semantics"))
    let destination ← found p.replicas[existing.destinationReplica]?
      (makeError .unknownReplica (text "the destination replica is not registered"))
    let state ← found p.states[existing.key]?
      (makeError .unknownState (text "the state generation is not registered"))
    let set ← found p.replicaSets[existing.key]?
      (makeError .unknownState (text "the replica set for this generation is gone"))
    rejectIf (existing.sourceReplicaSetGeneration.valid
        && set.generation != existing.sourceReplicaSetGeneration)
      (makeError .staleReplicaSetGeneration
        (text "the replica set changed after this operation was authorized"))
    rejectIf (destination.lifecycle != .prepared)
      (makeError .transferIncomplete
        (text "the destination is in lifecycle " ++ destination.lifecycle.str
          ++ text " and cannot become authoritative"))
    rejectIf (destination.integrity != .verified)
      (makeError .integrityUnknown (text "the destination has no verified integrity evidence"))
    rejectIf (destination.compatibility != .compatible)
      (makeError .compatibilityUnknown
        (text "the destination has no verified compatibility evidence"))
    rejectIf destination.evidence.revalidationRequired
      (makeError .revalidationRequired
        (text "the destination requires revalidation before commit"))
    let notLive := makeError .staleClusterIncarnation
      (text "the destination cluster incarnation is no longer live")
    let cluster ← found p.clusters[destination.location.clusterId]? notLive
    rejectIf (!cluster.liveAuthority
        || cluster.incarnation != destination.location.clusterIncarnation) notLive
    let policy := resolveReplicationPolicy p inputs.config existing.replicationPolicyId
    rejectIf (decide (maximumReplicasPerState policy
        ≤ (p.rebuildReplicaSet set).authoritativeCount))
      (makeError .overReplicated
        (text ("the replica set already holds the maximum permitted authoritative "
          ++ "replicas")))
    let plan ← planAuthoritativeCommit inputs destination state set commit.commitId
      (existing.kind == .migration || requiresSingleAuthoritativeOwner state.consistency)
      (existing.kind == .migration || existing.destructiveMove)
    operationCommitOutcome inputs existing commit plan

/-! ## Cancellation -/

/-- What a cancellation in a given state means. -/
def cancellationOutcome : OperationState → CancellationOutcome
  | .planned | .reserved | .stagingDestination => .cancelledBeforeTransfer
  | .transferring => .cancelledDuringTransfer
  | .transferred | .verifying | .prepared => .cancelledBeforeCommit
  | _ => .outcomeUnknown

/-- The operation once it is cancelled. -/
def cancelledOperation (inputs : MutationInputs) (existing : OperationRecord) (reason : Text) :
    OperationRecord :=
  let outcome := cancellationOutcome existing.state
  OperationRecord.note
    { existing with
      cancellation := outcome
      state := .cancelled
      lastEpoch := inputs.plane.coordinatorEpoch
      updatedAt := inputs.tick
      reason := reason
      destinationCommitted := false }
    (text "cancelled: " ++ outcome.str)

/-- The destination a cancellation abandons. -/
def abandonedReplica (inputs : MutationInputs) (replica : ReplicaRecord) : ReplicaRecord :=
  { replica with
    lifecycle := .abandoned
    authority := .none
    countsTowardFactor := false
    availability := .absent
    lastEpoch := inputs.plane.coordinatorEpoch
    updatedAt := inputs.tick
    lastError := text "the operation was cancelled" }

def cancelOperation (cancellation : OperationCancellation) (inputs : MutationInputs) :
    Result (Outcome OperationRecord) := do
  let p := inputs.plane
  let existing ← guardOperation p cancellation.operationId cancellation.operationGeneration
    cancellation.expectedCoordinatorEpoch (text "cancellation")
  if existing.state == .complete || existing.state == .addedToReplicaSet
      || existing.destinationCommitted then
    let operation := OperationRecord.note
      { existing with
        cancellation := .commitAlreadyAuthoritative
        updatedAt := inputs.tick }
      (text "cancellation refused: the destination commit is already authoritative")
    inputs.commit [.putOperation operation] operation
  else if existing.isTerminal then
    inputs.commit [] existing
  else
    let operation := cancelledOperation inputs existing cancellation.reason
    let counters := p.counters
    let counters := { counters with operationsCancelled := counters.operationsCancelled + 1 }
    match p.replicas[existing.destinationReplica]?.filter fun destination =>
        !destination.isTerminal && !destination.commitRecorded with
    | none => inputs.commit [.putOperation operation, .putCounters counters] operation
    | some destination =>
      let abandoned := abandonedReplica inputs destination
      inputs.commit
        [.putReplica abandoned, bumpReplicaSetEffect inputs abandoned.key true,
         .putOperation operation,
         .putCounters { counters with replicasAbandoned := counters.replicasAbandoned + 1 }]
        operation

/-! ## Ownership handoff -/

/-- The new owner of a handoff. -/
def promotedReplica (inputs : MutationInputs) (replica : ReplicaRecord) (commitId : CommitId) :
    ReplicaRecord :=
  { replica with
    authority := .authoritativeOwner
    lifecycle := .authoritative
    commitRecorded := true
    countsTowardFactor := true
    commitId := commitId
    provenance := { replica.provenance with commit := commitId }
    lastEpoch := inputs.plane.coordinatorEpoch
    updatedAt := inputs.tick }

/-- The ownership record after a handoff. -/
def handedOverOwnership (inputs : MutationInputs) (ownership : OwnershipRecord)
    (newOwner : ReplicaRecord) (commitId : CommitId) : OwnershipRecord :=
  { ownership with
    ownerReplica := newOwner.replicaId
    ownerReplicaGeneration := newOwner.replicaGeneration
    ownerCluster := newOwner.location.clusterId
    ownerIncarnation := newOwner.location.clusterIncarnation
    epoch := inputs.plane.coordinatorEpoch
    commit := commitId
    establishedAt := inputs.tick
    active := true }

def transferOwnership (request : OwnershipTransferRequest) (inputs : MutationInputs) :
    Result (Outcome OwnershipRecord) := do
  let p := inputs.plane
  let key : StateKey := ⟨request.stateId, request.stateGeneration⟩
  let state ← found p.states[key]?
    (makeError .unknownState (text "the state generation is not registered"))
  rejectIf (!requiresSingleAuthoritativeOwner state.consistency)
    (makeError .notSupported
      (text "this state consistency mode does not model single-writer ownership"))
  rejectIf (staleEpoch request.expectedCoordinatorEpoch p.coordinatorEpoch)
    (makeError .staleEpoch (text "handoff carries a superseded epoch"))
  let noOwner := makeError .authorityNotEstablished
    (text "no active authoritative owner exists to hand over")
  let ownership ← found p.ownership[key]? noOwner
  rejectIf (!ownership.active) noOwner
  if request.handoffCommit.valid && ownership.commit == request.handoffCommit
      && ownership.ownerReplica == request.newOwnerReplica then
    inputs.commit [] ownership
  else
    rejectIf (ownership.ownerReplica != request.expectedCurrentOwner)
      (makeError .splitBrainRisk
        (text "the expected current owner does not match the recorded owner"))
    let newOwner ← found p.replicas[request.newOwnerReplica]?
      (makeError .unknownReplica (text "the new owner replica is not registered"))
    rejectIf (request.newOwnerReplicaGeneration.valid
        && newOwner.replicaGeneration != request.newOwnerReplicaGeneration)
      (makeError .staleReplicaGeneration
        (text "the new owner replica generation is superseded"))
    rejectIf (newOwner.integrity != .verified || newOwner.compatibility != .compatible)
      (makeError .authorityNotEstablished
        (text ("the new owner must be a verified, compatible replica of this "
          ++ "generation")))
    rejectIf (!newOwner.commitRecorded && newOwner.lifecycle != .prepared)
      (makeError .transferIncomplete
        (text "the new owner must be prepared before ownership can be handed over"))
    rejectIf (newOwner.stateId != request.stateId
        || newOwner.stateGeneration != request.stateGeneration)
      (makeError .staleStateGeneration
        (text "the new owner replica does not host the requested state generation"))
    let noAuthority := makeError .staleClusterIncarnation
      (text "the new owner cluster holds no live authority")
    let cluster ← found p.clusters[newOwner.location.clusterId]? noAuthority
    rejectIf (!cluster.liveAuthority) noAuthority
    rejectIf (newOwner.location.clusterId != request.newOwnerCluster)
      (makeError .invalidArgument
        (text "the new owner cluster does not host the new owner replica"))
    rejectIf (cluster.incarnation != newOwner.location.clusterIncarnation)
      (makeError .staleClusterIncarnation
        (text "the new owner cluster incarnation is not live"))
    rejectIf (!request.handoffCommit.valid)
      (makeError .invalidArgument (text "a handoff commit identity is required"))
    let record := handedOverOwnership inputs ownership newOwner request.handoffCommit
    let promoted := promotedReplica inputs newOwner request.handoffCommit
    let counters := p.counters
    inputs.commit
      (demoteOwner inputs
          (p.replicas[ownership.ownerReplica]?.filter (·.replicaId != newOwner.replicaId))
          (text "ownership handed over")
        ++ [.putReplica promoted, bumpReplicaSetEffect inputs promoted.key true,
          .putOwnership record,
          .putCounters { counters with ownershipTransfers := counters.ownershipTransfers + 1 }])
      record

/-! ## Reuse -/

/-- The answer to a reuse question. -/
structure ReuseEvaluation where
  stateId : StateId := {}
  stateGeneration : StateGeneration := {}
  clusterId : ClusterId := {}
  decision : DecisionKind := .reject
  replica : ReplicaId := {}
  replicaGeneration : ReplicaGeneration := {}
  assessment : ReplicaAuthorityAssessment := {}
  code : ErrorCode := .noAuthoritativeReplica
  reason : Text := []
  findings : List Text := []
  deriving DecidableEq

/-- The state of the search over the replicas of one cluster. -/
structure ReuseSearch where
  best : Option ReplicaRecord := none
  assessment : ReplicaAuthorityAssessment := {}
  rejected : Option ReplicaRecord := none

/-- One step of the search: the lowest permitted identity wins; among refused replicas the
lowest identity is remembered.  The assessment kept is that of the last remembered replica. -/
def ReuseSearch.step (context : AuthorityContext) (search : ReuseSearch)
    (replica : ReplicaRecord) : ReuseSearch :=
  let assessment := assessReplicaAuthority replica context
  if assessmentPermitsReuse assessment then
    if search.best.all (replica.replicaId < ·.replicaId) then
      { search with best := some replica, assessment := assessment }
    else search
  else if search.rejected.all (replica.replicaId < ·.replicaId) then
    { search with rejected := some replica, assessment := assessment }
  else search

def evaluateReuse (p : ControlPlane) (config : FabricConfig) (key : StateKey)
    (clusterId : ClusterId) : ReuseEvaluation :=
  let evaluation : ReuseEvaluation :=
    { stateId := key.stateId, stateGeneration := key.generation, clusterId := clusterId }
  let label := stateGenerationLabel key.stateId key.generation
  match p.states[key]?, p.clusters[clusterId]? with
  | none, _ =>
    let reason := text "the state generation is not registered"
    { evaluation with code := .unknownState, reason := reason, findings := [reason] }
  | some _, none =>
    let reason := text "the cluster is not registered"
    { evaluation with code := .unknownCluster, reason := reason, findings := [reason] }
  | some state, some cluster =>
    let set := p.rebuildReplicaSet (p.replicaSets[key]?.getD {})
    let context : AuthorityContext :=
      { state := some state
        cluster := some cluster
        replicaSet := some set
        policy := resolveReplicationPolicy p config {}
        currentEpoch := p.coordinatorEpoch }
    let findings :=
      [text "state: " ++ label,
       text "state lifecycle: " ++ state.lifecycle.str,
       text "replica set generation: " ++ set.generation.str,
       text "replica set state: " ++ set.state.str,
       text "authoritative replicas: " ++ natText set.authoritativeCount.toNat
         ++ text " (minimum " ++ natText set.requirements.minimumAuthoritativeReplicas.toNat
         ++ text ")"]
    let hosted := (p.replicasOfState key).filter (·.location.clusterId == clusterId)
    let search := hosted.foldl (ReuseSearch.step context) {}
    match search.best with
    | some best =>
      { evaluation with
        replica := best.replicaId
        replicaGeneration := best.replicaGeneration
        assessment := search.assessment
        code := .ok
        decision := if clusterId == config.homeCluster then .reuseLocal else .reuseRemote
        findings := findings
          ++ (if state.isCurrent then []
              else [text ("historical generation: reuse is a historical read, "
                ++ "not current authority")])
          ++ [search.assessment.reason]
        reason := text "replica " ++ best.replicaId.str ++ text " in cluster " ++ clusterId.str
          ++ text " is authoritative for reuse of " ++ label }
    | none =>
      let code := if search.rejected.isSome then search.assessment.code
        else .noAuthoritativeReplica
      let reason := if search.rejected.isSome then search.assessment.reason
        else text "no replica of " ++ label ++ text " exists in cluster " ++ clusterId.str
      { evaluation with
        replica := (search.rejected.map (·.replicaId)).getD {}
        replicaGeneration := (search.rejected.map (·.replicaGeneration)).getD {}
        assessment := search.assessment
        code := code
        reason := reason
        findings := findings ++ [text "reuse rejected: " ++ reason]
          ++ ((p.replicasOfState key).filter replicaSurvivesClusterLoss).map fun candidate =>
            text "a durable historical copy exists as replica " ++ candidate.replicaId.str
              ++ text " in cluster " ++ candidate.location.clusterId.str
              ++ text " and remains durable without being reusable" }

end StateFabric
