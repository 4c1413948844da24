import StateFabric.Fabric.Cluster

/-!
# Replica mutations

`src/fabric_replica.cpp`: registration, transfer progress and completion, verification,
commit, retirement, quarantine and revalidation of one replica.  Every report about a replica
passes `guardReplica`, whose checks stand in a fixed order; revalidation has its own, because
it may cross a cluster incarnation.
-/

namespace StateFabric

open MutationInputs

/-- `guard_replica`: the replica a message is about, when its authority metadata is current. -/
def guardReplica (p : ControlPlane) (replicaId : ReplicaId) (generation : ReplicaGeneration)
    (incarnation : ClusterIncarnationId) (workerBoot : WorkerBootId)
    (expectedEpoch : CoordinatorEpoch) : Result ReplicaRecord := do
  let existing ← found p.replicas[replicaId]?
    (makeError .unknownReplica (text "the replica is not registered"))
  rejectIf (generation.valid && generation != existing.replicaGeneration)
    (makeError .staleReplicaGeneration
      (text "message names replica generation " ++ generation.str
        ++ text " but the current generation is " ++ existing.replicaGeneration.str))
  rejectIf (staleEpoch expectedEpoch p.coordinatorEpoch)
    (makeError .staleEpoch
      (text "message carries coordinator epoch " ++ expectedEpoch.str
        ++ text " but the current epoch is " ++ p.coordinatorEpoch.str))
  rejectIf (incarnation.valid && incarnation != existing.location.clusterIncarnation)
    (makeError .staleClusterIncarnation
      (text "message names cluster incarnation " ++ incarnation.str
        ++ text " but the replica was written under incarnation "
        ++ existing.location.clusterIncarnation.str))
  let cluster ← found p.clusters[existing.location.clusterId]?
    (makeError .unknownCluster (text "the hosting cluster is not registered"))
  rejectIf (!cluster.liveAuthority
      || cluster.incarnation != existing.location.clusterIncarnation)
    (makeError .staleClusterIncarnation
      (text "cluster " ++ existing.location.clusterId.str
        ++ text " is no longer at the incarnation that hosted this replica"))
  rejectIf (workerBoot.valid && existing.workerBootId.valid
      && workerBoot != existing.workerBootId)
    (makeError .staleWorker
      (text "message names worker boot " ++ workerBoot.str
        ++ text " but the replica was written under worker boot " ++ existing.workerBootId.str))
  rejectIf existing.isTerminal
    (makeError .illegalTransition
      (text "replica is " ++ existing.lifecycle.str ++ text " and accepts no further transitions"))
  pure existing

/-- The durability a replica of a durability class starts with. -/
def replicaDurability : DurabilityClass → ReplicaDurabilityState
  | .volatile => .volatile
  | .ephemeral | .standard => .standard
  | .durable => .durable
  | .archival => .archival
  | .unknown => .unknown

/-! ## Registration -/

/-- `a.valid() ? a : b`. -/
def StrongId.orElse {tag : IdTag} (a b : StrongId tag) : StrongId tag := if a.valid then a else b

/-- The record a registration creates. -/
def registeredReplica (registration : ReplicaRegistration) (inputs : MutationInputs)
    (state : StateGenerationRecord) (cluster : ClusterRecord)
    (incarnation : ClusterIncarnationId) (replicaId : ReplicaId) : ReplicaRecord :=
  let key : StateKey := ⟨registration.stateId, registration.stateGeneration⟩
  let set := inputs.plane.replicaSets[key]?
  { replicaId := replicaId
    replicaGeneration := registration.replicaGeneration.orElse ⟨1⟩
    stateId := registration.stateId
    stateGeneration := registration.stateGeneration
    replicaSetId := registration.replicaSetId.orElse ((set.map (·.replicaSetId)).getD {})
    replicaSetGeneration := (set.map (·.generation)).getD registration.replicaSetGeneration
    location :=
      { clusterId := registration.location.clusterId
        clusterIncarnation := incarnation
        region := registration.location.region.orElse cluster.location.region
        site := registration.location.site.orElse cluster.location.site
        failureDomain :=
          registration.location.failureDomain.orElse cluster.location.failureDomain
        descriptor := if registration.location.descriptor.isEmpty then
            cluster.location.descriptor
          else registration.location.descriptor }
    lifecycle := registration.lifecycle
    integrity := .unverified
    compatibility := .unknown
    durability := replicaDurability registration.durability
    availability := .unknown
    authority := .candidate
    contentDigest := if registration.contentDigest.valid then registration.contentDigest
      else state.contentDigest
    digestAlgorithm := registration.digestAlgorithm
    compatibilityId := registration.compatibilityId.orElse state.compatibilityId
    compatibilityGeneration := registration.compatibilityGeneration
    compatibilityDescriptor := registration.compatibilityDescriptor
    logicalSize := if registration.logicalSize.known then registration.logicalSize
      else state.logicalSize
    transferredBytes := SizeValue.of 0
    provenance := registration.provenance
    workerId := registration.workerId.orElse cluster.workerId
    workerBootId := registration.workerBootId.orElse cluster.workerBootId
    createdEpoch := inputs.plane.coordinatorEpoch
    lastEpoch := inputs.plane.coordinatorEpoch
    createdAt := inputs.tick
    updatedAt := inputs.tick
    transferId := registration.transferId
    transferGeneration := registration.transferGeneration
    operationId := registration.operationId
    operationGeneration := registration.operationGeneration }

def registerReplica (registration : ReplicaRegistration) (inputs : MutationInputs) :
    Result (Outcome ReplicaRecord) := do
  let key : StateKey := ⟨registration.stateId, registration.stateGeneration⟩
  let state ← found inputs.plane.states[key]?
    (makeError .unknownState (text "the state generation is not registered"))
  rejectIf (staleEpoch registration.expectedCoordinatorEpoch inputs.plane.coordinatorEpoch)
    (makeError .staleEpoch (text "registration carries a superseded epoch"))
  rejectIf (!registration.lifecycle.isStagingPhase)
    (makeError .illegalTransition
      (text ("a replica may only be registered as planned, reserved, staging or "
        ++ "transferring; authority requires an explicit commit")))
  let clusterId := registration.location.clusterId
  rejectIf (!clusterId.valid)
    (makeError .invalidArgument (text "a hosting cluster identity is required"))
  let cluster ← found inputs.plane.clusters[clusterId]?
    (makeError .unknownCluster (text "the hosting cluster is not registered"))
  rejectIf (!cluster.liveAuthority)
    (makeError .staleClusterIncarnation
      (text "cluster " ++ clusterId.str ++ text " does not hold live authority"))
  let incarnation := registration.location.clusterIncarnation.orElse cluster.incarnation
  rejectIf (incarnation != cluster.incarnation)
    (makeError .staleClusterIncarnation
      (text "the requested cluster incarnation is not the live incarnation"))
  match inputs.plane.replicas[registration.replicaId]? with
  | some existing =>
    rejectIf (!(existing.key == key && existing.location.clusterId == clusterId))
      (makeError .duplicateConflict (text "a replica with that identity already exists"))
    inputs.commit [] existing
  | none =>
    let (replicaId, next) := orMint registration.replicaId inputs.plane.nextId
    rejectIf inputs.plane.replicas[replicaId]?.isSome
      (makeError .duplicateConflict (text "replica identity collision"))
    let record := registeredReplica registration inputs state cluster incarnation replicaId
    let counters := inputs.plane.counters
    inputs.commit
      [.putReplica record, bumpReplicaSetEffect inputs record.key false,
       .putCounters { counters with replicasRegistered := counters.replicasRegistered + 1 },
       .setNextId next] record

/-! ## Transfer reports -/

/-- Refuses a report whose transfer is not the replica's current one. -/
def guardTransfer (replica : ReplicaRecord) (transferId : TransferId)
    (transferGeneration : TransferGeneration) (report : String) : Result Unit := do
  rejectIf (replica.transferId.valid && transferId.valid && transferId != replica.transferId)
    (makeError .staleTransferGeneration
      (text report ++ text " names a transfer that is not the current transfer"))
  rejectIf (replica.transferGeneration.valid && transferGeneration.valid
      && transferGeneration != replica.transferGeneration)
    (makeError .staleTransferGeneration
      (text report ++ text " names a superseded transfer generation"))

/-- The put that fails the operation a failed transfer report names, while it is live. -/
def failOperation (inputs : MutationInputs) (operationId : OperationId) (reason : Text) :
    List Effect :=
  match inputs.plane.operations[operationId]? with
  | none => []
  | some operation =>
    if operation.isTerminal then []
    else
      [.putOperation
        (OperationRecord.note
          { operation with
            state := .failed
            lastError := reason
            lastEpoch := inputs.plane.coordinatorEpoch
            updatedAt := inputs.tick }
          (text "transfer failed: " ++ reason))]

def recordTransferProgress (progress : TransferProgress) (inputs : MutationInputs) :
    Result (Outcome ReplicaRecord) := do
  let replica ← guardReplica inputs.plane progress.replicaId progress.replicaGeneration
    progress.clusterIncarnation progress.workerBootId progress.expectedCoordinatorEpoch
  guardTransfer replica progress.transferId progress.transferGeneration "progress"
  rejectIf (replica.operationId.valid && progress.operationId.valid
      && progress.operationId != replica.operationId)
    (makeError .staleOperationGeneration
      (text "progress names an operation that does not own this replica"))
  rejectIf (!replica.lifecycle.isStagingPhase)
    (makeError .illegalTransition
      (text "a replica in lifecycle " ++ replica.lifecycle.str
        ++ text " accepts no transfer progress"))
  let counters := inputs.plane.counters
  let counters :=
    if replica.lifecycle ≠ .transferring then
      { counters with transfersStarted := counters.transfersStarted + 1 }
    else counters
  let touched :=
    { replica with lastEpoch := inputs.plane.coordinatorEpoch, updatedAt := inputs.tick }
  if progress.failed then
    let revised :=
      { touched with
        lifecycle := .abandoned
        authority := .none
        countsTowardFactor := false
        availability := .absent
        lastError := progress.failureReason }
    let counters :=
      { counters with
        operationsFailed := counters.operationsFailed + 1
        replicasAbandoned := counters.replicasAbandoned + 1 }
    inputs.commitBeforeReturn
      (failOperation inputs progress.operationId progress.failureReason
        ++ [.putReplica revised, bumpReplicaSetEffect inputs revised.key false,
            .putCounters counters])
      (makeError .transferFailed progress.failureReason)
  else
    let revised :=
      { touched with
        lifecycle := .transferring
        transferredBytes := SizeValue.of progress.bytesTransferred }
    inputs.commit
      (advanceOperation inputs progress.operationId progress.operationGeneration .transferring
          (text "transfer in progress")
        ++ [.putReplica revised, bumpReplicaSetEffect inputs revised.key false,
            .putCounters counters])
      revised

def recordTransferCompletion (completion : TransferCompletion) (inputs : MutationInputs) :
    Result (Outcome ReplicaRecord) := do
  let replica ← guardReplica inputs.plane completion.replicaId completion.replicaGeneration
    completion.clusterIncarnation completion.workerBootId completion.expectedCoordinatorEpoch
  guardTransfer replica completion.transferId completion.transferGeneration "completion"
  rejectIf (!completion.transferComplete)
    (makeError .transferIncomplete
      (text "a transfer completion must assert that the transfer finished"))
  rejectIf (!replica.lifecycle.acceptsCompletion)
    (makeError .illegalTransition
      (text "a replica in lifecycle " ++ replica.lifecycle.str
        ++ text " accepts no transfer completion"))
  let counters := inputs.plane.counters
  let counters :=
    if replica.lifecycle ≠ .transferred ∧ replica.lifecycle ≠ .verifying then
      { counters with
        transfersCompleted := counters.transfersCompleted + 1
        bytesTransferred := counters.bytesTransferred + completion.bytesTransferred }
    else counters
  let measured :=
    { replica with
      lastEpoch := inputs.plane.coordinatorEpoch
      updatedAt := inputs.tick
      measuredDigest := completion.measuredDigest
      digestAlgorithm := completion.digestAlgorithm
      transferredBytes := SizeValue.of completion.bytesTransferred }
  let expected := (inputs.plane.states[replica.key]?.map (·.contentDigest)).getD {}
  if !completion.measuredDigest.valid then
    let revised := { measured with integrity := .unknown, lifecycle := .transferred }
    inputs.commitBeforeReturn
      [.putReplica revised, bumpReplicaSetEffect inputs revised.key false, .putCounters counters]
      (makeError .integrityUnknown
        (text ("a transfer completion carries no measured digest; the destination "
          ++ "cannot be verified")))
  else if expected.valid && completion.measuredDigest != expected then
    let revised :=
      { measured with
        integrity := .mismatch
        lifecycle := .corrupt
        authority := .fenced
        countsTowardFactor := false
        availability := .present
        lastError := text "measured digest does not match the state content digest" }
    let counters := { counters with integrityFailures := counters.integrityFailures + 1 }
    inputs.commitBeforeReturn
      [.putReplica revised, bumpReplicaSetEffect inputs revised.key false, .putCounters counters]
      (makeError .integrityMismatch
        (text "transferred bytes do not match the authoritative content digest"))
  else
    let revised :=
      { measured with
        integrity := .unverified
        lifecycle := .transferred
        availability := .present }
    inputs.commit
      (advanceOperation inputs completion.operationId completion.operationGeneration .transferred
          (text "transfer complete at the destination")
        ++ [.putReplica revised, bumpReplicaSetEffect inputs revised.key false,
            .putCounters counters])
      revised

/-! ## Verification -/

/-- The stronger of two durability states. -/
def ReplicaDurabilityState.max (a b : ReplicaDurabilityState) : ReplicaDurabilityState :=
  if WireEnum.code a < WireEnum.code b then b else a

/-- A verification in progress: the report, the replica as revised so far, the counters and
the identity counter. -/
structure Verification where
  report : ReplicaVerification
  revised : ReplicaRecord
  counters : FabricCounters
  next : UInt64

namespace Verification

/-- The effects both outcomes of a verification end with. -/
def closingEffects (v : Verification) (inputs : MutationInputs) : List Effect :=
  [.putReplica v.revised, bumpReplicaSetEffect inputs v.revised.key false,
   .putCounters v.counters, .setNextId v.next]

/-- `persist_and_fail`: the adverse outcome is recorded, then reported. -/
def persistAndFail (v : Verification) (inputs : MutationInputs) (code : ErrorCode)
    (message : Text) : Result (Outcome ReplicaRecord) :=
  inputs.commitBeforeReturn
    (advanceOperation inputs v.report.operationId v.report.operationGeneration .failed message
      ++ v.closingEffects inputs)
    (makeError code message)

/-- The destination is prepared. -/
def prepare (v : Verification) (inputs : MutationInputs) : Result (Outcome ReplicaRecord) :=
  inputs.commit
    (advanceOperation inputs v.report.operationId v.report.operationGeneration .prepared
        (text "destination prepared under explicit authority")
      ++ v.closingEffects inputs)
    v.revised

/-- A failed digest comparison. -/
def mismatch (v : Verification) (reason : Text) : Verification :=
  { v with
    revised :=
      { v.revised with
        integrity := .mismatch
        lifecycle := .corrupt
        authority := .fenced
        countsTowardFactor := false
        lastError := reason }
    counters := { v.counters with integrityFailures := v.counters.integrityFailures + 1 } }

/-- A verified digest, with fresh evidence. -/
def integrityVerified (v : Verification) : Verification :=
  { v with
    revised :=
      { v.revised with
        integrity := .verified
        evidence :=
          { v.revised.evidence with
            integrityEvidencePresent := true
            integrityGeneration := ⟨v.next⟩
            evidenceGeneration := ⟨v.next + 1⟩
            capabilityGeneration := ⟨v.next + 2⟩ }
        durability :=
          v.revised.durability.max (replicaDurability v.report.establishedDurability) }
    next := v.next + 3 }

/-- An incompatible destination. -/
def incompatible (v : Verification) (reason : Text) : Verification :=
  { v with
    revised :=
      { v.revised with
        compatibility := .incompatible
        lifecycle := .quarantined
        authority := .fenced
        countsTowardFactor := false
        lastError := reason }
    counters :=
      { v.counters with compatibilityRejections := v.counters.compatibilityRejections + 1 } }

/-- A destination whose compatibility cannot be decided. -/
def undecided (v : Verification) (compatibility : ReplicaCompatibilityState) (reason : Text) :
    Verification :=
  { v with
    revised :=
      { v.revised with
        compatibility := compatibility
        lifecycle := .revalidationRequired
        lastError := reason } }

/-- A compatible destination. -/
def compatible (v : Verification) (descriptor : CompatibilityDescriptor)
    (generation : CompatibilityGeneration) : Verification :=
  { v with
    revised :=
      { v.revised with
        compatibility := .compatible
        compatibilityDescriptor := descriptor
        compatibilityGeneration := generation
        lifecycle := .prepared
        availability := .present
        evidence :=
          { v.revised.evidence with
            compatibilityEvidencePresent := true
            compatibilityGeneration := generation
            revalidationRequired := false } } }

/-- Compatibility judged from the capabilities of the hosting cluster. -/
def againstCluster (v : Verification) (inputs : MutationInputs)
    (requirement : CompatibilityRequirement) (cluster : ClusterRecord) :
    Result (Outcome ReplicaRecord) :=
  let built := clusterCompatibilityDescriptor cluster
  let result :=
    if requirement.required.attributes.isEmpty then CompatibilityResult.compatible
    else evaluateCompatibility requirement (some built) requirement.generation false
  match result with
  | .incompatible =>
    (v.incompatible (text "cluster capabilities are incompatible with the state")).persistAndFail
      inputs .incompatible
      (text ("the destination cluster is incompatible with the state "
        ++ "compatibility identity"))
  | .unknown | .revalidationRequired =>
    (v.undecided .unknown
        (text "cluster capabilities do not cover the compatibility requirement")).persistAndFail
      inputs .compatibilityUnknown
      (text ("compatibility evidence is incomplete for the destination "
        ++ "cluster"))
  | .compatible =>
    let v := v.compatible built requirement.generation
    prepare
      { v with revised := { v.revised with compatibilityId := requirement.compatibilityId } }
      inputs

/-- Compatibility judged from a descriptor. -/
def againstDescriptor (v : Verification) (inputs : MutationInputs)
    (requirement : CompatibilityRequirement) (descriptor : Option CompatibilityDescriptor)
    (generation : CompatibilityGeneration) : Result (Outcome ReplicaRecord) :=
  let result := evaluateCompatibility requirement descriptor generation false
  match result with
  | .compatible =>
    let v := v.compatible (descriptor.getD v.revised.compatibilityDescriptor) generation
    prepare
      { v with
        revised :=
          { v.revised with
            evidence := { v.revised.evidence with healthGeneration := ⟨v.next⟩ } }
        next := v.next + 1 }
      inputs
  | .incompatible =>
    (v.incompatible (text "destination is incompatible with the state requirement")).persistAndFail
      inputs .incompatible (describeCompatibility requirement result descriptor)
  | .unknown =>
    (v.undecided .unknown (text "compatibility evidence is incomplete")).persistAndFail
      inputs .compatibilityUnknown
      (describeCompatibility requirement result descriptor
        ++ text "; UNKNOWN is never treated as compatible")
  | .revalidationRequired =>
    (v.undecided .revalidationRequired
        (text "compatibility evidence requires revalidation")).persistAndFail
      inputs .revalidationRequired (text "compatibility evidence requires revalidation")

/-- Which evidence compatibility is judged from: the report's descriptor, the replica's own,
or the hosting cluster's capabilities. -/
def judgeCompatibility (v : Verification) (inputs : MutationInputs)
    (requirement : CompatibilityRequirement) (replica : ReplicaRecord) :
    Result (Outcome ReplicaRecord) :=
  if !v.report.compatibilityDescriptor.attributes.isEmpty then
    v.againstDescriptor inputs requirement (some v.report.compatibilityDescriptor)
      (v.report.compatibilityGeneration.orElse requirement.generation)
  else if !replica.compatibilityDescriptor.attributes.isEmpty then
    v.againstDescriptor inputs requirement (some replica.compatibilityDescriptor)
      replica.compatibilityGeneration
  else
    match inputs.plane.clusters[replica.location.clusterId]? with
    | some cluster => v.againstCluster inputs requirement cluster
    | none => v.againstDescriptor inputs requirement none {}

end Verification

def verifyReplica (report : ReplicaVerification) (inputs : MutationInputs) :
    Result (Outcome ReplicaRecord) := do
  let replica ← guardReplica inputs.plane report.replicaId report.replicaGeneration
    report.clusterIncarnation report.workerBootId report.expectedCoordinatorEpoch
  rejectIf (!replica.lifecycle.acceptsVerification)
    (makeError .illegalTransition
      (text "a replica in lifecycle " ++ replica.lifecycle.str
        ++ text " cannot be verified before its bytes are present"))
  let state := inputs.plane.states[replica.key]?
  let counters := inputs.plane.counters
  let v : Verification :=
    { report := report
      revised :=
        { replica with
          lastEpoch := inputs.plane.coordinatorEpoch
          updatedAt := inputs.tick
          evidence :=
            { replica.evidence with
              verificationId := report.verificationId
              verifiedAt := inputs.tick
              coordinatorEpoch := inputs.plane.coordinatorEpoch }
          measuredDigest := report.measuredDigest }
      counters := { counters with integrityVerifications := counters.integrityVerifications + 1 }
      next := inputs.plane.nextId }
  let expected := (state.map (·.contentDigest)).getD {}
  if !report.integrityVerified then
    (v.mismatch (text "integrity verification reported a mismatch")).persistAndFail
      inputs .integrityMismatch (text "the destination failed integrity verification")
  else if expected.valid && report.measuredDigest.valid && report.measuredDigest != expected then
    (v.mismatch (text "measured digest does not match the state content digest")).persistAndFail
      inputs .integrityMismatch
      (text "the destination digest does not match the authoritative digest")
  else if expected.valid && !report.measuredDigest.valid then
    Verification.persistAndFail
      { v with
        revised :=
          { v.revised with
            integrity := .unverified
            lifecycle := .transferred
            lastError := text "verification carried no measured digest" } }
      inputs .integrityUnknown (text "verification carries no measured digest to compare")
  else
    v.integrityVerified.judgeCompatibility inputs
      ((state.map (·.compatibilityRequirement)).getD {}) replica

/-! ## Commit, retirement, quarantine -/

/-- The largest number of authoritative replicas a policy lets a state keep. -/
def maximumReplicasPerState (policy : Option ReplicationPolicyRecord) : UInt32 :=
  (policy.map (·.retention.maximumReplicasPerState)).getD 8

def commitReplica (commit : ReplicaCommit) (inputs : MutationInputs) :
    Result (Outcome ReplicaRecord) := do
  rejectIf (!commit.commitId.valid)
    (makeError .invalidArgument (text "a commit identity is required"))
  let existing ← found inputs.plane.replicas[commit.replicaId]?
    (makeError .unknownReplica (text "the replica is not registered"))
  rejectIf (commit.replicaGeneration.valid
      && commit.replicaGeneration != existing.replicaGeneration)
    (makeError .staleReplicaGeneration (text "commit names a superseded replica generation"))
  rejectIf (staleEpoch commit.expectedCoordinatorEpoch inputs.plane.coordinatorEpoch)
    (makeError .staleEpoch (text "commit carries a superseded coordinator epoch"))
  if existing.commitRecorded then
    rejectIf (existing.commitId != commit.commitId)
      (makeError .commitConflict
        (text "the replica is already committed under a different commit identity"))
    inputs.commit [] existing
  else
    let state ← found inputs.plane.states[existing.key]?
      (makeError .unknownState (text "the state generation is not registered"))
    let cluster ← found inputs.plane.clusters[existing.location.clusterId]?
      (makeError .unknownCluster (text "the hosting cluster is not registered"))
    rejectIf (!cluster.liveAuthority
        || cluster.incarnation != existing.location.clusterIncarnation)
      (makeError .staleClusterIncarnation
        (text "the hosting cluster incarnation is no longer live"))
    let set ← found inputs.plane.replicaSets[existing.key]?
      (makeError .unknownState (text "the replica set for this generation is gone"))
    rejectIf (commit.expectedReplicaSetGeneration.valid
        && commit.expectedReplicaSetGeneration != set.generation)
      (makeError .staleReplicaSetGeneration
        (text "commit names replica set generation " ++ commit.expectedReplicaSetGeneration.str
          ++ text " but the current generation is " ++ set.generation.str))
    rejectIf (!(existing.lifecycle == .prepared || existing.lifecycle == .authoritative
        || existing.lifecycle == .degraded))
      (makeError .transferIncomplete
        (text "a replica in lifecycle " ++ existing.lifecycle.str
          ++ text " cannot be committed as authoritative"))
    rejectIf (commit.requireIntegrityVerified && existing.integrity != .verified)
      (makeError .integrityUnknown (text "the replica has no verified integrity evidence"))
    rejectIf (commit.requireCompatibilityVerified && existing.compatibility != .compatible)
      (makeError .compatibilityUnknown
        (text "the replica has no verified compatibility evidence"))
    rejectIf existing.evidence.revalidationRequired
      (makeError .revalidationRequired
        (text "the replica requires revalidation before it can be committed"))
    let policy := resolveReplicationPolicy inputs.plane inputs.config {}
    rejectIf (decide (maximumReplicasPerState policy
        ≤ (inputs.plane.rebuildReplicaSet set).authoritativeCount))
      (makeError .overReplicated
        (text ("the replica set already holds the maximum permitted authoritative "
          ++ "replicas")))
    let plan ← planAuthoritativeCommit inputs existing state set commit.commitId
      commit.makeAuthoritativeOwner false
    let counters := inputs.plane.counters
    let counters :=
      { counters with
        replicasCommitted := counters.replicasCommitted + 1
        ownershipTransfers := if plan.ownershipWritten then counters.ownershipTransfers + 1
          else counters.ownershipTransfers }
    inputs.commit (plan.effects ++ [.putCounters counters]) plan.committed

/-- A replica at the end of its life. -/
def retiredReplica (inputs : MutationInputs) (replica : ReplicaRecord) (reason : Text) :
    ReplicaRecord :=
  { replica with
    lifecycle := .retired
    authority := .historical
    countsTowardFactor := false
    availability := .absent
    lastEpoch := inputs.plane.coordinatorEpoch
    updatedAt := inputs.tick
    lastError := reason }

/-- Whether a replica is the recorded active owner of its generation. -/
def ControlPlane.isActiveOwner (p : ControlPlane) (replica : ReplicaRecord) : Bool :=
  match p.ownership[replica.key]? with
  | some ownership => ownership.active && ownership.ownerReplica == replica.replicaId
  | none => false

def retireReplica (transition : ReplicaTransition) (inputs : MutationInputs) :
    Result (Outcome ReplicaRecord) := do
  let replica ← guardReplica inputs.plane transition.replicaId transition.replicaGeneration
    transition.clusterIncarnation transition.workerBootId transition.expectedCoordinatorEpoch
  rejectIf (inputs.plane.isActiveOwner replica)
    (makeError .authorityNotEstablished
      (text "the authoritative owner must be handed over before it is retired"))
  let revised := retiredReplica inputs replica transition.reason
  let counters := inputs.plane.counters
  inputs.commit
    [.putReplica revised, bumpReplicaSetEffect inputs revised.key true,
     .putCounters { counters with replicasRetired := counters.replicasRetired + 1 }] revised

def quarantineReplica (transition : ReplicaTransition) (inputs : MutationInputs) :
    Result (Outcome ReplicaRecord) := do
  let replica ← guardReplica inputs.plane transition.replicaId transition.replicaGeneration
    transition.clusterIncarnation transition.workerBootId transition.expectedCoordinatorEpoch
  let revised :=
    { replica with
      lifecycle := .quarantined
      authority := .fenced
      countsTowardFactor := false
      lastEpoch := inputs.plane.coordinatorEpoch
      updatedAt := inputs.tick
      lastError := transition.reason }
  let counters := inputs.plane.counters
  inputs.commit
    [.putReplica revised, bumpReplicaSetEffect inputs revised.key true,
     .putCounters { counters with replicasQuarantined := counters.replicasQuarantined + 1 }]
    revised

/-! ## Revalidation -/

/-- Whether revalidation rebinds a replica to its cluster's present incarnation. -/
def rebinds (replica : ReplicaRecord) (cluster : ClusterRecord) : Bool :=
  replica.location.clusterIncarnation != cluster.incarnation
    || (replica.workerBootId.valid && cluster.workerBootId.valid
        && replica.workerBootId != cluster.workerBootId)

/-- The replica bound to its cluster's present incarnation, when it was not. -/
def reboundReplica (replica : ReplicaRecord) (cluster : ClusterRecord) : ReplicaRecord :=
  if rebinds replica cluster then
    { replica with
      location := { replica.location with clusterIncarnation := cluster.incarnation }
      workerBootId := cluster.workerBootId }
  else replica

/-- A revalidated replica: committed copies count again, others are prepared again. -/
def revalidatedReplica (inputs : MutationInputs) (existing : ReplicaRecord)
    (cluster : ClusterRecord) : ReplicaRecord :=
  let replica := reboundReplica existing cluster
  let next := inputs.plane.nextId
  { replica with
    evidence :=
      { replica.evidence with
        revalidationRequired := false
        evidenceGeneration := ⟨next⟩
        capabilityGeneration := ⟨next + 1⟩
        verifiedAt := inputs.tick
        coordinatorEpoch := inputs.plane.coordinatorEpoch }
    availability := .present
    lastEpoch := inputs.plane.coordinatorEpoch
    updatedAt := inputs.tick
    lastError :=
      if rebinds existing cluster then
        text "revalidated and rebound to cluster incarnation " ++ cluster.incarnation.str
      else []
    lifecycle := if replica.commitRecorded then .authoritative else .prepared
    countsTowardFactor := replica.commitRecorded
    authority :=
      if !replica.commitRecorded then .candidate
      else if inputs.plane.isActiveOwner replica then .authoritativeOwner
      else .authoritativeForReuse }

def revalidateReplica (transition : ReplicaTransition) (inputs : MutationInputs) :
    Result (Outcome ReplicaRecord) := do
  let existing ← found inputs.plane.replicas[transition.replicaId]?
    (makeError .unknownReplica (text "the replica is not registered"))
  rejectIf (transition.replicaGeneration.valid
      && transition.replicaGeneration != existing.replicaGeneration)
    (makeError .staleReplicaGeneration
      (text "revalidation names a superseded replica generation"))
  rejectIf (staleEpoch transition.expectedCoordinatorEpoch inputs.plane.coordinatorEpoch)
    (makeError .staleEpoch (text "revalidation carries a superseded coordinator epoch"))
  rejectIf existing.isTerminal
    (makeError .illegalTransition
      (text "replica is " ++ existing.lifecycle.str ++ text " and cannot be revalidated"))
  let noAuthority := makeError .staleClusterIncarnation
    (text "the hosting cluster holds no live authority")
  let cluster ← found inputs.plane.clusters[existing.location.clusterId]? noAuthority
  rejectIf (!cluster.liveAuthority) noAuthority
  rejectIf (transition.clusterIncarnation.valid
      && transition.clusterIncarnation != cluster.incarnation)
    (makeError .staleClusterIncarnation
      (text "revalidation names a cluster incarnation that is not live"))
  let replica := reboundReplica existing cluster
  rejectIf (replica.integrity == .mismatch || replica.integrity == .corrupt
      || replica.lifecycle == .corrupt)
    (makeError .integrityMismatch
      (text "a corrupt replica must be re-verified, not revalidated"))
  rejectIf (replica.integrity != .verified)
    (makeError .integrityUnknown
      (text ("a replica without verified integrity cannot be revalidated into "
        ++ "authority")))
  rejectIf (cluster.incarnation != replica.location.clusterIncarnation)
    (makeError .staleClusterIncarnation (text "the hosting cluster incarnation is not live"))
  let state ← found inputs.plane.states[replica.key]?
    (makeError .unknownState (text "the state generation is not registered"))
  let requirement := state.compatibilityRequirement
  rejectIf (replica.compatibility != .compatible
      && evaluateCompatibility requirement (some (clusterCompatibilityDescriptor cluster))
          requirement.generation false != .compatible)
    (makeError .compatibilityUnknown
      (text "compatibility evidence is not current for this cluster"))
  let revised := revalidatedReplica inputs existing cluster
  inputs.commit
    [.putReplica revised, bumpReplicaSetEffect inputs revised.key true,
     .setNextId (inputs.plane.nextId + 2)] revised

/-! ## Replica sets -/

def queryReplicaSet (p : ControlPlane) (key : StateKey) : Result ReplicaSetRecord := do
  let set ← found p.replicaSets[key]?
    (makeError .unknownState (text "no replica set exists for that generation"))
  pure (p.rebuildReplicaSet set)

end StateFabric
