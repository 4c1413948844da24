import StateFabric.Fabric.State

/-!
# Cluster registration, evidence and loss

The cluster mutations of `src/fabric_state.cpp`.  A cluster identity is durable, an
incarnation is not: reincarnation, loss and retirement fence every live replica that was
written under the incarnation that ended.
-/

namespace StateFabric

open MutationInputs

/-- A given identity, or a freshly minted one, with the counter after it. -/
def orMint {tag : IdTag} (id : StrongId tag) (next : UInt64) : StrongId tag × UInt64 :=
  if id.valid then (id, next) else (⟨next⟩, next + 1)

/-! ## Fencing -/

/-- How one event fences a replica. -/
structure Fence where
  availability : ReplicaAvailabilityState
  /-- The lifecycle a counting replica is moved to. -/
  lifecycle : ReplicaLifecycle
  reason : Text

/-- A replica stripped of live authority. -/
def fencedReplica (inputs : MutationInputs) (fence : Fence) (replica : ReplicaRecord) :
    ReplicaRecord :=
  { replica with
    authority := .fenced
    countsTowardFactor := false
    availability := fence.availability
    evidence := { replica.evidence with revalidationRequired := true }
    lifecycle :=
      if replica.lifecycle = .authoritative ∨ replica.lifecycle = .degraded then fence.lifecycle
      else replica.lifecycle
    lastError := fence.reason
    updatedAt := inputs.tick }

/-- The replica set of a fenced replica: one generation on, membership as stored. -/
def fencedReplicaSet (inputs : MutationInputs) (set : ReplicaSetRecord) : ReplicaSetRecord :=
  { set with
    generation := set.generation.next
    epoch := inputs.plane.coordinatorEpoch
    updatedAt := inputs.tick }

/-- The effects of fencing one replica. -/
def fenceEffects (inputs : MutationInputs) (fence : Fence) (replica : ReplicaRecord) :
    List Effect :=
  .putReplica (fencedReplica inputs fence replica) ::
    (match inputs.plane.replicaSets[replica.key]? with
      | some set => [.putReplicaSet (fencedReplicaSet inputs set)]
      | none => [])

/-- The counters after fencing a list of replicas. -/
def FabricCounters.addFenced (counters : FabricCounters) (fenced : List ReplicaRecord) :
    FabricCounters :=
  { counters with replicasFenced := counters.replicasFenced + UInt64.ofNat fenced.length }

/-! ## Registration -/

/-- Whether a registration of a known cluster starts a new incarnation. -/
def reincarnates (registration : ClusterRegistration) (existing : ClusterRecord) : Bool :=
  registration.forceReincarnation
    || (existing.workerBootId.valid && registration.workerBootId.valid
        && existing.workerBootId != registration.workerBootId)

/-- The identity part of a first registration, with the counter after its mints. -/
def newClusterIdentity (registration : ClusterRegistration) (inputs : MutationInputs)
    (next : UInt64) : ClusterRecord × UInt64 :=
  let (workerId, next') := orMint registration.workerId (next + 1)
  let (workerBootId, next'') := orMint registration.workerBootId next'
  ({ clusterId := registration.clusterId
     incarnation := ⟨next⟩
     workerId := workerId
     workerBootId := workerBootId
     registeredEpoch := inputs.plane.coordinatorEpoch
     registeredAt := inputs.tick
     incarnationStartedAt := inputs.tick }, next'')

/-- The identity part of a repeated registration, with the counter after its mints. -/
def knownClusterIdentity (registration : ClusterRegistration) (existing : ClusterRecord)
    (inputs : MutationInputs) (next : UInt64) : ClusterRecord × UInt64 :=
  let reincarnated := reincarnates registration existing
  let record : ClusterRecord :=
    if reincarnated then
      { existing with
        incarnation := ⟨next⟩
        incarnationStartedAt := inputs.tick
        reincarnationCount := existing.reincarnationCount + 1 }
    else existing
  let next := if reincarnated then next + 1 else next
  let (workerId, next) :=
    if registration.workerId.valid then (registration.workerId, next)
    else orMint record.workerId next
  let (workerBootId, next) :=
    if registration.workerBootId.valid then (registration.workerBootId, next)
    else if reincarnated || !record.workerBootId.valid then
      ((⟨next⟩ : WorkerBootId), next + 1)
    else (record.workerBootId, next)
  ({ record with
     registeredEpoch := inputs.plane.coordinatorEpoch
     registeredAt := inputs.tick
     workerId := workerId
     workerBootId := workerBootId }, next)

/-- The part of a registration that does not depend on what was known before. -/
def registeredCluster (registration : ClusterRegistration) (inputs : MutationInputs)
    (reincarnated : Bool) (record : ClusterRecord) (next : UInt64) : ClusterRecord :=
  { record with
    location :=
      { region := registration.region
        site := registration.site
        failureDomain := registration.failureDomain
        descriptor := registration.locationDescriptor }
    capabilities := registration.capabilities.canonicalize
    capacity := registration.capacity
    health := registration.health
    lifecycle := if reincarnated then .reincarnated else .active
    liveAuthority := true
    updatedAt := inputs.tick
    evidence :=
      { capabilityGeneration := ⟨next⟩
        healthGeneration := ⟨next + 1⟩
        topologyGeneration := ⟨next + 2⟩
        costGeneration := ⟨next + 3⟩
        evidenceGeneration := ⟨next + 4⟩
        publishedAt := inputs.tick
        coordinatorEpoch := inputs.plane.coordinatorEpoch
        revalidationRequired := false
        present := true }
    lastEvidenceEpoch := inputs.plane.coordinatorEpoch }

/-- The live replicas a reincarnation fences. -/
def ControlPlane.outlivedBy (p : ControlPlane) (cluster : ClusterRecord) : List ReplicaRecord :=
  p.replicaList.filter fun replica =>
    replica.location.clusterId == cluster.clusterId && !replica.isTerminal
      && replica.location.clusterIncarnation != cluster.incarnation

def registerCluster (registration : ClusterRegistration) (inputs : MutationInputs) :
    Result (Outcome ClusterRecord) := do
  rejectIf (!registration.clusterId.valid)
    (makeError .invalidArgument (text "a cluster identity is required"))
  rejectIf (staleEpoch registration.expectedCoordinatorEpoch inputs.plane.coordinatorEpoch)
    (makeError .staleEpoch
      (text "registration carries coordinator epoch "
        ++ registration.expectedCoordinatorEpoch.str ++ text " but the current epoch is "
        ++ inputs.plane.coordinatorEpoch.str))
  validateText registration.locationDescriptor "location_descriptor"
  rejectIf (decide (maxClusterTagCount < registration.capabilities.tags.length)
      || decide (maxClusterTagCount < registration.capabilities.storageClasses.length)
      || decide (maxClusterTagCount < registration.capabilities.acceleratorArchitectures.length))
    (makeError .resourceExhausted
      (text "cluster capability evidence exceeds the permitted bound"))
  let next := inputs.plane.nextId
  let counters := inputs.plane.counters
  match inputs.plane.clusters[registration.clusterId]? with
  | none =>
    let (identity, next) := newClusterIdentity registration inputs next
    let record := registeredCluster registration inputs false identity next
    inputs.commit
      [.putCluster record,
       .putCounters { counters with clustersRegistered := counters.clustersRegistered + 1 },
       .setNextId (next + 5)] record
  | some existing =>
    let reincarnated := reincarnates registration existing
    let (identity, next) := knownClusterIdentity registration existing inputs next
    let record := registeredCluster registration inputs reincarnated identity next
    let fenced := if reincarnated then inputs.plane.outlivedBy record else []
    let fence : Fence :=
      { availability := .unknown
        lifecycle := .revalidationRequired
        reason := text "fenced by cluster reincarnation to incarnation "
          ++ record.incarnation.str }
    let counters :=
      if reincarnated then
        { counters with
          clusterReincarnations := counters.clusterReincarnations + 1
          clusterIncarnationsFenced := counters.clusterIncarnationsFenced + 1 }
      else counters
    inputs.commit
      (.putCluster record :: fenced.flatMap (fenceEffects inputs fence)
        ++ [.putCounters (counters.addFenced fenced), .setNextId (next + 5)]) record

def publishClusterEvidence (update : ClusterEvidenceUpdate) (inputs : MutationInputs) :
    Result (Outcome ClusterRecord) := do
  let existing ← found inputs.plane.clusters[update.clusterId]?
    (makeError .unknownCluster (text "the cluster is not registered"))
  rejectIf (staleEpoch update.expectedCoordinatorEpoch inputs.plane.coordinatorEpoch)
    (makeError .staleEpoch (text "evidence carries a superseded coordinator epoch"))
  rejectIf (!existing.liveAuthority || update.incarnation != existing.incarnation)
    (makeError .staleClusterIncarnation
      (text "evidence names cluster incarnation " ++ update.incarnation.str
        ++ text " but the live incarnation is " ++ existing.incarnation.str))
  rejectIf (update.workerBootId.valid && existing.workerBootId.valid
      && update.workerBootId != existing.workerBootId)
    (makeError .staleWorker
      (text "evidence names worker boot " ++ update.workerBootId.str
        ++ text " but the live worker boot is " ++ existing.workerBootId.str))
  let next := inputs.plane.nextId
  let (capabilityGeneration, next) :=
    if update.hasCapabilities then ((⟨next⟩ : CapabilityGeneration), next + 1)
    else (existing.evidence.capabilityGeneration, next)
  let record : ClusterRecord :=
    { existing with
      health := update.health
      capabilities := if update.hasCapabilities then update.capabilities.canonicalize
        else existing.capabilities
      capacity := if update.hasCapacity then update.capacity else existing.capacity
      evidence :=
        { existing.evidence with
          capabilityGeneration := capabilityGeneration
          healthGeneration := ⟨next⟩
          evidenceGeneration := ⟨next + 1⟩
          publishedAt := inputs.tick
          coordinatorEpoch := inputs.plane.coordinatorEpoch
          revalidationRequired := false
          present := true }
      lastEvidenceEpoch := inputs.plane.coordinatorEpoch
      updatedAt := inputs.tick
      lifecycle :=
        if existing.lifecycle = .suspect ∨ existing.lifecycle = .unreachable
            ∨ existing.lifecycle = .reincarnated then .active
        else existing.lifecycle }
  inputs.commit [.putCluster record, .setNextId (next + 2)] record

/-! ## Loss and retirement -/

/-- The live replicas written under one incarnation of a cluster. -/
def ControlPlane.hostedUnder (p : ControlPlane) (clusterId : ClusterId)
    (incarnation : ClusterIncarnationId) : List ReplicaRecord :=
  p.replicaList.filter fun replica =>
    replica.location.clusterId == clusterId
      && replica.location.clusterIncarnation == incarnation && !replica.isTerminal

/-- A cluster without live authority. -/
def lostCluster (inputs : MutationInputs) (existing : ClusterRecord)
    (lifecycle : ClusterLifecycle) (health : ClusterHealthState) : ClusterRecord :=
  { existing with
    liveAuthority := false
    lifecycle := lifecycle
    health := health
    evidence := { existing.evidence with present := false, revalidationRequired := true }
    updatedAt := inputs.tick }

def markClusterUnreachable (clusterId : ClusterId) (incarnation : ClusterIncarnationId)
    (reason : Text) (inputs : MutationInputs) : Result (Outcome ClusterRecord) := do
  let existing ← found inputs.plane.clusters[clusterId]?
    (makeError .unknownCluster (text "the cluster is not registered"))
  -- Fencing is validated before idempotency: a stale view is never told that it succeeded.
  rejectIf (incarnation != existing.incarnation)
    (makeError .staleClusterIncarnation
      (text "cluster incarnation " ++ incarnation.str ++ text " is not the current incarnation "
        ++ existing.incarnation.str))
  if !existing.liveAuthority then inputs.commit [] existing
  else
    validateText reason "reason"
    let record := lostCluster inputs existing .unreachable .unreachable
    let fenced := inputs.plane.hostedUnder clusterId incarnation
    let fence : Fence :=
      { availability := .unreachable
        lifecycle := .stale
        reason := text "cluster incarnation " ++ incarnation.str ++ text " is unreachable: "
          ++ reason }
    inputs.commit
      (.putCluster record :: fenced.flatMap (fenceEffects inputs fence)
        ++ [.putCounters (inputs.plane.counters.addFenced fenced)]) record

def retireCluster (clusterId : ClusterId) (incarnation : ClusterIncarnationId)
    (inputs : MutationInputs) : Result (Outcome ClusterRecord) := do
  let existing ← found inputs.plane.clusters[clusterId]?
    (makeError .unknownCluster (text "the cluster is not registered"))
  rejectIf (incarnation != existing.incarnation)
    (makeError .staleClusterIncarnation
      (text "cluster incarnation " ++ incarnation.str ++ text " is not the live incarnation "
        ++ existing.incarnation.str))
  let record := lostCluster inputs existing .retired .failed
  let fenced := inputs.plane.hostedUnder clusterId incarnation
  let fence : Fence :=
    { availability := .absent, lifecycle := .stale, reason := text "cluster retired" }
  let counters := inputs.plane.counters
  let counters :=
    { counters with clusterIncarnationsFenced := counters.clusterIncarnationsFenced + 1 }
  inputs.commit
    (.putCluster record :: fenced.flatMap (fenceEffects inputs fence)
      ++ [.putCounters (counters.addFenced fenced)]) record

end StateFabric
