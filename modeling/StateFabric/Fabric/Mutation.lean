import StateFabric.ControlPlane
import StateFabric.Placement

/-!
# Mutation bodies and their shared helpers

A mutation of the runtime is a body that reads the control plane and either refuses, in which
case nothing is recorded, or hands a batch of effects to the persistence boundary
(`src/detail/fabric_impl.hpp`).  A body may record effects and still report an error: an
adverse outcome, such as a digest mismatch, is durable before it is reported.

The helpers are those the bodies share: policy resolution, source selection, the replica set
effect, operation progress and the authoritative commit.
-/

namespace StateFabric

def reservationWindowTicks : Tick := 4096
def maxMetadataStringBytes : Nat := 4096

/-- Configuration of a runtime. -/
structure FabricConfig where
  coordinatorId : CoordinatorId := {}
  homeCluster : ClusterId := {}
  persistenceDirectory : Text := []
  requireDurableCommits : Bool := false
  journalRecordsBeforeSnapshot : UInt64 := 4096
  maximumRecords : Nat := 250000
  logicalStart : Tick := 0
  epochStart : CoordinatorEpoch := {}
  defaultPlacementPolicy : PlacementPolicyRecord := {}
  defaultReplicationPolicy : ReplicationPolicyRecord := {}

/-- What a mutation body reads. -/
structure MutationInputs where
  plane : ControlPlane
  config : FabricConfig
  tick : Tick
  epoch : CoordinatorEpoch

/-- What a mutation body hands to the persistence boundary. -/
structure Outcome (ρ : Type) where
  effects : List Effect
  tick : Tick
  epoch : CoordinatorEpoch
  status : Result ρ

namespace MutationInputs

variable {ρ : Type}

/-- Records effects and acknowledges. -/
def commit (inputs : MutationInputs) (effects : List Effect) (response : ρ) :
    Result (Outcome ρ) :=
  .ok { effects := effects, tick := inputs.tick, epoch := inputs.epoch, status := .ok response }

/-- Records effects and reports an error (`commit_before_return`). -/
def commitBeforeReturn (inputs : MutationInputs) (effects : List Effect) (e : Error) :
    Result (Outcome ρ) :=
  .ok { effects := effects, tick := inputs.tick, epoch := inputs.epoch, status := .error e }

theorem commit_ok {inputs : MutationInputs} {effects : List Effect} {response : ρ}
    {out : Outcome ρ} (h : inputs.commit effects response = .ok out) :
    out.effects = effects ∧ out.status = .ok response := by
  obtain rfl := Except.ok.inj h
  exact ⟨rfl, rfl⟩

theorem commitBeforeReturn_ok {inputs : MutationInputs} {effects : List Effect} {e : Error}
    {out : Outcome ρ} (h : inputs.commitBeforeReturn effects e = .ok out) :
    out.effects = effects ∧ out.status = .error e := by
  obtain rfl := Except.ok.inj h
  exact ⟨rfl, rfl⟩

end MutationInputs

/-- Refuses a request that expects another coordinator epoch; an absent epoch is not
checked. -/
def staleEpoch (expected current : CoordinatorEpoch) : Bool :=
  expected.valid && expected != current

/-! ## Policy resolution -/

def resolveReplicationPolicy (p : ControlPlane) (config : FabricConfig)
    (id : ReplicationPolicyId) : Option ReplicationPolicyRecord :=
  if id.valid then p.replicationPolicies[id]?
  else if config.defaultReplicationPolicy.replicationPolicyId.valid then
    some config.defaultReplicationPolicy
  else none

def resolvePlacementPolicy (p : ControlPlane) (config : FabricConfig)
    (id : PlacementPolicyId) : Option PlacementPolicyRecord :=
  if id.valid then p.placementPolicies[id]?
  else if config.defaultPlacementPolicy.placementPolicyId.valid then
    some config.defaultPlacementPolicy
  else none

/-! ## Compatibility of a cluster -/

/-- `set` with its result ignored. -/
def CompatibilityDescriptor.setOrKeep (d : CompatibilityDescriptor) (key value : Text) :
    CompatibilityDescriptor :=
  (d.set key value).getD d

/-- Adds the attribute a `compat:key=value` tag spells. -/
def addCompatibilityTag (d : CompatibilityDescriptor) (tag : Text) : CompatibilityDescriptor :=
  let marker := text "compat:"
  if !marker.isPrefixOf tag then d
  else
    let body := tag.drop marker.length
    match body.findIdx? (· == 61) with
    | none => d
    | some separator =>
      if separator = 0 then d
      else d.setOrKeep (body.take separator) (body.drop (separator + 1))

/-- The descriptor a cluster's capabilities publish. -/
def clusterCompatibilityDescriptor (cluster : ClusterRecord) : CompatibilityDescriptor :=
  let d : CompatibilityDescriptor := {}
  let d := d.setOrKeep (text "accelerator")
    (cluster.capabilities.acceleratorArchitectures.head?.getD (text "none"))
  let d := d.setOrKeep (text "storage")
    (cluster.capabilities.storageClasses.head?.getD (text "none"))
  let d := d.setOrKeep (text "platform")
    (if cluster.location.descriptor.isEmpty then text "unknown" else cluster.location.descriptor)
  cluster.capabilities.tags.foldl addCompatibilityTag d

/-- The compatibility requirement of a state generation. -/
def StateGenerationRecord.compatibilityRequirement (state : StateGenerationRecord) :
    CompatibilityRequirement :=
  { compatibilityId := state.compatibilityId
    generation := state.compatibilityGeneration
    required := state.compatibilityRequired
    requireVerifiedEvidence := true }

/-! ## Source selection -/

/-- What authority assessment consults for a replica of the plane. -/
def ControlPlane.authorityContext (p : ControlPlane) (key : StateKey) (cluster : ClusterId)
    (set : Option ReplicaSetRecord) (policy : Option ReplicationPolicyRecord) :
    AuthorityContext :=
  { state := p.states[key]?
    cluster := p.clusters[cluster]?
    replicaSet := set
    policy := policy
    currentEpoch := p.coordinatorEpoch }

/-- One step of the selection loop: the preferred cluster wins, then the lowest identity. -/
def betterSource (preferred : ClusterId) (best : Option ReplicaRecord) (replica : ReplicaRecord) :
    Option ReplicaRecord :=
  match best with
  | none => some replica
  | some current =>
    let replicaPreferred := preferred.valid && replica.location.clusterId == preferred
    let bestPreferred := preferred.valid && current.location.clusterId == preferred
    if replicaPreferred != bestPreferred then
      if replicaPreferred then some replica else some current
    else if replica.replicaId < current.replicaId then some replica
    else some current

def selectSourceReplica (p : ControlPlane) (key : StateKey) (preferred : ClusterId)
    (policy : Option ReplicationPolicyRecord) : Option ReplicaRecord :=
  let eligible := (p.replicasOfState key).filter fun replica =>
    (assessReplicaAuthority replica
      (p.authorityContext key replica.location.clusterId p.replicaSets[key]? policy)
      ).authoritativeAsReplicationSource
  eligible.foldl (betterSource preferred) none

/-- Whether a state may take one more in-flight operation. -/
def operationCapacityAvailable (p : ControlPlane) (stateId : StateId) (maximumInFlight : UInt32) :
    Bool :=
  UInt32.ofNat (p.operationList.filter fun o => o.stateId == stateId && !o.isTerminal).length
    < maximumInFlight

/-! ## Shared effects -/

/-- The stored set of a generation with its membership rebuilt; when asked, its generation
advances. -/
def bumpedReplicaSet (p : ControlPlane) (key : StateKey) (tick : Tick) (epoch : CoordinatorEpoch)
    (advanceGeneration : Bool) : ReplicaSetRecord :=
  let set : ReplicaSetRecord :=
    match p.replicaSets[key]? with
    | some existing => p.rebuildReplicaSet existing
    | none =>
      { stateId := key.stateId, stateGeneration := key.generation,
        state := .noAuthoritativeReplica }
  let generation : ReplicaSetGeneration :=
    if advanceGeneration then if set.generation.valid then set.generation.next else ⟨1⟩
    else if !set.generation.valid then ⟨1⟩ else set.generation
  { set with generation := generation, epoch := epoch, updatedAt := tick }

def bumpReplicaSetEffect (inputs : MutationInputs) (key : StateKey) (advanceGeneration : Bool) :
    Effect :=
  .putReplicaSet
    (bumpedReplicaSet inputs.plane key inputs.tick inputs.plane.coordinatorEpoch advanceGeneration)

/-- Adds a line to an operation's journal while it has room. -/
def OperationRecord.note (o : OperationRecord) (line : Text) : OperationRecord :=
  if o.journal.length < maxOperationJournalEntries then { o with journal := o.journal ++ [line] }
  else o

/-- `advance_operation`: moves a live operation on; anything else is left alone. -/
def advanceOperation (inputs : MutationInputs) (operationId : OperationId)
    (generation : OperationGeneration) (next : OperationState) (note : Text) : List Effect :=
  match inputs.plane.operations[operationId]? with
  | none => []
  | some existing =>
    if existing.isTerminal then []
    else if generation.valid && existing.operationGeneration != generation then []
    else
      [.putOperation
        (OperationRecord.note
          { existing with
            state := next
            lastEpoch := inputs.plane.coordinatorEpoch
            updatedAt := inputs.tick
            destinationVerified := if next = .prepared then true else existing.destinationVerified }
          note)]

/-! ## The authoritative commit -/

/-- What an authoritative commit plans: its effects, the committed replica and whether it
wrote an ownership record. -/
structure CommitPlan where
  effects : List Effect
  committed : ReplicaRecord
  ownershipWritten : Bool

/-- The target replica as the commit leaves it, up to its authority. -/
def committedReplica (inputs : MutationInputs) (target : ReplicaRecord) (set : ReplicaSetRecord)
    (commitId : CommitId) (authority : ReplicaAuthorityState) : ReplicaRecord :=
  { target with
    lifecycle := .authoritative
    integrity := .verified
    compatibility := .compatible
    availability := .present
    authority := authority
    commitRecorded := true
    countsTowardFactor := true
    commitId := commitId
    replicaSetGeneration := if set.generation.valid then set.generation.next else ⟨1⟩
    lastEpoch := inputs.plane.coordinatorEpoch
    updatedAt := inputs.tick
    lastError := []
    provenance := { target.provenance with commit := commitId } }

/-- A replica that gives up ownership but keeps serving reuse. -/
def demotedReplica (inputs : MutationInputs) (replica : ReplicaRecord) (reason : Text) :
    ReplicaRecord :=
  { replica with
    authority := .authoritativeForReuse
    lastEpoch := inputs.plane.coordinatorEpoch
    updatedAt := inputs.tick
    lastError := reason }

/-- The put that demotes the recorded owner, unless it is absent or terminal. -/
def demoteOwner (inputs : MutationInputs) (owner : Option ReplicaRecord) (reason : Text) :
    List Effect :=
  match owner with
  | none => []
  | some previous =>
    if previous.isTerminal then [] else [.putReplica (demotedReplica inputs previous reason)]

/-- The ownership record an owner commit writes. -/
def ownershipOfCommit (inputs : MutationInputs) (committed : ReplicaRecord)
    (set : ReplicaSetRecord) (commitId : CommitId) : OwnershipRecord :=
  { stateId := committed.stateId
    stateGeneration := committed.stateGeneration
    ownerReplica := committed.replicaId
    ownerReplicaGeneration := committed.replicaGeneration
    ownerCluster := committed.location.clusterId
    ownerIncarnation := committed.location.clusterIncarnation
    epoch := inputs.plane.coordinatorEpoch
    commit := commitId
    placementId := set.placementId
    placementGeneration := set.placementGeneration
    establishedAt := inputs.tick
    active := true }

def planAuthoritativeCommit (inputs : MutationInputs) (target : ReplicaRecord)
    (state : StateGenerationRecord) (set : ReplicaSetRecord) (commitId : CommitId)
    (makeOwner allowOwnershipTakeover : Bool) : Result CommitPlan := do
  rejectIf (requiresSingleAuthoritativeOwner state.consistency && !makeOwner)
    (makeError .policyViolation
      (text "state consistency mode " ++ state.consistency.str
        ++ text " requires an explicit authoritative owner commit"))
  if makeOwner then
    let ownership := inputs.plane.ownership[target.key]?
    let heldByOther := match ownership with
      | some o => o.active && o.ownerReplica != target.replicaId
      | none => false
    rejectIf (heldByOther && !allowOwnershipTakeover)
      (makeError .splitBrainRisk
        (text ("another replica currently holds authoritative ownership of this state "
          ++ "generation")))
    let demotion := match ownership with
      | some o =>
        if heldByOther then
          demoteOwner inputs inputs.plane.replicas[o.ownerReplica]?
            (text "ownership handed over by an authorized migration")
        else []
      | none => []
    let committed := committedReplica inputs target set commitId .authoritativeOwner
    pure
      { effects := demotion ++
          [.putOwnership (ownershipOfCommit inputs committed set commitId),
           .putReplica committed, bumpReplicaSetEffect inputs committed.key true]
        committed := committed
        ownershipWritten := true }
  else
    let committed := committedReplica inputs target set commitId .authoritativeForReuse
    pure
      { effects := [.putReplica committed, bumpReplicaSetEffect inputs committed.key true]
        committed := committed
        ownershipWritten := false }

end StateFabric
