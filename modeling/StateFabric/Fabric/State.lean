import StateFabric.Fabric.Mutation

/-!
# State generations, compatibility and policy

The mutations of `src/fabric_state.cpp` on state generations: registration in STAGED,
rewriting while STAGED, and the authoritative commit that makes a generation CURRENT and
supersedes the current generations of its lineage.  The publications of compatibility and
policy records are here too.
-/

namespace StateFabric

open MutationInputs

def validateText (value : Text) (field : String) : Result Unit :=
  rejectIf (decide (maxMetadataStringBytes < value.length))
    (makeError .invalidArgument
      (text "field " ++ text field ++ text " exceeds the permitted metadata length"))

theorem validateText_bind_eq_ok {β : Type} {value : Text} {field : String}
    {f : Unit → Result β} {b : β} :
    (validateText value field >>= f) = .ok b ↔
      value.length ≤ maxMetadataStringBytes ∧ f () = .ok b := by
  simp [validateText, rejectIf_bind_eq_ok]

def validateSpec (spec : StateGenerationSpec) : Result Unit := do
  rejectIf (!spec.stateId.valid) (makeError .invalidArgument (text "a state identity is required"))
  rejectIf (!spec.generation.valid)
    (makeError .invalidArgument (text "a state generation is required"))
  rejectIf (spec.branch && !spec.branchesFrom.valid)
    (makeError .invalidArgument
      (text "a branch generation must name the generation it branches from"))
  rejectIf (!spec.branch && spec.branchesFrom.valid)
    (makeError .invalidArgument (text "branches_from is only legal when branch is set"))
  rejectIf (spec.branch && spec.branchesFrom == spec.generation)
    (makeError .invalidArgument (text "a generation cannot branch from itself"))
  rejectIf (spec.logicalSize.known && decide ((1 : UInt64) <<< 44 < spec.logicalSize.bytes))
    (makeError .resourceExhausted (text "declared logical size exceeds the bound"))
  validateText spec.provenance.producer "provenance.producer"
  validateText spec.provenance.verification "provenance.verification"
  validateText spec.reconstruction.method "reconstruction.method"
  rejectIf (spec.replicationRequirements.maximumReplicas == 0)
    (makeError .invalidArgument (text "maximum replica count must be at least one"))
  rejectIf (decide (spec.replicationRequirements.maximumReplicas
      < spec.replicationRequirements.minimumAuthoritativeReplicas))
    (makeError .invalidArgument
      (text "minimum authoritative replicas exceeds the maximum replica count"))

/-- The lineage of a specification; absent means the state's own. -/
def StateGenerationSpec.effectiveLineage (spec : StateGenerationSpec) : LineageId :=
  if spec.lineage.valid then spec.lineage else ⟨spec.stateId.value⟩

/-- The key a specification registers. -/
def StateGenerationSpec.key (spec : StateGenerationSpec) : StateKey :=
  ⟨spec.stateId, spec.generation⟩

/-- Two registrations are the same only when every governing field matches. -/
def sameGoverningContent (existing candidate : StateGenerationRecord) : Bool :=
  existing.lineage == candidate.lineage && existing.branch == candidate.branch
    && existing.branchesFrom == candidate.branchesFrom
    && existing.stateClass == candidate.stateClass
    && existing.consistency == candidate.consistency
    && existing.logicalSize == candidate.logicalSize
    && existing.physicalSize == candidate.physicalSize
    && existing.contentDigest == candidate.contentDigest
    && existing.digestAlgorithm == candidate.digestAlgorithm
    && existing.compatibilityId == candidate.compatibilityId
    && existing.compatibilityGeneration == candidate.compatibilityGeneration
    && existing.compatibilityRequired == candidate.compatibilityRequired
    && existing.durability == candidate.durability
    && existing.reuseClass == candidate.reuseClass
    && existing.replicationRequirements == candidate.replicationRequirements

/-- The STAGED record of a specification. -/
def materialize (spec : StateGenerationSpec) (tick : Tick) : StateGenerationRecord :=
  { stateId := spec.stateId
    generation := spec.generation
    lineage := spec.effectiveLineage
    branch := spec.branch
    branchesFrom := spec.branchesFrom
    stateClass := spec.stateClass
    consistency := spec.consistency
    lifecycle := .staged
    logicalSize := spec.logicalSize
    physicalSize := spec.physicalSize
    contentDigest := spec.contentDigest
    digestAlgorithm := spec.digestAlgorithm
    compatibilityId := spec.compatibilityId
    compatibilityGeneration := spec.compatibilityGeneration
    compatibilityRequired := spec.compatibilityRequired
    reconstruction := spec.reconstruction
    durability := spec.durability
    reuseClass := spec.reuseClass
    placementConstraints := spec.placementConstraints.canonicalize
    replicationRequirements := spec.replicationRequirements
    provenance := spec.provenance
    expectedReuse := spec.expectedReuse
    transferCost := spec.transferCost
    reconstructionCost := spec.reconstructionCost
    registeredAt := tick }

/-- The generations registered under a state identity, in key order. -/
def ControlPlane.generationsOf (p : ControlPlane) (stateId : StateId) :
    List StateGenerationRecord :=
  (p.states.toList.map Prod.snd).filter fun record => record.stateId == stateId

/-- `register_state`: a new generation with its replica set at generation one. -/
def registerState (spec : StateGenerationSpec) (inputs : MutationInputs) :
    Result (Outcome StateGenerationRecord) := do
  validateSpec spec
  match inputs.plane.states[spec.key]? with
  | some existing =>
    rejectIf (!sameGoverningContent existing (materialize spec existing.registeredAt))
      (makeError .duplicateConflict
        (text "state generation " ++ stateGenerationLabel spec.stateId spec.generation
          ++ text " is already registered with different content"))
    inputs.commit [] existing
  | none =>
    let siblings := inputs.plane.generationsOf spec.stateId
    rejectIf (siblings.any fun record => record.lineage != spec.effectiveLineage)
      (makeError .invalidArgument
        (text "every generation of a state identity must share one lineage"))
    let origin : StateKey := ⟨spec.stateId, spec.branchesFrom⟩
    rejectIf (spec.branch && inputs.plane.states[origin]?.isNone)
      (makeError .unknownState
        (text "the generation this branch refers to is not registered"))
    let next := inputs.plane.nextId
    let setId : ReplicaSetId := ⟨next⟩
    let record :=
      { materialize spec inputs.tick with replicaSetId := setId, replicaSetGeneration := ⟨1⟩ }
    let set : ReplicaSetRecord :=
      { replicaSetId := setId
        generation := ⟨1⟩
        stateId := record.stateId
        stateGeneration := record.generation
        state := .noAuthoritativeReplica
        requirements := record.replicationRequirements
        epoch := inputs.plane.coordinatorEpoch
        createdAt := inputs.tick
        updatedAt := inputs.tick }
    let counters := inputs.plane.counters
    let counters :=
      { counters with
        generationsRegistered := counters.generationsRegistered + 1
        statesRegistered := if siblings.isEmpty then counters.statesRegistered + 1
          else counters.statesRegistered }
    inputs.commit
      [.putState record, .putReplicaSet set, .putCounters counters, .setNextId (next + 1)] record

/-- `publish_state_generation`: rewrites a generation while it is STAGED. -/
def publishStateGeneration (spec : StateGenerationSpec) (inputs : MutationInputs) :
    Result (Outcome StateGenerationRecord) := do
  validateSpec spec
  let existing ← found inputs.plane.states[spec.key]?
    (makeError .notFound (text "register the state generation before publishing it"))
  let candidate := materialize spec existing.registeredAt
  if existing.lifecycle ≠ .staged then
    rejectIf (!sameGoverningContent existing candidate)
      (makeError .illegalTransition
        (text "a generation that has left STAGED cannot be rewritten"))
    inputs.commit [] existing
  else
    let record :=
      { candidate with
        replicaSetId := existing.replicaSetId
        replicaSetGeneration := existing.replicaSetGeneration
        revalidationRequired := existing.revalidationRequired }
    inputs.commit [.putState record] record

/-! ## The authoritative commit of a generation -/

/-- A replica of a superseded generation. -/
def supersededReplica (inputs : MutationInputs) (replica : ReplicaRecord) : ReplicaRecord :=
  { replica with
    lifecycle :=
      if replica.lifecycle = .authoritative ∨ replica.lifecycle = .degraded
          ∨ replica.lifecycle = .revalidationRequired then .superseded
      else replica.lifecycle
    authority := .historical
    countsTowardFactor := false
    lastEpoch := inputs.plane.coordinatorEpoch
    updatedAt := inputs.tick }

/-- The replica set of a superseded generation. -/
def supersededReplicaSet (inputs : MutationInputs) (set : ReplicaSetRecord) : ReplicaSetRecord :=
  { set with
    generation := set.generation.next
    state := .retiring
    epoch := inputs.plane.coordinatorEpoch
    updatedAt := inputs.tick }

/-- Everything a commit writes about one generation it supersedes. -/
def supersede (inputs : MutationInputs) (old : StateGenerationRecord) : List Effect :=
  .putState { old with lifecycle := .historical }
    :: (inputs.plane.replicasOfState old.key).map
      (fun replica => .putReplica (supersededReplica inputs replica))
    ++ (match inputs.plane.replicaSets[old.key]? with
        | some set => [.putReplicaSet (supersededReplicaSet inputs set)]
        | none => [])

/-- The current generations of a state on one lineage, in key order. -/
def ControlPlane.currentOnLineage (p : ControlPlane) (stateId : StateId) (lineage : LineageId) :
    List StateGenerationRecord :=
  (p.generationsOf stateId).filter fun record => record.isCurrent && record.lineage == lineage

def commitStateGeneration (stateId : StateId) (generation : StateGeneration) (commitId : CommitId)
    (inputs : MutationInputs) : Result (Outcome StateGenerationRecord) := do
  rejectIf (!commitId.valid)
    (makeError .invalidArgument (text "an authoritative commit identity is required"))
  let existing ← found inputs.plane.states[(⟨stateId, generation⟩ : StateKey)]?
    (makeError .unknownState (text "the state generation is not registered"))
  if existing.lifecycle = .current then
    rejectIf (existing.commit != commitId)
      (makeError .duplicateConflict
        (text "the state generation is already current under a different commit"))
    inputs.commit [] existing
  else
    rejectIf (existing.lifecycle == .invalid || existing.lifecycle == .corrupt
        || existing.lifecycle == .retired || existing.lifecycle == .revalidationRequired)
      (makeError .illegalTransition
        (text "a state generation cannot become current from lifecycle "
          ++ existing.lifecycle.str))
    let current := inputs.plane.currentOnLineage stateId existing.lineage
    rejectIf (!existing.branch && decide (1 < (current.filter (!·.branch)).length))
      (makeError .splitBrainRisk
        (text "more than one current generation exists for this lineage"))
    let record :=
      { existing with
        lifecycle := .current
        commit := commitId
        committedEpoch := inputs.plane.coordinatorEpoch
        committedAt := inputs.tick
        revalidationRequired := false }
    -- A branch commit supersedes nothing; a trunk commit supersedes every other current
    -- generation of its lineage, branches included.
    let superseded :=
      if existing.branch then []
      else current.filter fun old => old.generation != record.generation
    let counters := inputs.plane.counters
    let counters :=
      { counters with
        generationsCommitted := counters.generationsCommitted + 1
        generationsSuperseded :=
          counters.generationsSuperseded + UInt64.ofNat superseded.length }
    inputs.commit
      (superseded.flatMap (supersede inputs) ++ [.putState record, .putCounters counters]) record

/-! ## Compatibility and policy publications -/

def publishCompatibility (record : CompatibilityRecord) (inputs : MutationInputs) :
    Result (Outcome CompatibilityRecord) := do
  rejectIf (!record.compatibilityId.valid)
    (makeError .invalidArgument (text "a compatibility identity is required"))
  validateText record.producer "producer"
  let generation := if record.generation.valid then record.generation else ⟨1⟩
  rejectIf (match inputs.plane.compatibilityRecords[record.compatibilityId]? with
      | some existing => decide (generation < existing.generation)
      | none => false)
    (makeError .staleEvidence (text "a newer compatibility generation is already published"))
  let stored := { record with generation := generation, publishedAt := inputs.tick }
  inputs.commit [.putCompatibility stored] stored

def publishPlacementPolicy (policy : PlacementPolicyRecord) (inputs : MutationInputs) :
    Result (Outcome PlacementPolicyRecord) := do
  rejectIf (!policy.placementPolicyId.valid)
    (makeError .invalidArgument (text "a placement policy identity is required"))
  let generation := if policy.generation.valid then policy.generation else ⟨1⟩
  rejectIf (match inputs.plane.placementPolicies[policy.placementPolicyId]? with
      | some existing => decide (generation < existing.generation)
      | none => false)
    (makeError .staleEvidence (text "a newer placement policy generation is already published"))
  let stored :=
    { policy with
      constraints := policy.constraints.canonicalize
      generation := generation
      updatedAt := inputs.tick }
  inputs.commit [.putPlacementPolicy stored] stored

def publishReplicationPolicy (policy : ReplicationPolicyRecord) (inputs : MutationInputs) :
    Result (Outcome ReplicationPolicyRecord) := do
  rejectIf (!policy.replicationPolicyId.valid)
    (makeError .invalidArgument (text "a replication policy identity is required"))
  let generation := if policy.generation.valid then policy.generation else ⟨1⟩
  rejectIf (match inputs.plane.replicationPolicies[policy.replicationPolicyId]? with
      | some existing => decide (generation < existing.generation)
      | none => false)
    (makeError .staleEvidence (text "a newer replication policy generation is already published"))
  let stored :=
    { policy with
      sourceRules := policy.sourceRules.canonicalize
      destinationRules := policy.destinationRules.canonicalize
      generation := generation
      updatedAt := inputs.tick }
  inputs.commit [.putReplicationPolicy stored] stored

end StateFabric
