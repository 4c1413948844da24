import StateFabric.Authority

/-!
# Deterministic placement evaluation

`src/placement.cpp`.  Hard constraints are evaluated before any score exists; the accepted
candidates are then ranked by exact integer arithmetic over named factors, with the worst
value for absent evidence, and ties are broken by diversity, region affinity and cluster
identity.
-/

namespace StateFabric

/-- Decimal rendering of a signed integer. -/
def intText (n : Int) : Text :=
  if n < 0 then text "-" ++ natText n.natAbs else natText n.natAbs


/-- Everything the planner may consult about one candidate cluster. -/
structure PlacementCandidate where
  clusterId : ClusterId := {}
  clusterIncarnation : ClusterIncarnationId := {}
  region : RegionId := {}
  failureDomain : FailureDomainId := {}
  health : ClusterHealthState := .unknown
  capabilities : ClusterCapabilities := {}
  capacity : ClusterCapacity := {}
  evidence : ClusterEvidence := {}
  alreadyHostsCurrentReplica : Bool := false
  compatibility : CompatibilityResult := .unknown
  integrityEvidenceAvailable : Bool := false
  logicalSize : SizeValue := {}
  transferBytes : SizeValue := {}
  transferCost : CostValue := {}
  reconstructionCost : CostValue := {}
  storageCost : CostValue := {}
  computeCost : CostValue := {}
  expectedReuse : ReuseValue := {}
  predictedTransferTicks : UInt64 := 0
  predictedWaitTicks : UInt64 := 0
  existingReplicaCount : UInt32 := 0
  inFlightOperations : UInt32 := 0
  affinityScore : UInt32 := 0
  regionAffinity : UInt32 := 0
  expectedFutureDemand : UInt32 := 0
  sourceClusterHealthy : Bool := false
  achievableDurability : ReplicaDurabilityState := .unknown
  deriving DecidableEq

/-- A placement question with its candidates and the diversity already present. -/
structure PlacementRequest where
  stateId : StateId := {}
  stateGeneration : StateGeneration := {}
  policy : PlacementPolicyRecord := {}
  replicationPolicy : ReplicationPolicyRecord := {}
  candidates : List PlacementCandidate := []
  preferredSource : ClusterId := {}
  destinationIsNewReplica : Bool := true
  intent : DecisionKind := .replicate
  now : Tick := 0
  currentClusters : List ClusterId := []
  currentRegions : List RegionId := []
  currentFailureDomains : List FailureDomainId := []
  deriving DecidableEq

/-- A candidate refused by a hard constraint. -/
structure PlacementRejection where
  clusterId : ClusterId := {}
  constraint : Text := []
  detail : Text := []
  code : ErrorCode := .invalidArgument
  deriving DecidableEq

/-- A candidate with its score and the contributions to it. -/
structure RankedCandidate where
  clusterId : ClusterId := {}
  score : Int64 := 0
  contributions : List RankingContribution := []
  deriving DecidableEq

/-- The answer of the planner. -/
structure PlacementEvaluation where
  stateId : StateId := {}
  stateGeneration : StateGeneration := {}
  placementPolicyId : PlacementPolicyId := {}
  placementPolicyGeneration : PlacementPolicyGeneration := {}
  decision : DecisionKind := .unknown
  chosenCluster : ClusterId := {}
  chosenScore : Int64 := 0
  rejected : List PlacementRejection := []
  ranked : List RankedCandidate := []
  reasons : List Text := []
  deriving DecidableEq

/-- The outcome of the hard constraints for one candidate. -/
structure ConstraintOutcome where
  accepted : Bool := false
  constraint : Text := []
  detail : Text := []
  code : ErrorCode := .ok
  deriving DecidableEq

/-! ## Normalization -/

def fixedOne : Int64 := 1000000
def reuseCapMilli : UInt64 := 1000000
def costCapMicro : Int64 := 100000000
def bandwidthCapBytesPerTick : UInt64 := 10 * 1024 * 1024 * 1024
def durationCapTicks : UInt64 := 1000000

def normalizeU64 (value cap : UInt64) : Int64 :=
  if cap = 0 then 0
  else if cap ≤ value then fixedOne
  else ((value * fixedOne.toUInt64) / cap).toInt64

def normalizeCost (value : CostValue) : Int64 :=
  if !value.known then 0
  else
    let magnitude := if value.microUnits < 0 then -value.microUnits else value.microUnits
    if costCapMicro ≤ magnitude then fixedOne else (magnitude * fixedOne) / costCapMicro

def healthScore : ClusterHealthState → Int64
  | .healthy => fixedOne
  | .degraded => fixedOne / 2
  | .draining => fixedOne / 4
  | .unknown | .unreachable | .failed => 0

def diversityScore (alreadyPresent : Bool) (presentCount required : UInt32) : Int64 :=
  if !alreadyPresent then fixedOne
  else if required = 0 then fixedOne / 4
  else if required ≤ presentCount then fixedOne / 4 else 0

/-- A 32-bit score clamped to the fixed-point range. -/
def clampAffinity (value : UInt32) : Int64 := (min value 1000000).toUInt64.toInt64

/-! ## Hard constraints -/

/-- The hard constraints in evaluation order, each with the name it is reported under. -/
def hardConstraints (candidate : PlacementCandidate) (request : PlacementRequest) :
    List (Text × Denial) :=
  let constraints := request.policy.constraints
  let rules := request.replicationPolicy.destinationRules
  let cluster := text "cluster " ++ candidate.clusterId.str
  let region := text "region " ++ candidate.region.str
  [ (text "cluster_identity",
      ⟨!candidate.clusterId.valid, .invalidArgument, text "candidate has no cluster identity"⟩),
    (text "cluster_incarnation",
      ⟨!candidate.clusterIncarnation.valid, .staleClusterIncarnation,
        text "candidate cluster has no live incarnation for " ++ candidate.clusterId.str⟩),
    (text "prohibited_cluster",
      ⟨constraints.prohibitedClusters.contains candidate.clusterId, .destinationIneligible,
        cluster ++ text " is prohibited by policy"⟩),
    (text "legal_cluster",
      ⟨!constraints.legalClusters.isEmpty
          && !constraints.legalClusters.contains candidate.clusterId, .destinationIneligible,
        cluster ++ text " is not in the legal cluster set"⟩),
    (text "legal_region",
      ⟨!constraints.legalRegions.isEmpty && !constraints.legalRegions.contains candidate.region,
        .destinationIneligible, region ++ text " is not in the legal region set"⟩),
    (text "prohibited_region",
      ⟨constraints.prohibitedRegions.contains candidate.region, .destinationIneligible,
        region ++ text " is prohibited by policy"⟩),
    (text "required_locality",
      ⟨constraints.requireLocality && !constraints.localityClusters.contains candidate.clusterId,
        .destinationIneligible, cluster ++ text " is outside the required locality"⟩),
    (text "destination_denied",
      ⟨rules.deniedClusters.contains candidate.clusterId, .destinationIneligible,
        cluster ++ text " is denied by replication policy"⟩),
    (text "destination_not_allowed",
      ⟨!rules.allowedClusters.isEmpty && !rules.allowedClusters.contains candidate.clusterId,
        .destinationIneligible, cluster ++ text " is not an allowed destination"⟩),
    (text "duplicate_destination",
      ⟨candidate.alreadyHostsCurrentReplica && !rules.allowSameCluster, .duplicateConflict,
        cluster ++ text " already hosts a current replica of this generation"⟩),
    (text "destination_health",
      ⟨rules.requireHealthyDestination
          && (candidate.health == .unreachable || candidate.health == .failed
            || candidate.health == .unknown), .destinationIneligible,
        cluster ++ text " health is " ++ candidate.health.str⟩),
    (text "required_health",
      ⟨constraints.requiredHealth == .healthy && candidate.health != .healthy,
        .destinationIneligible, cluster ++ text " does not meet the required health floor"⟩) ]
  ++ constraints.requiredCapabilities.map (fun capability =>
      (text "required_capability",
        ⟨!candidate.capabilities.hasTag capability, .destinationIneligible,
          cluster ++ text " lacks capability " ++ capability⟩))
  ++ constraints.requiredStorageClasses.map (fun storageClass =>
      (text "required_storage_class",
        ⟨!candidate.capabilities.hasStorageClass storageClass, .destinationIneligible,
          cluster ++ text " lacks storage class " ++ storageClass⟩))
  ++ constraints.requiredSovereigntyTags.map (fun tag =>
      (text "required_sovereignty_tag",
        ⟨!candidate.capabilities.hasTag tag, .destinationIneligible,
          cluster ++ text " lacks data sovereignty tag " ++ tag⟩))
  ++ [ (text "required_encryption",
      ⟨constraints.requireEncryptionAtRest && !candidate.capabilities.encryptionAtRest,
        .destinationIneligible, cluster ++ text " cannot attest encryption at rest"⟩),
    (text "required_attestation",
      ⟨constraints.requireAttestation && !candidate.capabilities.attestation,
        .destinationIneligible, cluster ++ text " cannot attest its platform"⟩),
    (text "compatibility",
      ⟨constraints.requireCompatibilityVerification && candidate.compatibility == .incompatible,
        .incompatible, cluster ++ text " is incompatible with the state compatibility identity"⟩),
    (text "compatibility",
      ⟨constraints.requireCompatibilityVerification && candidate.compatibility != .compatible,
        .compatibilityUnknown,
        cluster ++ text " compatibility evidence is " ++ candidate.compatibility.str⟩),
    (text "integrity_evidence",
      ⟨constraints.requireIntegrityVerification && !candidate.integrityEvidenceAvailable,
        .integrityUnknown,
        cluster ++ text " has no available integrity evidence for this generation"⟩),
    (text "minimum_durability",
      ⟨constraints.minimumDurability != .unknown
          && !(candidate.achievableDurability == .durable
            || candidate.achievableDurability == .archival
            || (decide (WireEnum.code constraints.minimumDurability
                  ≤ WireEnum.code DurabilityClass.standard)
                && candidate.achievableDurability == .standard)), .destinationIneligible,
        cluster ++ text " cannot establish the required durability class "
          ++ constraints.minimumDurability.str⟩),
    (text "capacity",
      ⟨constraints.requiredFreeCapacity.known
          && !candidate.capacity.hasRoomFor constraints.requiredFreeCapacity.bytes,
        .capacityInsufficient,
        cluster ++ text " has " ++ natText candidate.capacity.freeLogicalBytes.toNat
          ++ text " free bytes, below the required "
          ++ natText constraints.requiredFreeCapacity.bytes.toNat⟩),
    (text "capacity",
      ⟨candidate.logicalSize.known && decide (0 < candidate.capacity.totalLogicalBytes)
          && !candidate.capacity.hasRoomFor candidate.logicalSize.bytes, .capacityInsufficient,
        cluster ++ text " cannot hold the state's logical size"⟩),
    (text "evidence_freshness",
      ⟨constraints.maximumEvidenceStalenessTicks != 0
          && (!candidate.evidence.present || candidate.evidence.revalidationRequired),
        .staleEvidence, cluster ++ text " has no current evidence publication"⟩),
    (text "evidence_freshness",
      ⟨constraints.maximumEvidenceStalenessTicks != 0
          && decide (candidate.evidence.publishedAt < request.now)
          && decide (constraints.maximumEvidenceStalenessTicks
              < request.now - candidate.evidence.publishedAt),
        .staleEvidence, cluster ++ text " evidence is stale"⟩),
    (text "cluster_diversity",
      ⟨decide (0 < constraints.minimumClusterDiversity)
          && decide (UInt32.ofNat request.currentClusters.length
              < constraints.minimumClusterDiversity)
          && request.currentClusters.contains candidate.clusterId, .destinationIneligible,
        cluster ++ text " does not improve cluster diversity"⟩),
    (text "region_diversity",
      ⟨decide (0 < constraints.minimumRegionDiversity)
          && decide (UInt32.ofNat request.currentRegions.length
              < constraints.minimumRegionDiversity)
          && request.currentRegions.contains candidate.region, .destinationIneligible,
        region ++ text " does not improve region diversity"⟩),
    (text "failure_domain_diversity",
      ⟨decide (0 < constraints.minimumFailureDomainDiversity)
          && decide (UInt32.ofNat request.currentFailureDomains.length
              < constraints.minimumFailureDomainDiversity)
          && request.currentFailureDomains.contains candidate.failureDomain,
        .destinationIneligible,
        text "failure domain " ++ candidate.failureDomain.str
          ++ text " does not improve failure domain diversity"⟩),
    (text "maximum_transfer_cost",
      ⟨constraints.maximumTransferCost.known && !candidate.transferCost.known,
        .destinationIneligible,
        cluster ++ text " has no known transfer cost while policy bounds transfer cost"⟩),
    (text "maximum_transfer_cost",
      ⟨constraints.maximumTransferCost.known
          && decide (0 < costCompare candidate.transferCost constraints.maximumTransferCost),
        .policyViolation, cluster ++ text " transfer cost exceeds the policy bound"⟩) ]

/-- `evaluate_hard_constraints`: the first constraint that is violated. -/
def evaluateHardConstraints (candidate : PlacementCandidate) (request : PlacementRequest)
    (state : Option StateGenerationRecord) : ConstraintOutcome :=
  if state.isNone then
    { accepted := false, constraint := text "state_known",
      detail := text "no governed state generation record is available", code := .unknownState }
  else
    match (hardConstraints candidate request).find? (·.2.applies) with
    | some (name, denial) =>
      { accepted := false, constraint := name, detail := denial.reason, code := denial.code }
    | none => { accepted := true, constraint := text "none", code := .ok }

/-! ## Scoring -/

/-- One factor before weighting. -/
structure FactorInput where
  factor : RankingFactor
  unknown : Bool
  normalized : Int64
  evidence : Text

/-- A cost factor: absent evidence is marked, not scored as zero. -/
def costFactor (factor : RankingFactor) (cost : CostValue) (unitLabel absent : Text) :
    FactorInput :=
  if cost.known then ⟨factor, false, normalizeCost cost, cost.describe unitLabel⟩
  else ⟨factor, true, 0, absent⟩

def reuseFactor (candidate : PlacementCandidate) (state : Option StateGenerationRecord) :
    FactorInput :=
  if candidate.expectedReuse.known then
    ⟨.expectedReuseValue, false,
      normalizeU64 candidate.expectedReuse.expectedValueMilli reuseCapMilli,
      candidate.expectedReuse.describe⟩
  else
    match state with
    | some state =>
      if state.expectedReuse.known then
        ⟨.expectedReuseValue, false,
          normalizeU64 state.expectedReuse.expectedValueMilli reuseCapMilli,
          text "state " ++ state.expectedReuse.describe⟩
      else ⟨.expectedReuseValue, true, 0, text "UNKNOWN expected reuse"⟩
    | none => ⟨.expectedReuseValue, true, 0, text "UNKNOWN expected reuse"⟩

def diversityFactor (candidate : PlacementCandidate) (request : PlacementRequest) : FactorInput :=
  let clusterPresent := request.currentClusters.contains candidate.clusterId
  let regionPresent := request.currentRegions.contains candidate.region
  let domainPresent := request.currentFailureDomains.contains candidate.failureDomain
  let requirements := request.replicationPolicy.requirements
  let clusterScore := diversityScore clusterPresent
    (UInt32.ofNat request.currentClusters.length) requirements.clusterDiversity
  let regionScore := diversityScore regionPresent
    (UInt32.ofNat request.currentRegions.length) requirements.regionDiversity
  let domainScore := diversityScore domainPresent
    (UInt32.ofNat request.currentFailureDomains.length) requirements.failureDomainDiversity
  let presence (present : Bool) : Text := if present then text "present" else text "new"
  ⟨.failureDomainDiversity, false, min (min clusterScore regionScore) domainScore,
    text "cluster " ++ presence clusterPresent ++ text ", region " ++ presence regionPresent
      ++ text ", failure domain " ++ presence domainPresent⟩

/-- The sixteen factors in their fixed evaluation order. -/
def factorInputs (candidate : PlacementCandidate) (request : PlacementRequest)
    (state : Option StateGenerationRecord) : List FactorInput :=
  let unitLabel := request.policy.costPolicy.unitLabel
  let utilization := min candidate.capacity.utilizationPerMille 1000
  let inFlight := min candidate.inFlightOperations 1000
  [ reuseFactor candidate state,
    costFactor .transferCost candidate.transferCost unitLabel (text "UNKNOWN transfer cost"),
    costFactor .reconstructionCost candidate.reconstructionCost unitLabel
      (text "UNKNOWN reconstruction cost"),
    ⟨.availableBandwidth, false,
      normalizeU64 candidate.capacity.inboundBytesPerTick bandwidthCapBytesPerTick,
      natText candidate.capacity.inboundBytesPerTick.toNat ++ text " bytes per tick inbound"⟩,
    ⟨.predictedTransferDuration, false,
      normalizeU64 candidate.predictedTransferTicks durationCapTicks,
      natText candidate.predictedTransferTicks.toNat ++ text " ticks predicted"⟩,
    costFactor .storageCost candidate.storageCost unitLabel (text "UNKNOWN storage cost"),
    costFactor .computeCost candidate.computeCost unitLabel (text "UNKNOWN compute cost"),
    ⟨.regionAffinity, false, clampAffinity candidate.regionAffinity,
      text "policy supplied region affinity " ++ natText candidate.regionAffinity.toNat⟩,
    ⟨.workloadAffinity, false, clampAffinity candidate.affinityScore,
      text "policy supplied workload affinity " ++ natText candidate.affinityScore.toNat⟩,
    ⟨.existingReplicaProximity, false, if 0 < candidate.existingReplicaCount then fixedOne else 0,
      natText candidate.existingReplicaCount.toNat
        ++ text " existing replica(s) of this state in the cluster"⟩,
    diversityFactor candidate request,
    ⟨.expectedFutureDemand, false, clampAffinity candidate.expectedFutureDemand,
      text "policy supplied future demand " ++ natText candidate.expectedFutureDemand.toNat⟩,
    ⟨.sourceHealth, false, if candidate.sourceClusterHealthy then fixedOne else 0,
      if candidate.sourceClusterHealthy then text "source cluster healthy"
      else text "source cluster not healthy"⟩,
    ⟨.destinationHealth, false, healthScore candidate.health,
      text "destination health " ++ candidate.health.str⟩,
    ⟨.pressure, false, fixedOne - (utilization.toUInt64.toInt64 * fixedOne) / 1000,
      text "cluster utilization " ++ natText utilization.toNat ++ text " per mille"⟩,
    ⟨.utilization, false, fixedOne - (inFlight.toUInt64.toInt64 * fixedOne) / 1000,
      natText candidate.inFlightOperations.toNat
        ++ text " in-flight operation(s) in the cluster"⟩ ]

/-- Weights one factor; absent evidence takes the worst value the weight's sign prefers. -/
def contributionOf (weights : RankingWeights) (input : FactorInput) : RankingContribution :=
  let weight := weights.weightOf input.factor
  let normalized :=
    if input.unknown then if 0 ≤ weight then 0 else fixedOne else input.normalized
  { factor := input.factor, weight := weight, normalizedValue := normalized,
    unknown := input.unknown, contribution := saturatingMul weight normalized,
    evidence := input.evidence }

def scoreCandidate (candidate : PlacementCandidate) (request : PlacementRequest)
    (state : Option StateGenerationRecord) : RankedCandidate :=
  let contributions :=
    (factorInputs candidate request state).map (contributionOf request.policy.weights)
  { clusterId := candidate.clusterId
    score := contributions.foldl (fun score c => saturatingAdd score c.contribution) 0
    contributions := contributions }

/-! ## Evaluation -/

/-- The normalized value of one factor, zero when the candidate has none. -/
def RankedCandidate.factorValue (c : RankedCandidate) (factor : RankingFactor) : Int64 :=
  match c.contributions.find? (·.factor == factor) with
  | some contribution => contribution.normalizedValue
  | none => 0

/-- The order of the ranking: score, diversity, affinity, then cluster identity. -/
def RankedCandidate.precedes (a b : RankedCandidate) : Bool :=
  if a.score ≠ b.score then b.score < a.score
  else if a.factorValue .failureDomainDiversity ≠ b.factorValue .failureDomainDiversity then
    b.factorValue .failureDomainDiversity < a.factorValue .failureDomainDiversity
  else if a.factorValue .regionAffinity ≠ b.factorValue .regionAffinity then
    b.factorValue .regionAffinity < a.factorValue .regionAffinity
  else a.clusterId < b.clusterId

def PlacementRejection.precedes (a b : PlacementRejection) : Bool :=
  if a.clusterId ≠ b.clusterId then a.clusterId < b.clusterId
  else if a.constraint ≠ b.constraint then a.constraint < b.constraint
  else a.detail < b.detail

/-- `std::sort` by a strict order: insertion keeps equivalent entries in input order. -/
def sortBy {α : Type} (precedes : α → α → Bool) (values : List α) : List α :=
  values.insertionSort fun a b => !precedes b a

def RankingFactor.str : RankingFactor → Text
  | .expectedReuseValue => text "expected_reuse_value"
  | .transferCost => text "transfer_cost"
  | .reconstructionCost => text "reconstruction_cost"
  | .availableBandwidth => text "available_bandwidth"
  | .predictedTransferDuration => text "predicted_transfer_duration"
  | .storageCost => text "storage_cost"
  | .computeCost => text "compute_cost"
  | .regionAffinity => text "region_affinity"
  | .workloadAffinity => text "workload_affinity"
  | .existingReplicaProximity => text "existing_replica_proximity"
  | .failureDomainDiversity => text "failure_domain_diversity"
  | .expectedFutureDemand => text "expected_future_demand"
  | .sourceHealth => text "source_health"
  | .destinationHealth => text "destination_health"
  | .pressure => text "pressure"
  | .utilization => text "utilization"

def RankingContribution.describe (c : RankingContribution) : Text :=
  text "factor " ++ c.factor.str ++ text ": weight " ++ intText c.weight.toInt ++ text ", value "
    ++ intText c.normalizedValue.toInt ++ text ", contribution "
    ++ intText c.contribution.toInt
    ++ (if c.unknown then text " (evidence absent; scored pessimistically)"
        else if !c.evidence.isEmpty then text " (" ++ c.evidence ++ text ")" else [])

def evaluatePlacement (request : PlacementRequest) (state : Option StateGenerationRecord) :
    PlacementEvaluation :=
  let outcomes := request.candidates.map fun candidate =>
    (candidate, evaluateHardConstraints candidate request state)
  let rejected : List PlacementRejection :=
    (outcomes.filter (!·.2.accepted)).map fun (candidate, outcome) =>
      { clusterId := candidate.clusterId, constraint := outcome.constraint,
        detail := outcome.detail, code := outcome.code }
  let accepted := (outcomes.filter (·.2.accepted)).map fun (candidate, _) =>
    scoreCandidate candidate request state
  let rejected := sortBy PlacementRejection.precedes rejected
  let ranked := sortBy RankedCandidate.precedes accepted
  let evaluation : PlacementEvaluation :=
    { stateId := request.stateId
      stateGeneration := request.stateGeneration
      placementPolicyId := request.policy.placementPolicyId
      placementPolicyGeneration := request.policy.generation
      rejected := rejected
      ranked := ranked }
  match ranked with
  | [] =>
    { evaluation with
      decision := .reject
      reasons := text "no candidate satisfied every hard constraint" ::
        rejected.map fun rejection =>
          text "cluster " ++ rejection.clusterId.str ++ text " rejected by "
            ++ rejection.constraint ++ text ": " ++ rejection.detail }
  | best :: _ =>
    { evaluation with
      decision := request.intent
      chosenCluster := best.clusterId
      chosenScore := best.score
      reasons :=
        (text "cluster " ++ best.clusterId.str ++ text " selected with deterministic score "
          ++ intText best.score.toInt)
        :: ((best.contributions.filter (·.weight != 0)).map RankingContribution.describe
          ++ (if rejected.isEmpty then []
              else [natText rejected.length
                ++ text " candidate(s) rejected by hard constraints"])) }

end StateFabric
