import StateFabric.Cost

/-!
# Placement and replication policy

The policy records of `include/ccsf/policy.hpp` and the helpers of `src/model.cpp` that read
them: canonical lists, ranking weights, byte prices and the requirements a policy form
implies.
-/

namespace StateFabric

/-- `std::sort` followed by `std::unique`. -/
def sortUnique {α : Type} [Ord α] [Std.TransOrd α] (values : List α) : List α :=
  (Std.ExtTreeSet.ofList values compare).toList

/-! ## Placement -/

/-- Hard placement constraints.  An empty collection means "unconstrained". -/
structure PlacementConstraints where
  legalClusters : List ClusterId := []
  legalRegions : List RegionId := []
  prohibitedClusters : List ClusterId := []
  prohibitedRegions : List RegionId := []
  requiredCapabilities : List Text := []
  requiredStorageClasses : List Text := []
  requiredSovereigntyTags : List Text := []
  requireLocality : Bool := false
  localityClusters : List ClusterId := []
  minimumClusterDiversity : UInt32 := 0
  minimumRegionDiversity : UInt32 := 0
  minimumFailureDomainDiversity : UInt32 := 0
  minimumDurability : DurabilityClass := .unknown
  requiredHealth : ClusterHealthState := .unknown
  maximumEvidenceStalenessTicks : UInt64 := 0
  requiredFreeCapacity : SizeValue := {}
  maximumTransferCost : CostValue := {}
  requireEncryptionAtRest : Bool := false
  requireAttestation : Bool := false
  requireIntegrityVerification : Bool := true
  requireCompatibilityVerification : Bool := true
  deriving DecidableEq

/-- Sorts and de-duplicates every list, so that equal content has one representation. -/
def PlacementConstraints.canonicalize (c : PlacementConstraints) : PlacementConstraints :=
  { c with
    legalClusters := sortUnique c.legalClusters
    legalRegions := sortUnique c.legalRegions
    prohibitedClusters := sortUnique c.prohibitedClusters
    prohibitedRegions := sortUnique c.prohibitedRegions
    requiredCapabilities := sortUnique c.requiredCapabilities
    requiredStorageClasses := sortUnique c.requiredStorageClasses
    requiredSovereigntyTags := sortUnique c.requiredSovereigntyTags
    localityClusters := sortUnique c.localityClusters }

/-- Weights for the named ranking factors; a zero weight disables the factor. -/
structure RankingWeights where
  expectedReuseValue : Int64 := 0
  transferCost : Int64 := 0
  reconstructionCost : Int64 := 0
  availableBandwidth : Int64 := 0
  predictedTransferDuration : Int64 := 0
  storageCost : Int64 := 0
  computeCost : Int64 := 0
  regionAffinity : Int64 := 0
  workloadAffinity : Int64 := 0
  existingReplicaProximity : Int64 := 0
  failureDomainDiversity : Int64 := 0
  expectedFutureDemand : Int64 := 0
  sourceHealth : Int64 := 0
  destinationHealth : Int64 := 0
  pressure : Int64 := 0
  utilization : Int64 := 0
  deriving DecidableEq

def RankingWeights.weightOf (w : RankingWeights) : RankingFactor → Int64
  | .expectedReuseValue => w.expectedReuseValue
  | .transferCost => w.transferCost
  | .reconstructionCost => w.reconstructionCost
  | .availableBandwidth => w.availableBandwidth
  | .predictedTransferDuration => w.predictedTransferDuration
  | .storageCost => w.storageCost
  | .computeCost => w.computeCost
  | .regionAffinity => w.regionAffinity
  | .workloadAffinity => w.workloadAffinity
  | .existingReplicaProximity => w.existingReplicaProximity
  | .failureDomainDiversity => w.failureDomainDiversity
  | .expectedFutureDemand => w.expectedFutureDemand
  | .sourceHealth => w.sourceHealth
  | .destinationHealth => w.destinationHealth
  | .pressure => w.pressure
  | .utilization => w.utilization

/-- Policy-supplied unit prices; an absent price yields UNKNOWN cost, never zero cost. -/
structure CostPolicy where
  source : CostSource := .unknown
  transferMicroPerMib : Int64 := 0
  egressMicroPerMib : Int64 := 0
  storageMicroPerMibTick : Int64 := 0
  computeMicroPerMib : Int64 := 0
  acceleratorMicroPerMibTick : Int64 := 0
  repairMicroPerMib : Int64 := 0
  unitLabel : Text := text "units"
  deriving DecidableEq

/-- Applies a policy price to a byte count. -/
def CostPolicy.priceBytes (p : CostPolicy) (microPerMib : Int64) (bytes : SizeValue) : CostValue :=
  if p.source = .unknown then .unknown
  else if microPerMib = 0 then { source := p.source, microUnits := 0 }
  else if !bytes.known then .unknown
  else costScale { source := p.source, microUnits := microPerMib } bytes.bytes (1024 * 1024)

/-- One named contribution to a candidate's ranking score. -/
structure RankingContribution where
  factor : RankingFactor := .expectedReuseValue
  weight : Int64 := 0
  normalizedValue : Int64 := 0
  unknown : Bool := false
  contribution : Int64 := 0
  evidence : Text := []
  deriving DecidableEq

/-- Deterministic placement policy. -/
structure PlacementPolicyRecord where
  placementPolicyId : PlacementPolicyId := {}
  generation : PlacementPolicyGeneration := {}
  constraints : PlacementConstraints := {}
  weights : RankingWeights := {}
  costPolicy : CostPolicy := {}
  updatedAt : Tick := 0
  deriving DecidableEq

/-! ## Replication -/

/-- Replication requirements attached to a state generation. -/
structure ReplicationRequirements where
  form : ReplicationPolicyForm := .nReplicas
  minimumAuthoritativeReplicas : UInt32 := 1
  desiredReplicas : UInt32 := 1
  maximumReplicas : UInt32 := 4
  regionDiversity : UInt32 := 0
  clusterDiversity : UInt32 := 0
  failureDomainDiversity : UInt32 := 0
  minimumDurability : DurabilityClass := .unknown
  deriving DecidableEq

/-- Eligibility rules applied to replication and migration endpoints. -/
structure EligibilityRules where
  allowedClusters : List ClusterId := []
  deniedClusters : List ClusterId := []
  requireHealthySource : Bool := true
  requireHealthyDestination : Bool := true
  requireAvailableCapacity : Bool := true
  allowSameCluster : Bool := false
  requireFreshEvidence : Bool := true
  maximumInFlightOperationsPerState : UInt32 := 2
  deriving DecidableEq

def EligibilityRules.canonicalize (r : EligibilityRules) : EligibilityRules :=
  { r with
    allowedClusters := sortUnique r.allowedClusters
    deniedClusters := sortUnique r.deniedClusters }

/-- Authority rules applied when deciding whether a replica may serve reuse. -/
structure ReuseAuthorityRules where
  requireVerifiedIntegrity : Bool := true
  requireVerifiedCompatibility : Bool := true
  requireCurrentStateGeneration : Bool := true
  requireReplicaSetMembership : Bool := true
  requireCurrentClusterIncarnation : Bool := true
  requireCurrentCoordinatorEpoch : Bool := true
  allowHistoricalReadOnly : Bool := false
  deriving DecidableEq

/-- Retention policy for stale copies and historical records. -/
structure RetentionPolicy where
  retainHistoricalRecords : Bool := true
  staleCopyRetirementTicks : UInt64 := 0
  maximumReplicasPerState : UInt32 := 8
  hotHistoryRecordsPerState : UInt32 := 64
  deriving DecidableEq

/-- Repair policy applied when a replica set is under-replicated. -/
structure RepairPolicy where
  automaticRepairEnabled : Bool := true
  maximumConcurrentRepairs : UInt32 := 1
  repairAttemptLimit : UInt32 := 3
  deriving DecidableEq

/-- Evidence generations that must be at least current for reuse authority. -/
structure RevalidationRequirements where
  requireRevalidationAfterClusterReincarnation : Bool := true
  requireRevalidationAfterCoordinatorRestart : Bool := true
  requireFreshHealthEvidence : Bool := true
  requireFreshCapabilityEvidence : Bool := true
  deriving DecidableEq

/-- Deterministic replication policy. -/
structure ReplicationPolicyRecord where
  replicationPolicyId : ReplicationPolicyId := {}
  generation : ReplicationPolicyGeneration := {}
  requirements : ReplicationRequirements := {}
  sourceRules : EligibilityRules := {}
  destinationRules : EligibilityRules := {}
  reuseRules : ReuseAuthorityRules := {}
  retention : RetentionPolicy := {}
  repair : RepairPolicy := {}
  revalidation : RevalidationRequirements := {}
  degradedBehavior : DegradedBehavior := .rejectReuse
  failureAction : OperationFailureAction := .abandonDestination
  updatedAt : Tick := 0
  deriving DecidableEq

/-- The diversity floors implied by the policy form. -/
def ReplicationRequirements.ofForm (r : ReplicationRequirements) : ReplicationRequirements :=
  match r.form with
  | .single =>
    { r with
      minimumAuthoritativeReplicas := 1
      desiredReplicas := 1
      maximumReplicas := 1
      regionDiversity := 0
      clusterDiversity := 0
      failureDomainDiversity := 0 }
  | .nReplicas => r
  | .clusterDiverse => { r with clusterDiversity := max r.clusterDiversity 2 }
  | .regionDiverse =>
    { r with
      regionDiversity := max r.regionDiversity 2
      clusterDiversity := max r.clusterDiversity 2 }
  | .policyCustom => r

/-- The clamping that follows the form: the counts are nonzero and ordered. -/
def ReplicationRequirements.clamp (r : ReplicationRequirements) : ReplicationRequirements :=
  let r := if r.maximumReplicas = 0 then { r with maximumReplicas := 1 } else r
  let r := if r.minimumAuthoritativeReplicas = 0 then
    { r with minimumAuthoritativeReplicas := 1 } else r
  let r := if r.maximumReplicas < r.minimumAuthoritativeReplicas then
    { r with minimumAuthoritativeReplicas := r.maximumReplicas } else r
  let r := if r.desiredReplicas < r.minimumAuthoritativeReplicas then
    { r with desiredReplicas := r.minimumAuthoritativeReplicas } else r
  if r.maximumReplicas < r.desiredReplicas then
    { r with desiredReplicas := r.maximumReplicas } else r

def ReplicationPolicyRecord.effectiveRequirements (p : ReplicationPolicyRecord) :
    ReplicationRequirements :=
  p.requirements.ofForm.clamp

/-- Builds a default replication policy for a given form. -/
def makeReplicationPolicy (id : ReplicationPolicyId) (generation : ReplicationPolicyGeneration)
    (form : ReplicationPolicyForm) (replicaCount : UInt32) : ReplicationPolicyRecord :=
  let count := if replicaCount = 0 then 1 else replicaCount
  let diverse := max replicaCount 2
  let requirements : ReplicationRequirements :=
    match form with
    | .single =>
      { form := form, minimumAuthoritativeReplicas := 1, desiredReplicas := 1,
        maximumReplicas := 1 }
    | .nReplicas =>
      { form := form, minimumAuthoritativeReplicas := count, desiredReplicas := count,
        maximumReplicas := max count count }
    | .clusterDiverse =>
      { form := form, minimumAuthoritativeReplicas := diverse, desiredReplicas := diverse,
        maximumReplicas := diverse + 2, clusterDiversity := 2 }
    | .regionDiverse =>
      { form := form, minimumAuthoritativeReplicas := diverse, desiredReplicas := diverse,
        maximumReplicas := diverse + 2, regionDiversity := 2, clusterDiversity := 2 }
    | .policyCustom =>
      { form := form, minimumAuthoritativeReplicas := count, desiredReplicas := count,
        maximumReplicas := count }
  { replicationPolicyId := id, generation := generation, requirements := requirements }

end StateFabric
