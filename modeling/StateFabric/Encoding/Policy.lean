import StateFabric.Encoding.Basic
import StateFabric.Records

/-!
# Encoding of values and policies

The value and policy codecs of `src/detail/encoding.cpp`, field by field in the order of the
source.
-/

namespace StateFabric

open Reader ByteCodec

/-! ## Values -/

instance : Wire CostValue where
  codec := Layout.start CostValue CostValue.mk
    |>.field (enumerated "CostSource") (·.source) |>.field i64 (·.microUnits) |>.record

instance : Wire SizeValue where
  codec := Layout.start SizeValue SizeValue.mk
    |>.field boolean (·.present) |>.field u64 (·.bytes) |>.record

instance : Wire ReuseValue where
  codec := Layout.start ReuseValue ReuseValue.mk
    |>.field (enumerated "CostSource") (·.source) |>.field u64 (·.expectedReuseCount)
    |>.field u32 (·.probabilityPerMille)
    |>.check (fun v => decide (v.probabilityPerMille ≤ 1000))
      (makeError .persistenceCorrupt (text "reuse probability exceeds 1000 per mille"))
    |>.record

namespace Digest

/-- A digest is written without a length. -/
def encode (v : Digest) : Bytes := v.bytes.toList

/-- Reads the 32 bytes of a digest. -/
def decode : ByteReader Digest := do
  let bytes ← ByteReader.raw 32
  pure { bytes := Vector.ofFn fun index => bytes.getD index.val 0 }

/-- A digest is read back. -/
theorem reads (v : Digest) : Reads decode v.encode v := by
  have hbytes : (Vector.ofFn fun index : Fin 32 => v.bytes.toList.getD index.val 0) = v.bytes := by
    ext i hi
    simp [List.getD_eq_getElem?_getD]
  have hraw : Reads (ByteReader.raw 32) v.bytes.toList v.bytes.toList :=
    ByteReader.reads_raw (by simp)
  have hread := hraw.map
    fun bytes => ({ bytes := Vector.ofFn fun index => bytes.getD index.val 0 } : Digest)
  rw [hbytes] at hread
  exact hread

instance : Wire Digest := ⟨.total encode decode reads⟩

end Digest

/-! ## Policies -/

instance : Wire PlacementConstraints where
  codec := Layout.start PlacementConstraints PlacementConstraints.mk
    |>.field (idents "legal_clusters") (·.legalClusters)
    |>.field (idents "legal_regions") (·.legalRegions)
    |>.field (idents "prohibited_clusters") (·.prohibitedClusters)
    |>.field (idents "prohibited_regions") (·.prohibitedRegions)
    |>.field (strings maxClusterTagCount "required_capabilities") (·.requiredCapabilities)
    |>.field (strings maxClusterTagCount "required_storage_classes") (·.requiredStorageClasses)
    |>.field (strings maxClusterTagCount "required_sovereignty_tags") (·.requiredSovereigntyTags)
    |>.field boolean (·.requireLocality) |>.field (idents "locality_clusters") (·.localityClusters)
    |>.field u32 (·.minimumClusterDiversity) |>.field u32 (·.minimumRegionDiversity)
    |>.field u32 (·.minimumFailureDomainDiversity)
    |>.field (enumerated "DurabilityClass") (·.minimumDurability)
    |>.field (enumerated "ClusterHealthState") (·.requiredHealth)
    |>.field u64 (·.maximumEvidenceStalenessTicks) |>.field nested (·.requiredFreeCapacity)
    |>.field nested (·.maximumTransferCost) |>.field boolean (·.requireEncryptionAtRest)
    |>.field boolean (·.requireAttestation) |>.field boolean (·.requireIntegrityVerification)
    |>.field boolean (·.requireCompatibilityVerification) |>.record

instance : Wire RankingWeights where
  codec := Layout.start RankingWeights RankingWeights.mk
    |>.field i64 (·.expectedReuseValue) |>.field i64 (·.transferCost)
    |>.field i64 (·.reconstructionCost) |>.field i64 (·.availableBandwidth)
    |>.field i64 (·.predictedTransferDuration) |>.field i64 (·.storageCost)
    |>.field i64 (·.computeCost) |>.field i64 (·.regionAffinity) |>.field i64 (·.workloadAffinity)
    |>.field i64 (·.existingReplicaProximity) |>.field i64 (·.failureDomainDiversity)
    |>.field i64 (·.expectedFutureDemand) |>.field i64 (·.sourceHealth)
    |>.field i64 (·.destinationHealth) |>.field i64 (·.pressure) |>.field i64 (·.utilization)
    |>.record

instance : Wire CostPolicy where
  codec := Layout.start CostPolicy CostPolicy.mk
    |>.field (enumerated "CostSource") (·.source) |>.field i64 (·.transferMicroPerMib)
    |>.field i64 (·.egressMicroPerMib) |>.field i64 (·.storageMicroPerMibTick)
    |>.field i64 (·.computeMicroPerMib) |>.field i64 (·.acceleratorMicroPerMibTick)
    |>.field i64 (·.repairMicroPerMib) |>.field (str maxPolicyStringLength) (·.unitLabel) |>.record

instance : Wire ReplicationRequirements where
  codec := Layout.start ReplicationRequirements ReplicationRequirements.mk
    |>.field (enumerated "ReplicationPolicyForm") (·.form)
    |>.field u32 (·.minimumAuthoritativeReplicas) |>.field u32 (·.desiredReplicas)
    |>.field u32 (·.maximumReplicas) |>.field u32 (·.regionDiversity)
    |>.field u32 (·.clusterDiversity) |>.field u32 (·.failureDomainDiversity)
    |>.field (enumerated "DurabilityClass") (·.minimumDurability) |>.record

instance : Wire EligibilityRules where
  codec := Layout.start EligibilityRules EligibilityRules.mk
    |>.field (idents "allowed_clusters") (·.allowedClusters)
    |>.field (idents "denied_clusters") (·.deniedClusters) |>.field boolean (·.requireHealthySource)
    |>.field boolean (·.requireHealthyDestination) |>.field boolean (·.requireAvailableCapacity)
    |>.field boolean (·.allowSameCluster) |>.field boolean (·.requireFreshEvidence)
    |>.field u32 (·.maximumInFlightOperationsPerState) |>.record

instance : Wire ReuseAuthorityRules where
  codec := Layout.start ReuseAuthorityRules ReuseAuthorityRules.mk
    |>.field boolean (·.requireVerifiedIntegrity) |>.field boolean (·.requireVerifiedCompatibility)
    |>.field boolean (·.requireCurrentStateGeneration)
    |>.field boolean (·.requireReplicaSetMembership)
    |>.field boolean (·.requireCurrentClusterIncarnation)
    |>.field boolean (·.requireCurrentCoordinatorEpoch) |>.field boolean (·.allowHistoricalReadOnly)
    |>.record

instance : Wire RetentionPolicy where
  codec := Layout.start RetentionPolicy RetentionPolicy.mk
    |>.field boolean (·.retainHistoricalRecords) |>.field u64 (·.staleCopyRetirementTicks)
    |>.field u32 (·.maximumReplicasPerState) |>.field u32 (·.hotHistoryRecordsPerState) |>.record

instance : Wire RepairPolicy where
  codec := Layout.start RepairPolicy RepairPolicy.mk
    |>.field boolean (·.automaticRepairEnabled) |>.field u32 (·.maximumConcurrentRepairs)
    |>.field u32 (·.repairAttemptLimit) |>.record

instance : Wire RevalidationRequirements where
  codec := Layout.start RevalidationRequirements RevalidationRequirements.mk
    |>.field boolean (·.requireRevalidationAfterClusterReincarnation)
    |>.field boolean (·.requireRevalidationAfterCoordinatorRestart)
    |>.field boolean (·.requireFreshHealthEvidence)
    |>.field boolean (·.requireFreshCapabilityEvidence) |>.record

instance : Wire PlacementPolicyRecord where
  codec := Layout.start PlacementPolicyRecord PlacementPolicyRecord.mk
    |>.field ident (·.placementPolicyId) |>.field ident (·.generation)
    |>.field nested (·.constraints) |>.field nested (·.weights) |>.field nested (·.costPolicy)
    |>.field u64 (·.updatedAt) |>.record

instance : Wire ReplicationPolicyRecord where
  codec := Layout.start ReplicationPolicyRecord ReplicationPolicyRecord.mk
    |>.field ident (·.replicationPolicyId) |>.field ident (·.generation)
    |>.field nested (·.requirements) |>.field nested (·.sourceRules)
    |>.field nested (·.destinationRules) |>.field nested (·.reuseRules)
    |>.field nested (·.retention) |>.field nested (·.repair) |>.field nested (·.revalidation)
    |>.field (enumerated "DegradedBehavior") (·.degradedBehavior)
    |>.field (enumerated "OperationFailureAction") (·.failureAction) |>.field u64 (·.updatedAt)
    |>.record

end StateFabric
