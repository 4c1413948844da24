import StateFabric.Encoding.Policy

/-!
# Encoding of records

The record codecs of `src/detail/encoding.cpp` and of `src/compatibility.cpp`, field by field in
the order of the source.
-/

namespace StateFabric

open Reader ByteCodec

def maxEncodedStringBytes : Nat := 4096
def maxLocationDescriptorLength : Nat := 256
def maxFailureReasonLength : Nat := 256
def maxDecodedMembers : Nat := 4096
def maxDecodedJournalEntries : Nat := maxOperationJournalEntries

/-! ## Compatibility -/

namespace CompatibilityDescriptor

/-- One round of the attribute loop. -/
def decodeAttribute (seen : Std.ExtTreeMap Text Text) : ByteReader (Std.ExtTreeMap Text Text) := do
  let key ← ByteReader.str maxCompatibilityKeyLength
  let value ← ByteReader.str maxCompatibilityValueLength
  guard (!key.isEmpty) (makeError .invalidArgument (text "empty compatibility attribute key"))
  guard (!(value.isEmpty && key.isEmpty))
    (makeError .invalidArgument (text "empty compatibility attribute"))
  guard (decide (seen.size < maxCompatibilityAttributes))
    (makeError .resourceExhausted (text "compatibility attribute count exceeds the bound"))
  guard seen[key]?.isNone
    (makeError .invalidArgument (text "duplicate compatibility attribute key"))
  pure (seen.insert key value)

def decode : ByteReader CompatibilityDescriptor := do
  let count ← ByteReader.u32
  guard (decide (count.toNat ≤ maxCompatibilityAttributes))
    (makeError .resourceExhausted (text "compatibility attribute count exceeds the bound"))
  let attributes ← iterate decodeAttribute count.toNat ∅
  pure { attributes }

def attributeFits (entry : Text × Text) : Bool :=
  !entry.1.isEmpty && ByteReader.textFits maxCompatibilityKeyLength entry.1
    && ByteReader.textFits maxCompatibilityValueLength entry.2

def fits (v : CompatibilityDescriptor) : Bool :=
  decide (v.attributes.size ≤ maxCompatibilityAttributes) && v.attributes.toList.all attributeFits

/-- What `encode` writes of one attribute. -/
def attributeBytes (entry : Text × Text) : Bytes :=
  [ByteWriter.str entry.1, ByteWriter.str entry.2].flatten

theorem reads_attribute {seen : Std.ExtTreeMap Text Text} {key value : Text}
    (bounded : attributeFits (key, value) = true) (new : seen[key]? = none)
    (room : seen.size < maxCompatibilityAttributes) :
    Reads (decodeAttribute seen) (attributeBytes (key, value)) (seen.insert key value) := by
  intro rest
  simp only [attributeFits, Bool.and_eq_true] at bounded
  obtain ⟨⟨hpresent, hkey⟩, hvalue⟩ := bounded
  have hnonempty : (!(value.isEmpty && key.isEmpty)) = true := by
    rw [Bool.not_eq_true'] at hpresent ⊢
    rw [hpresent, Bool.and_false]
  simp only [attributeBytes, decodeAttribute]
  simp only [↓run_str, hkey, hvalue, ↓run_guard, hpresent, hnonempty, decide_eq_true room, new,
    Option.isNone_none, List.flatten_nil, List.nil_append, run_pure]

theorem reads {v : CompatibilityDescriptor} (h : v.fits = true) : Reads decode v.encode v := by
  obtain ⟨hcount, hall⟩ := Bool.and_eq_true_iff.mp h
  have hcount : v.attributes.size ≤ maxCompatibilityAttributes := of_decide_eq_true hcount
  have hsize : (UInt32.ofNat v.attributes.size).toNat = v.attributes.size :=
    UInt32.toNat_ofNat_of_lt' (Nat.lt_of_le_of_lt hcount (by decide))
  have hentries : Reads (iterate decodeAttribute v.attributes.size ∅)
      (v.attributes.toList.flatMap attributeBytes) v.attributes := by
    refine reads_entries v.attributes fun seen key value hfound hnew hroom => ?_
    have hmem := OrderedMap.mem_toList_iff.mpr hfound
    exact reads_attribute (List.all_eq_true.mp hall _ hmem) hnew (Nat.lt_of_lt_of_le hroom hcount)
  have hwritten : v.encode = ByteWriter.u32 (UInt32.ofNat v.attributes.size)
      ++ ([] ++ v.attributes.toList.flatMap attributeBytes) := by
    have hpart : attributeBytes
        = fun entry : Text × Text => ByteWriter.str entry.1 ++ ByteWriter.str entry.2 := by
      funext entry
      simp [attributeBytes]
    simp only [encode, hpart, List.nil_append]
  rw [hwritten]
  refine (ByteReader.reads_u32 _).bind ((reads_guard ?_ _).bind ?_)
  · rw [hsize]
    exact decide_eq_true hcount
  · rw [hsize]
    exact hentries.map CompatibilityDescriptor.mk

/-- The attributes read so far are within the bounds. -/
def Accepts (seen : Std.ExtTreeMap Text Text) : Prop :=
  seen.size ≤ maxCompatibilityAttributes ∧ ∀ entry ∈ seen.toList, attributeFits entry = true

theorem Accepts.insert {seen : Std.ExtTreeMap Text Text} (h : Accepts seen) {key value : Text}
    (room : (seen.insert key value).size ≤ maxCompatibilityAttributes)
    (bounded : attributeFits (key, value) = true) : Accepts (seen.insert key value) := by
  refine ⟨room, ?_⟩
  rintro ⟨k, v⟩ hmem
  have hfound := OrderedMap.mem_toList_iff.mp hmem
  rw [OrderedMap.getElem?_insert_eq] at hfound
  split at hfound
  · rename_i hk
    subst hk
    obtain rfl := Option.some.inj hfound
    exact bounded
  · exact h.2 _ (OrderedMap.mem_toList_iff.mpr hfound)

theorem ensures_attribute {seen : Std.ExtTreeMap Text Text} (h : Accepts seen) :
    Ensures (decodeAttribute seen) Accepts := by
  refine (str _).bounded.bind fun key hkey => (str _).bounded.bind fun value hvalue =>
    (ensures_guard _ _).bind fun _ hpresent => (ensures_true _).bind fun _ _ =>
    (ensures_guard _ _).bind fun _ hroom => (ensures_true _).bind fun _ _ =>
    ensures_pure (h.insert ?_ ?_)
  · have hroom : seen.size < maxCompatibilityAttributes := of_decide_eq_true hroom
    have hinsert : (seen.insert key value).size ≤ seen.size + 1 := Std.ExtTreeMap.size_insert_le
    omega
  · simp only [attributeFits, Bool.and_eq_true]
    exact ⟨⟨hpresent, hkey⟩, hvalue⟩

theorem bounded : Ensures decode fun v => v.fits = true := by
  refine (ensures_true _).bind fun count _ => (ensures_true _).bind fun _ _ => ?_
  have hloop : Ensures (iterate decodeAttribute count.toNat ∅) Accepts := by
    intro bytes seen rest hrun
    refine iterate_invariant (I := Accepts) ?_ hrun ⟨Nat.zero_le _, by simp⟩
    intro seen bytes seen' rest hround haccepts
    exact ensures_attribute haccepts bytes seen' rest hround
  refine hloop.bind fun attributes haccepts => ensures_pure ?_
  rw [fits, Bool.and_eq_true, decide_eq_true_eq, List.all_eq_true]
  exact haccepts

instance : Wire CompatibilityDescriptor :=
  ⟨{ encode := encode, decode := decode, fits := fits, reads := fun _ => reads, bounded := bounded }⟩

end CompatibilityDescriptor

instance : Wire CompatibilityRecord where
  codec := Layout.start CompatibilityRecord CompatibilityRecord.mk
    |>.field ident (·.compatibilityId) |>.field ident (·.generation) |>.field nested (·.descriptor)
    |>.field (str maxEncodedStringBytes) (·.producer) |>.field u64 (·.publishedAt)
    |>.field boolean (·.revalidationRequired) |>.record

/-! ## State generations -/

instance : Wire StateProvenance where
  codec := Layout.start StateProvenance StateProvenance.mk
    |>.field (str maxEncodedStringBytes) (·.producer) |>.field ident (·.originCluster)
    |>.field ident (·.originIncarnation) |>.field ident (·.sourceGeneration)
    |>.field ident (·.sourceReplica) |>.field ident (·.operation) |>.field ident (·.workerBoot)
    |>.field ident (·.coordinatorEpoch) |>.field ident (·.commit)
    |>.field (str maxEncodedStringBytes) (·.verification) |>.field u64 (·.recordedAt)
    |>.field boolean (·.revalidated) |>.field u64 (·.revalidatedAt) |>.record

instance : Wire ReconstructionIdentity where
  codec := Layout.start ReconstructionIdentity ReconstructionIdentity.mk
    |>.field ident (·.reconstructionId) |>.field (str maxEncodedStringBytes) (·.method)
    |>.field nested (·.outputSize) |>.field nested (·.estimatedCost)
    |>.field boolean (·.deterministic) |>.record

instance : Wire StateGenerationRecord where
  codec := Layout.start StateGenerationRecord StateGenerationRecord.mk
    |>.field ident (·.stateId) |>.field ident (·.generation) |>.field ident (·.lineage)
    |>.field boolean (·.branch) |>.field ident (·.branchesFrom)
    |>.field (enumerated "StateClass") (·.stateClass)
    |>.field (enumerated "ConsistencyMode") (·.consistency)
    |>.field (enumerated "StateGenerationLifecycle") (·.lifecycle) |>.field nested (·.logicalSize)
    |>.field nested (·.physicalSize) |>.field nested (·.contentDigest)
    |>.field (enumerated "IntegrityAlgorithm") (·.digestAlgorithm)
    |>.field ident (·.compatibilityId) |>.field ident (·.compatibilityGeneration)
    |>.field nested (·.compatibilityRequired) |>.field nested (·.reconstruction)
    |>.field (enumerated "DurabilityClass") (·.durability)
    |>.field (enumerated "ReuseClass") (·.reuseClass) |>.field nested (·.placementConstraints)
    |>.field nested (·.replicationRequirements) |>.field nested (·.provenance)
    |>.field nested (·.expectedReuse) |>.field nested (·.transferCost)
    |>.field nested (·.reconstructionCost) |>.field ident (·.replicaSetId)
    |>.field ident (·.replicaSetGeneration) |>.field ident (·.commit)
    |>.field ident (·.committedEpoch) |>.field u64 (·.registeredAt) |>.field u64 (·.committedAt)
    |>.field boolean (·.revalidationRequired) |>.record

/-! ## Clusters -/

instance : Wire ClusterCapabilities where
  codec := Layout.start ClusterCapabilities ClusterCapabilities.mk
    |>.field (strings maxClusterTagCount "capability tags") (·.tags)
    |>.field (strings maxClusterTagCount "storage classes") (·.storageClasses)
    |>.field (strings maxClusterTagCount "accelerator architectures") (·.acceleratorArchitectures)
    |>.field boolean (·.encryptionAtRest) |>.field boolean (·.attestation) |>.record

/-- The capacity of a cluster; `overused` and `overutilized` report the two checks. -/
def capacityCodec (overused overutilized : Error) : ByteCodec ClusterCapacity :=
  Layout.start ClusterCapacity ClusterCapacity.mk
    |>.field u64 (·.totalLogicalBytes) |>.field u64 (·.usedLogicalBytes)
    |>.check (fun make => let v := make 0 0 0; decide (v.usedLogicalBytes ≤ v.totalLogicalBytes))
      overused
    |>.field u64 (·.inboundBytesPerTick) |>.field u32 (·.freeTransferSlots)
    |>.field u32 (·.utilizationPerMille)
    |>.check (fun v => decide (v.utilizationPerMille ≤ 1000)) overutilized
    |>.record

instance : Wire ClusterCapacity where
  codec := capacityCodec
    (makeError .persistenceCorrupt (text "cluster used capacity exceeds total capacity"))
    (makeError .persistenceCorrupt (text "cluster utilization exceeds 1000 per mille"))

instance : Wire ClusterLocation where
  codec := Layout.start ClusterLocation ClusterLocation.mk
    |>.field ident (·.region) |>.field ident (·.site) |>.field ident (·.failureDomain)
    |>.field (str maxLocationDescriptorLength) (·.descriptor) |>.record

instance : Wire ClusterEvidence where
  codec := Layout.start ClusterEvidence ClusterEvidence.mk
    |>.field ident (·.capabilityGeneration) |>.field ident (·.healthGeneration)
    |>.field ident (·.topologyGeneration) |>.field ident (·.costGeneration)
    |>.field ident (·.evidenceGeneration) |>.field u64 (·.publishedAt)
    |>.field ident (·.coordinatorEpoch) |>.field boolean (·.revalidationRequired)
    |>.field boolean (·.present) |>.record

instance : Wire ClusterRecord where
  codec := Layout.start ClusterRecord ClusterRecord.mk
    |>.field ident (·.clusterId) |>.field ident (·.incarnation)
    |>.field (enumerated "ClusterLifecycle") (·.lifecycle)
    |>.field (enumerated "ClusterHealthState") (·.health) |>.field nested (·.location)
    |>.field ident (·.workerId) |>.field ident (·.workerBootId) |>.field nested (·.capabilities)
    |>.field nested (·.capacity) |>.field nested (·.evidence) |>.field ident (·.registeredEpoch)
    |>.field ident (·.lastEvidenceEpoch) |>.field u64 (·.registeredAt) |>.field u64 (·.updatedAt)
    |>.field u64 (·.incarnationStartedAt) |>.field boolean (·.liveAuthority)
    |>.field u32 (·.hostedReplicaCount) |>.field u32 (·.historicalReplicaCount)
    |>.field u32 (·.reincarnationCount) |>.record

/-! ## Replicas and replica sets -/

instance : Wire ReplicaLocation where
  codec := Layout.start ReplicaLocation ReplicaLocation.mk
    |>.field ident (·.clusterId) |>.field ident (·.clusterIncarnation) |>.field ident (·.region)
    |>.field ident (·.site) |>.field ident (·.failureDomain)
    |>.field (str maxLocationDescriptorLength) (·.descriptor) |>.record

instance : Wire ReplicaEvidence where
  codec := Layout.start ReplicaEvidence ReplicaEvidence.mk
    |>.field ident (·.integrityGeneration) |>.field ident (·.compatibilityGeneration)
    |>.field ident (·.evidenceGeneration) |>.field ident (·.capabilityGeneration)
    |>.field ident (·.healthGeneration) |>.field ident (·.verificationId)
    |>.field u64 (·.verifiedAt) |>.field ident (·.coordinatorEpoch)
    |>.field boolean (·.revalidationRequired) |>.field boolean (·.integrityEvidencePresent)
    |>.field boolean (·.compatibilityEvidencePresent) |>.record

instance : Wire ReplicaRecord where
  codec := Layout.start ReplicaRecord ReplicaRecord.mk
    |>.field ident (·.replicaId) |>.field ident (·.replicaGeneration) |>.field ident (·.stateId)
    |>.field ident (·.stateGeneration) |>.field ident (·.replicaSetId)
    |>.field ident (·.replicaSetGeneration) |>.field nested (·.location)
    |>.field (enumerated "ReplicaLifecycle") (·.lifecycle)
    |>.field (enumerated "ReplicaIntegrityState") (·.integrity)
    |>.field (enumerated "ReplicaCompatibilityState") (·.compatibility)
    |>.field (enumerated "ReplicaDurabilityState") (·.durability)
    |>.field (enumerated "ReplicaAvailabilityState") (·.availability)
    |>.field (enumerated "ReplicaAuthorityState") (·.authority) |>.field nested (·.contentDigest)
    |>.field nested (·.measuredDigest)
    |>.field (enumerated "IntegrityAlgorithm") (·.digestAlgorithm)
    |>.field ident (·.compatibilityId) |>.field ident (·.compatibilityGeneration)
    |>.field nested (·.compatibilityDescriptor) |>.field nested (·.logicalSize)
    |>.field nested (·.transferredBytes) |>.field nested (·.provenance) |>.field nested (·.evidence)
    |>.field ident (·.workerId) |>.field ident (·.workerBootId) |>.field ident (·.createdEpoch)
    |>.field ident (·.lastEpoch) |>.field u64 (·.createdAt) |>.field u64 (·.updatedAt)
    |>.field ident (·.transferId) |>.field ident (·.transferGeneration)
    |>.field ident (·.operationId) |>.field ident (·.operationGeneration)
    |>.field ident (·.commitId) |>.field u32 (·.attemptCount)
    |>.field (str maxFailureReasonLength) (·.lastError) |>.field boolean (·.commitRecorded)
    |>.field boolean (·.countsTowardFactor) |>.record

instance : Wire ReplicaSetMember where
  codec := Layout.start ReplicaSetMember ReplicaSetMember.mk
    |>.field ident (·.replicaId) |>.field ident (·.replicaGeneration) |>.field ident (·.clusterId)
    |>.field ident (·.clusterIncarnation) |>.field ident (·.region) |>.field ident (·.failureDomain)
    |>.field boolean (·.authoritative) |>.field (enumerated "ReplicaLifecycle") (·.lifecycle)
    |>.field (enumerated "ReplicaIntegrityState") (·.integrity)
    |>.field (enumerated "ReplicaCompatibilityState") (·.compatibility)
    |>.field (enumerated "ReplicaAuthorityState") (·.authority) |>.field ident (·.commitId)
    |>.field u64 (·.joinedAt) |>.record

instance : Wire ReplicaSetRecord where
  codec := Layout.start ReplicaSetRecord ReplicaSetRecord.mk
    |>.field ident (·.replicaSetId) |>.field ident (·.generation) |>.field ident (·.stateId)
    |>.field ident (·.stateGeneration) |>.field (enumerated "ReplicaSetState") (·.state)
    |>.field nested (·.requirements)
    |>.field (vector maxDecodedMembers "authoritative members" nested) (·.authoritativeMembers)
    |>.field (vector maxDecodedMembers "degraded members" nested) (·.degradedMembers)
    |>.field u32 (·.authoritativeCount) |>.field u32 (·.degradedCount)
    |>.field u32 (·.distinctClusters) |>.field u32 (·.distinctRegions)
    |>.field u32 (·.distinctFailureDomains) |>.field ident (·.placementId)
    |>.field ident (·.placementGeneration) |>.field ident (·.epoch) |>.field ident (·.lastCommit)
    |>.field u64 (·.createdAt) |>.field u64 (·.updatedAt) |>.field boolean (·.revalidationRequired)
    |>.record

/-! ## Operations and ownership -/

instance : Wire TransferAuthorization where
  codec := Layout.start TransferAuthorization TransferAuthorization.mk
    |>.field ident (·.operationId) |>.field ident (·.operationGeneration)
    |>.field (enumerated "OperationKind") (·.kind) |>.field ident (·.migrationId)
    |>.field ident (·.migrationGeneration) |>.field ident (·.transferId)
    |>.field ident (·.transferGeneration) |>.field ident (·.reservationId)
    |>.field ident (·.reservationGeneration) |>.field ident (·.stateId)
    |>.field ident (·.stateGeneration) |>.field ident (·.replicaSetId)
    |>.field ident (·.replicaSetGeneration) |>.field ident (·.sourceReplica)
    |>.field ident (·.sourceReplicaGeneration) |>.field ident (·.sourceCluster)
    |>.field ident (·.sourceIncarnation) |>.field ident (·.destinationReplica)
    |>.field ident (·.destinationReplicaGeneration) |>.field ident (·.destinationCluster)
    |>.field ident (·.destinationIncarnation) |>.field ident (·.placementId)
    |>.field ident (·.placementGeneration) |>.field ident (·.coordinatorEpoch)
    |>.field nested (·.transferBytes) |>.field nested (·.expectedDigest)
    |>.field (enumerated "IntegrityAlgorithm") (·.digestAlgorithm)
    |>.field u64 (·.reservationExpiresAt) |>.field u64 (·.authorizedAt)
    |>.field boolean (·.destructiveMove) |>.record

instance : Wire OperationRecord where
  codec := Layout.start OperationRecord OperationRecord.mk
    |>.field ident (·.operationId) |>.field ident (·.operationGeneration)
    |>.field (enumerated "OperationKind") (·.kind) |>.field (enumerated "OperationState") (·.state)
    |>.field ident (·.stateId) |>.field ident (·.stateGeneration) |>.field ident (·.sourceReplica)
    |>.field ident (·.sourceReplicaGeneration) |>.field ident (·.sourceCluster)
    |>.field ident (·.sourceIncarnation) |>.field ident (·.destinationReplica)
    |>.field ident (·.destinationReplicaGeneration) |>.field ident (·.destinationCluster)
    |>.field ident (·.destinationIncarnation) |>.field ident (·.migrationId)
    |>.field ident (·.migrationGeneration) |>.field ident (·.transferId)
    |>.field ident (·.transferGeneration) |>.field ident (·.reservationId)
    |>.field ident (·.reservationGeneration) |>.field ident (·.replicationPolicyId)
    |>.field ident (·.replicationPolicyGenerationRecorded) |>.field ident (·.placementPolicyId)
    |>.field ident (·.sourceReplicaSetGeneration) |>.field ident (·.committedReplicaSetGeneration)
    |>.field ident (·.placementGeneration) |>.field ident (·.placementPolicyGeneration)
    |>.field ident (·.replicationPolicyGeneration) |>.field ident (·.plannedEpoch)
    |>.field ident (·.lastEpoch) |>.field ident (·.commitId) |>.field nested (·.transferBytes)
    |>.field nested (·.transferredBytes) |>.field nested (·.expectedDigest)
    |>.field nested (·.measuredDigest)
    |>.field (enumerated "OperationFailureAction") (·.failureAction)
    |>.field (enumerated "CancellationOutcome") (·.cancellation) |>.field u64 (·.plannedAt)
    |>.field u64 (·.updatedAt) |>.field u64 (·.reservationExpiresAt)
    |>.field boolean (·.destructiveMove) |>.field boolean (·.sourceRetired)
    |>.field boolean (·.destinationVerified) |>.field boolean (·.destinationCommitted)
    |>.field boolean (·.recoveryRequired) |>.field (str maxFailureReasonLength) (·.reason)
    |>.field (str maxFailureReasonLength) (·.lastError)
    |>.field (strings maxDecodedJournalEntries "operation journal") (·.journal) |>.record

instance : Wire OwnershipRecord where
  codec := Layout.start OwnershipRecord OwnershipRecord.mk
    |>.field ident (·.stateId) |>.field ident (·.stateGeneration) |>.field ident (·.ownerReplica)
    |>.field ident (·.ownerReplicaGeneration) |>.field ident (·.ownerCluster)
    |>.field ident (·.ownerIncarnation) |>.field ident (·.epoch) |>.field ident (·.commit)
    |>.field ident (·.placementId) |>.field ident (·.placementGeneration)
    |>.field u64 (·.establishedAt) |>.field boolean (·.active) |>.record

instance : Wire FabricCounters where
  codec := Layout.start FabricCounters FabricCounters.mk
    |>.field u64 (·.statesRegistered) |>.field u64 (·.generationsRegistered)
    |>.field u64 (·.generationsCommitted) |>.field u64 (·.generationsSuperseded)
    |>.field u64 (·.clustersRegistered) |>.field u64 (·.clusterReincarnations)
    |>.field u64 (·.clusterIncarnationsFenced) |>.field u64 (·.replicasRegistered)
    |>.field u64 (·.replicasCommitted) |>.field u64 (·.replicasRetired)
    |>.field u64 (·.replicasQuarantined) |>.field u64 (·.replicasAbandoned)
    |>.field u64 (·.replicasFenced) |>.field u64 (·.operationsPlanned)
    |>.field u64 (·.operationsReserved) |>.field u64 (·.operationsCommitted)
    |>.field u64 (·.operationsFailed) |>.field u64 (·.operationsCancelled)
    |>.field u64 (·.operationsAbandoned) |>.field u64 (·.operationsRecovered)
    |>.field u64 (·.transfersStarted) |>.field u64 (·.transfersCompleted)
    |>.field u64 (·.bytesTransferred) |>.field u64 (·.integrityVerifications)
    |>.field u64 (·.integrityFailures) |>.field u64 (·.compatibilityRejections)
    |>.field u64 (·.staleRejections) |>.field u64 (·.conflictsRejected)
    |>.field u64 (·.durableCommits) |>.field u64 (·.journalRecordsApplied)
    |>.field u64 (·.snapshotsWritten) |>.field u64 (·.ownershipTransfers)
    |>.field u64 (·.activeOperations) |>.field u64 (·.activeTransfers)
    |>.field u64 (·.reservedBytes) |>.field u64 (·.reservedTransferSlots) |>.record

end StateFabric
