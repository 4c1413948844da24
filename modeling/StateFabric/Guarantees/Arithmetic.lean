import StateFabric.Fabric.Operation

/-!
# The arithmetic of policies

The effective requirements of a replication policy, at the extremes of their fixed-width fields.
-/

namespace StateFabric

/-! ## Requirements -/

namespace ReplicationRequirements

/-- The counts are positive and ordered, and no diversity asks for more places than there may be
copies. -/
structure Satisfiable (r : ReplicationRequirements) : Prop where
  positive : 1 ≤ r.minimumAuthoritativeReplicas
  desired : r.minimumAuthoritativeReplicas ≤ r.desiredReplicas
  bounded : r.desiredReplicas ≤ r.maximumReplicas
  cluster : r.clusterDiversity ≤ r.maximumReplicas
  region : r.regionDiversity ≤ r.maximumReplicas
  failureDomain : r.failureDomainDiversity ≤ r.maximumReplicas

/-- The greatest diversity asked for. -/
def diversity (r : ReplicationRequirements) : Nat :=
  max r.clusterDiversity.toNat (max r.regionDiversity.toNat r.failureDomainDiversity.toNat)

/-- Clamped requirements are satisfiable when no diversity exceeds the maximum, to which the minimum
is lowered. -/
theorem clamp_spec (r : ReplicationRequirements) :
    (r.clamp.Satisfiable ↔ r.diversity ≤ max 1 r.maximumReplicas.toNat)
      ∧ r.clamp.minimumAuthoritativeReplicas.toNat
        = min (max 1 r.minimumAuthoritativeReplicas.toNat) (max 1 r.maximumReplicas.toNat) := by
  have hone : UInt32.toNat 1 = 1 := rfl
  obtain ⟨least, desired, most, hclamp, hcounts⟩ : ∃ least desired most : UInt32,
      r.clamp = { r with
        minimumAuthoritativeReplicas := least, desiredReplicas := desired, maximumReplicas := most }
        ∧ most.toNat = max 1 r.maximumReplicas.toNat
        ∧ least.toNat = min (max 1 r.minimumAuthoritativeReplicas.toNat) most.toNat
        ∧ least.toNat ≤ desired.toNat ∧ desired.toNat ≤ most.toNat := by
    have hzero : UInt32.toNat 0 = 0 := rfl
    simp only [clamp]
    split_ifs <;> refine ⟨_, _, _, rfl, ?_⟩ <;>
      simp only [UInt32.lt_iff_toNat_lt, ← UInt32.toNat_inj] at * <;> omega
  rw [hclamp, diversity]
  refine ⟨⟨fun h => ?_, fun h => ?_⟩, ?_⟩
  · have hcluster := UInt32.le_iff_toNat_le.mp h.cluster
    have hregion := UInt32.le_iff_toNat_le.mp h.region
    have hdomain := UInt32.le_iff_toNat_le.mp h.failureDomain
    simp only at hcluster hregion hdomain
    omega
  · constructor <;> simp only [UInt32.le_iff_toNat_le] <;> omega
  · change least.toNat = _
    omega

end ReplicationRequirements

open ReplicationRequirements in
/-- The effective requirements of a record are satisfiable if and only if its form asks for no more
diversity than its maximum; those of a built policy, and its minimum at least the requested count,
unless the maximum of a diverse form wraps around. -/
theorem requirements_satisfiable_iff (p : ReplicationPolicyRecord) (id : ReplicationPolicyId)
    (generation : ReplicationPolicyGeneration) (form : ReplicationPolicyForm) (count : UInt32) :
    (p.effectiveRequirements.Satisfiable
      ∧ (makeReplicationPolicy id generation form count).effectiveRequirements.Satisfiable
      ∧ (form ≠ .single → count ≤ (makeReplicationPolicy id generation form
        count).effectiveRequirements.minimumAuthoritativeReplicas))
      ↔ p.requirements.ofForm.diversity ≤ max 1 p.requirements.ofForm.maximumReplicas.toNat
        ∧ (form = .clusterDiverse ∨ form = .regionDiverse → count.toNat + 2 < 2 ^ 32) := by
  refine and_congr (clamp_spec _).1 ?_
  rw [UInt32.le_iff_toNat_le, ReplicationPolicyRecord.effectiveRequirements, (clamp_spec _).1,
    (clamp_spec _).2]
  have hlt := count.toNat_lt
  have hcount : (if count = 0 then 1 else count).toNat = max count.toNat 1 := by
    split
    · rename_i hzero
      rw [hzero]
      rfl
    · rename_i hne
      have : count.toNat ≠ 0 := fun hzero => hne (UInt32.toNat_inj.mp hzero)
      omega
  have htwo : UInt32.toNat 2 = 2 := rfl
  cases form with
  | single => simp [makeReplicationPolicy, ofForm, diversity]
  | nReplicas | policyCustom =>
    simp only [makeReplicationPolicy, ofForm, diversity, UInt32.toNat_max, hcount,
      UInt32.toNat_zero, ne_eq, reduceCtorEq, not_false_eq_true, true_imp_iff, or_self,
      false_imp_iff, iff_true]
    omega
  | clusterDiverse | regionDiverse =>
    simp only [makeReplicationPolicy, ofForm, diversity, UInt32.toNat_max, UInt32.toNat_add, htwo,
      UInt32.toNat_zero, ne_eq, reduceCtorEq, not_false_eq_true, true_imp_iff, or_true, true_or]
    omega

/-- The maximum of a diverse policy for the greatest count wraps around to one. -/
theorem maximum_wraps :
    (makeReplicationPolicy {} {} .clusterDiverse 4294967295).effectiveRequirements
      = { form := .clusterDiverse, maximumReplicas := 1, clusterDiversity := 2 } := by
  decide +kernel

end StateFabric
