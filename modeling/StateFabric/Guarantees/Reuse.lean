import StateFabric.Guarantees.Membership
import StateFabric.Refinement.Revision

/-!
# Reuse

A reuse evaluation answers for one generation in one cluster.  The answer is consistent when its
assessment is that of the copy it names (`ReportConsistent`).

The loop keeps one assessment for the lowest permitted copy and for the lowest refused one, so a
refused copy stored after the permitted one replaces the assessment of the copy that is returned.

What an assessment grants splits into the conditions that hold under any policy (`serves`) and the
gates of the policy (`permits_iff`).  Under the default rules these come down to what a copy takes
to be reused (`qualifies`); without a policy every gate is open.
-/

namespace StateFabric

open Protocol Transition ControlPlane OrderedMap ReuseSearch Scenario

variable {context : AuthorityContext} {policy : ReplicationPolicyRecord} {set : ReplicaSetRecord}

variable {replica : ReplicaRecord} {state : StateGenerationRecord} {cluster : ClusterRecord}

/-! ## What a granted copy takes -/

/-- Only copies of a registered generation in a registered cluster are permitted. -/
theorem asksKnown_of_permits {p : ControlPlane} {config : FabricConfig} {key : StateKey}
    {clusterId : ClusterId} (h : permits (p.reuseContext config key clusterId) replica = true) :
    p.asksKnown key clusterId = true := by
  have hdenials := assessmentPermitsReuse_iff.mp h
  simp only [authorityDenials, List.forall_mem_cons] at hdenials
  obtain ⟨-, -, -, hcluster, -, -, -, -, hstate, -⟩ := hdenials
  simp only [reuseContext, authorityContext, Option.isNone_eq_false_iff] at hcluster hstate
  exact Bool.and_eq_true_iff.mpr ⟨hstate, hcluster⟩

/-! ## The report -/

/-- The assessment an answer carries is that of the copy it names: of the copy whose reuse it
permits, or else of the lowest copy of the generation in the cluster. -/
structure ReportConsistent (p : ControlPlane) (config : FabricConfig) (key : StateKey)
    (clusterId : ClusterId) (answer : ReuseEvaluation) : Prop where
  permitted : answer.decision ≠ .reject →
    answer.assessment.code = .ok ∧ answer.assessment.authoritativeForReuse = true
      ∧ ∃ replica ∈ p.hosted key clusterId, replica.replicaId = answer.replica
        ∧ answer.assessment
          = assessReplicaAuthority replica (p.reuseContext config key clusterId)
  refused : answer.decision = .reject → answer.code ≠ .ok
    ∧ (answer.replica.valid = true → ∃ replica, lowest (p.hosted key clusterId) = some replica
      ∧ replica.replicaId = answer.replica
      ∧ answer.assessment = assessReplicaAuthority replica (p.reuseContext config key clusterId))

section Report

variable {p : ControlPlane} {config : FabricConfig} {key : StateKey} {clusterId : ClusterId}

theorem reportConsistent_of_none
    (h : lowestPermitted (p.reuseContext config key clusterId) (p.hosted key clusterId) = none) :
    ReportConsistent p config key clusterId (evaluateReuse p config key clusterId) := by
  cases hknown : p.asksKnown key clusterId with
  | false =>
    obtain ⟨hreject, hcode, hnone⟩ := evaluateReuse_unknown config hknown
    refine ⟨fun hnot => absurd hreject hnot, fun _ => ⟨hcode, fun hvalid => ?_⟩⟩
    rw [hnone] at hvalid
    cases hvalid
  | true =>
    obtain ⟨hreject, -, hreplica, hassessment⟩ := evaluateReuse_refused hknown h
    refine ⟨fun hnot => absurd hreject hnot,
      fun _ => ⟨evaluateReuse_refused_code hknown h, fun hvalid => ?_⟩⟩
    cases hlowest : lowest (p.hosted key clusterId) with
    | none =>
      rw [hreplica, hlowest] at hvalid
      cases hvalid
    | some replica =>
      rw [hlowest] at hreplica hassessment
      exact ⟨replica, rfl, hreplica.symm, hassessment⟩

/-- A permission is reported consistently when its assessment is the one remembered. -/
theorem reportConsistent_iff_of_some {best : ReplicaRecord}
    (h : lowestPermitted (p.reuseContext config key clusterId) (p.hosted key clusterId)
      = some best) :
    ReportConsistent p config key clusterId (evaluateReuse p config key clusterId)
      ↔ inOrder (p.reuseContext config key clusterId) (p.hosted key clusterId) = true := by
  obtain ⟨hmem, hpermits⟩ := mem_of_lowestPermitted h
  obtain ⟨hdecision, -, hreplica, hassessment⟩ :=
    evaluateReuse_permitted (asksKnown_of_permits hpermits) h
  cases horder : inOrder (p.reuseContext config key clusterId) (p.hosted key clusterId) with
  | true =>
    rw [remembered_of_inOrder h horder, Option.elim_some] at hassessment
    refine iff_of_true ⟨fun _ => ?_, fun hreject => absurd hreject hdecision⟩ rfl
    obtain ⟨hgranted, hcode⟩ := Bool.and_eq_true_iff.mp hpermits
    rw [hassessment]
    exact ⟨beq_iff_eq.mp hcode, hgranted, best, hmem, hreplica.symm, rfl⟩
  | false =>
    obtain ⟨rejected, hremembered, hrefused⟩ := remembered_of_not_inOrder horder
    rw [hremembered, Option.elim_some] at hassessment
    refine iff_of_false (fun hconsistent => ?_) Bool.false_ne_true
    obtain ⟨hcode, -⟩ := hconsistent.permitted hdecision
    rw [hassessment] at hcode
    exact code_ne_ok_of_refused hrefused hcode

end Report

/-- The report is consistent exactly when the lowest refused copy, if there is one next to a
permitted one, is stored before it. -/
theorem reuse_report_consistent_iff (p : ControlPlane) (config : FabricConfig) (key : StateKey)
    (clusterId : ClusterId) :
    ReportConsistent p config key clusterId (evaluateReuse p config key clusterId)
      ↔ inOrder (p.reuseContext config key clusterId) (p.hosted key clusterId) = true := by
  cases hbest : lowestPermitted (p.reuseContext config key clusterId) (p.hosted key clusterId) with
  | none => exact iff_of_true (reportConsistent_of_none hbest) (by simp [inOrder, hbest])
  | some => exact reportConsistent_iff_of_some hbest

/-- A verified copy, and a second one staged after it in the same cluster. -/
def Scenario.stagedBeside : List Mutation :=
  [Scenario.cluster 1, Scenario.state 1 1 .immutable, stateCommit 1 1 1] ++ copy 11 1 1 1 2 false
    ++ [Scenario.replica 12 1 1 1]

/-- The copy returned is permitted, and the assessment returned with it is a refusal. -/
theorem reuse_report_of_staged_copy :
    ∃ r, ReachableRuntime r
      ∧ ¬ ReportConsistent r.plane config ⟨⟨1⟩, ⟨1⟩⟩ ⟨1⟩
          (evaluateReuse r.plane config ⟨⟨1⟩, ⟨1⟩⟩ ⟨1⟩) := by
  refine ⟨reach stagedBeside, reachable stagedBeside, fun hconsistent => ?_⟩
  obtain ⟨hcode, -⟩ := hconsistent.permitted (by decide +kernel)
  revert hcode
  decide +kernel

/-! ## The conditions on a copy -/

/-- What reuse of a copy takes whatever the policy. -/
def ReplicaRecord.serves (replica : ReplicaRecord) (cluster : ClusterRecord)
    (epoch : CoordinatorEpoch) : Bool :=
  (replica.lifecycle == .authoritative || replica.lifecycle == .degraded)
    && replica.authority != .fenced && replica.availability != .absent
    && !replica.evidence.revalidationRequired
    && replica.integrity != .corrupt && replica.integrity != .mismatch
    && replica.compatibility != .incompatible
    && cluster.liveAuthority && cluster.incarnation == replica.location.clusterIncarnation
    && (!replica.lastEpoch.valid || replica.lastEpoch.value ≤ epoch.value)

/-- Every gate is open. -/
def PolicyGates.allOpen (gates : PolicyGates) : Bool :=
  gates.integrity && gates.compatibility && gates.generation && gates.membership && gates.evidence

/-- The denials come down to the conditions that hold under any policy and the policy's gates. -/
theorem permits_iff (hstate : context.state = some state)
    (hcluster : context.cluster = some cluster) (hkey : state.key = replica.key) :
    permits context replica = true ↔ replica.serves cluster context.currentEpoch = true
      ∧ (policyGates context.policy (authorityEvidence replica context)).allOpen = true := by
  have hid : state.stateId = replica.stateId := congrArg StateKey.stateId hkey
  have hgeneration : state.generation = replica.stateGeneration :=
    congrArg StateKey.generation hkey
  rw [permits, assessmentPermitsReuse_iff]
  generalize hgates : policyGates context.policy (authorityEvidence replica context) = gates
  simp only [authorityDenials, hgates]
  simp only [List.forall_mem_cons, authorityEvidence, hstate, hcluster, hid, hgeneration,
    PolicyGates.allOpen, ReplicaRecord.serves]
  -- Outside AUTHORITATIVE and DEGRADED the last denial applies.
  cases hlifecycle : replica.lifecycle with
  | authoritative | degraded =>
    simp only [ReplicaRecord.isTerminal, ReplicaRecord.isStaging, hlifecycle]
    simp
    grind
  | _ => simp

/-- What the default rules of a replication policy ask for on top of that. -/
def ReplicaRecord.guarded (replica : ReplicaRecord) (state : StateGenerationRecord)
    (cluster : ClusterRecord) (set : ReplicaSetRecord) : Bool :=
  replica.integrity == .verified && replica.evidence.integrityEvidencePresent
    && replica.compatibility == .compatible
    && state.isCurrent && !state.revalidationRequired
    && replica.replicaSetId.valid && replica.replicaSetId == set.replicaSetId
    && replica.commitRecorded && replica.countsTowardFactor
    && replica.evidence.evidenceGeneration.valid && clusterEvidenceIsCurrent cluster

theorem allOpen_default_iff (hpolicy : context.policy = some policy)
    (rules : policy.reuseRules = {} ∧ policy.revalidation = {})
    (hstate : context.state = some state) (hcluster : context.cluster = some cluster)
    (hset : context.replicaSet = some set) (state_key : state.key = replica.key)
    (set_generation : set.stateGeneration = replica.stateGeneration)
    (serves : replica.serves cluster context.currentEpoch = true) :
    (policyGates context.policy (authorityEvidence replica context)).allOpen = true
      ↔ replica.guarded state cluster set = true := by
  have hid : state.stateId = replica.stateId := congrArg StateKey.stateId state_key
  have hgeneration : state.generation = replica.stateGeneration :=
    congrArg StateKey.generation state_key
  simp only [ReplicaRecord.serves, Bool.and_eq_true, Bool.or_eq_true, beq_iff_eq] at serves
  obtain ⟨⟨⟨⟨⟨⟨⟨⟨⟨hlifecycle, -⟩, -⟩, hvalidated⟩, -⟩, -⟩, -⟩, -⟩, -⟩, -⟩ := serves
  have hlive : replica.lifecycle ≠ .superseded := by
    rcases hlifecycle with h | h <;> simp [h]
  simp only [policyGates, hpolicy, rules.1, rules.2, authorityEvidence, hstate, hcluster, hset, hid,
    hgeneration, set_generation, PolicyGates.allOpen, ReplicaRecord.guarded]
  simp
  grind

/-! ## Copies of a plane -/

namespace ControlPlane

/-- What reuse of a copy in a cluster takes whatever the policy. -/
def serves (p : ControlPlane) (clusterId : ClusterId) (replica : ReplicaRecord) : Bool :=
  p.clusters[clusterId]?.any (replica.serves · p.coordinatorEpoch)

/-- The copy counts, is enrolled in the set of its generation, is present and validated, and its
generation and its cluster are current. -/
def qualifies (p : ControlPlane) (key : StateKey) (clusterId : ClusterId)
    (replica : ReplicaRecord) : Bool :=
  replicaCountsTowardReplicationFactor replica
    && p.replicaSets[key]?.any (replica.replicaSetId == ·.replicaSetId)
    && replica.authority != .fenced && replica.availability != .absent
    && replica.evidence.integrityEvidencePresent && replica.evidence.evidenceGeneration.valid
    && !replica.evidence.revalidationRequired
    && p.states[key]?.any (fun state => state.isCurrent && !state.revalidationRequired)
    && p.clusters[clusterId]?.any fun cluster => cluster.liveAuthority
      && clusterEvidenceIsCurrent cluster
      && cluster.incarnation == replica.location.clusterIncarnation

/-- The identities the copy carries have not wrapped: that of its set is valid, and its epoch is
not ahead of the current one. -/
def timely (p : ControlPlane) (replica : ReplicaRecord) : Bool :=
  replica.replicaSetId.valid
    && (!replica.lastEpoch.valid || replica.lastEpoch.value ≤ p.coordinatorEpoch.value)

end ControlPlane

section Copies

variable {p : ControlPlane} {config : FabricConfig} {key : StateKey} {clusterId : ClusterId}
  {replica : ReplicaRecord}

theorem permits_iff_serves (coherent : Coherent p)
    (hpolicy : resolveReplicationPolicy p config {} = none)
    (hosted : replica ∈ p.hosted key clusterId) :
    permits (p.reuseContext config key clusterId) replica = true
      ↔ p.serves clusterId replica = true := by
  obtain ⟨hmem, hcluster⟩ := List.mem_filter.mp hosted
  obtain ⟨hrecorded, rfl⟩ := coherent.mem_replicasOfState.mp hmem
  obtain rfl := beq_iff_eq.mp hcluster
  have hground := (coherent.replicas hrecorded).2
  obtain ⟨state, hstate⟩ := Option.isSome_iff_exists.mp hground.state
  obtain ⟨cluster, hcluster⟩ := Option.isSome_iff_exists.mp hground.cluster
  have hiff : permits (p.reuseContext config replica.key replica.location.clusterId) replica = true
      ↔ replica.serves cluster p.coordinatorEpoch = true ∧ _ :=
    permits_iff hstate hcluster (coherent.states hstate)
  have hopen : (policyGates (p.reuseContext config replica.key replica.location.clusterId).policy
      (authorityEvidence replica
        (p.reuseContext config replica.key replica.location.clusterId))).allOpen = true := by
    simp only [reuseContext, authorityContext, hpolicy]
    rfl
  rw [hiff, ControlPlane.serves, hcluster, Option.any_some]
  exact and_iff_left hopen

theorem serves_and_guarded_iff {stored : ReplicaSetRecord} (hstate : p.states[key]? = some state)
    (hcluster : p.clusters[clusterId]? = some cluster) (hstored : p.replicaSets[key]? = some stored)
    (hset : set.replicaSetId = stored.replicaSetId) :
    (replica.serves cluster p.coordinatorEpoch = true ∧ replica.guarded state cluster set = true)
      ↔ p.qualifies key clusterId replica = true ∧ p.timely replica = true := by
  have hcounts := counting_iff replica
  simp only [ReplicaView.Counting, ReplicaRecord.view] at hcounts
  simp only [ReplicaRecord.serves, ReplicaRecord.guarded, qualifies, timely, hstate, hcluster,
    hstored, hset, Option.any_some, Bool.and_eq_true, hcounts]
  grind

/-- Under the default rules the copies that qualify are permitted, unless a wrapped identity holds
them back. -/
theorem permits_iff_qualifies (coherent : Coherent p) (covered : p.abs.Covered)
    (hpolicy : resolveReplicationPolicy p config {} = some policy)
    (rules : policy.reuseRules = {} ∧ policy.revalidation = {})
    (hosted : replica ∈ p.hosted key clusterId) :
    permits (p.reuseContext config key clusterId) replica = true
      ↔ p.qualifies key clusterId replica = true ∧ p.timely replica = true := by
  obtain ⟨hmem, hcluster⟩ := List.mem_filter.mp hosted
  obtain ⟨hrecorded, rfl⟩ := coherent.mem_replicasOfState.mp hmem
  obtain rfl := beq_iff_eq.mp hcluster
  have hground := (coherent.replicas hrecorded).2
  obtain ⟨state, hstate⟩ := Option.isSome_iff_exists.mp hground.state
  obtain ⟨cluster, hcluster⟩ := Option.isSome_iff_exists.mp hground.cluster
  obtain ⟨stored, hstored⟩ := Option.isSome_iff_exists.mp (isSome_set covered hground.state)
  have hiff : permits (p.reuseContext config replica.key replica.location.clusterId) replica = true
      ↔ replica.serves cluster p.coordinatorEpoch = true ∧ _ :=
    permits_iff hstate hcluster (coherent.states hstate)
  -- Rebuilding the set for the assessment keeps its identity and its generation.
  have hset : (p.reuseContext config replica.key replica.location.clusterId).replicaSet
      = some (p.rebuildReplicaSet stored) := by
    simp only [reuseContext, authorityContext, hstored, Option.getD_some]
  have hsetId : (p.rebuildReplicaSet stored).replicaSetId = stored.replicaSetId :=
    congrArg Prod.fst (rebuildReplicaSet_charter stored)
  have hgeneration : (p.rebuildReplicaSet stored).stateGeneration = replica.stateGeneration :=
    congrArg StateKey.generation ((rebuildReplicaSet_key stored).trans
      (coherent.replicaSets hstored).1)
  rw [hiff, ← serves_and_guarded_iff hstate hcluster hstored hsetId]
  exact and_congr_right fun hserves => allOpen_default_iff hpolicy rules hstate hcluster hset
    (coherent.states hstate) hgeneration hserves

theorem decision_iff : (evaluateReuse p config key clusterId).decision ≠ .reject
    ↔ ∃ replica ∈ p.hosted key clusterId,
      permits (p.reuseContext config key clusterId) replica = true := by
  constructor
  · intro hdecision
    cases hknown : p.asksKnown key clusterId with
    | false => exact absurd (evaluateReuse_unknown config hknown).1 hdecision
    | true =>
      cases hbest : lowestPermitted (p.reuseContext config key clusterId)
          (p.hosted key clusterId) with
      | none => exact absurd (evaluateReuse_refused hknown hbest).1 hdecision
      | some best => exact ⟨best, mem_of_lowestPermitted hbest⟩
  · rintro ⟨replica, hmem, hpermits⟩
    cases hbest : lowestPermitted (p.reuseContext config key clusterId)
        (p.hosted key clusterId) with
    | none =>
      have hnone := List.filter_eq_nil_iff.mp (lowest_eq_none.mp hbest)
      exact absurd hpermits (hnone replica hmem)
    | some =>
      exact (evaluateReuse_permitted (asksKnown_of_permits hpermits) hbest).1

end Copies

/-! ## The decision -/

/-- The configuration names a default replication policy with the default rules. -/
def FabricConfig.defaultRules (config : FabricConfig) : Bool :=
  config.defaultReplicationPolicy.replicationPolicyId.valid
    && config.defaultReplicationPolicy.reuseRules == {}
    && config.defaultReplicationPolicy.revalidation == {}

/-- Reuse is permitted exactly when some copy qualifies, and then the lowest such copy is named. -/
structure ReuseExact (p : ControlPlane) (key : StateKey) (clusterId : ClusterId)
    (answer : ReuseEvaluation) : Prop where
  decision : answer.decision ≠ .reject
    ↔ ∃ replica ∈ p.hosted key clusterId, p.qualifies key clusterId replica = true
  choice : answer.decision ≠ .reject →
    (lowest ((p.hosted key clusterId).filter (p.qualifies key clusterId))).map (·.replicaId)
      = some answer.replica

section Decision

variable {r : Runtime} {config : FabricConfig} {key : StateKey} {clusterId : ClusterId}

/-- What the default rules permit in a reachable plane. -/
theorem permits_iff_of_reachable (reachable : ReachableRuntime r)
    (rules : config.defaultRules = true) (hosted : replica ∈ r.plane.hosted key clusterId) :
    permits (r.plane.reuseContext config key clusterId) replica = true
      ↔ r.plane.qualifies key clusterId replica = true ∧ replica.replicaSetId.valid = true := by
  have hcoherent := reachable.wellKept.coherent
  simp only [FabricConfig.defaultRules, Bool.and_eq_true, beq_iff_eq] at rules
  obtain ⟨⟨hvalid, hreuse⟩, hrevalidation⟩ := rules
  have hpolicy : resolveReplicationPolicy r.plane config {}
      = some config.defaultReplicationPolicy := by
    rw [resolveReplicationPolicy, if_neg (by decide), if_pos hvalid]
  rw [permits_iff_qualifies hcoherent reachable.covered hpolicy ⟨hreuse, hrevalidation⟩ hosted]
  refine and_congr_right fun hqualifies => ?_
  -- A copy that counts and is validated carries no epoch ahead of the current one.
  have hrecorded := (hcoherent.mem_replicasOfState.mp (List.mem_of_mem_filter hosted)).1
  have hepoch : replica.lastEpoch.value ≤ r.plane.coordinatorEpoch.value := by
    simp only [qualifies, Bool.and_eq_true] at hqualifies
    obtain ⟨⟨⟨⟨⟨⟨⟨⟨hcounts, -⟩, -⟩, -⟩, -⟩, -⟩, hvalidated⟩, -⟩, -⟩ := hqualifies
    rcases reachable.inStep _ replica hrecorded with hterminal | hflagged | hle
    · obtain ⟨-, -, -, -, hlifecycle⟩ := (counting_iff replica).mp hcounts
      rw [replica.isTerminal_iff] at hterminal
      rcases hlifecycle with hl | hl <;> simp [ReplicaView.Terminal, hl] at hterminal
    · simp [hflagged] at hvalidated
    · exact hle
  simp [timely, hepoch]

/-- The lowest permitted copy is the lowest that qualifies, once the set has an identity. -/
theorem lowestPermitted_eq_of_reachable (reachable : ReachableRuntime r)
    (rules : config.defaultRules = true)
    (identified : ∀ replica ∈ r.plane.hosted key clusterId,
      r.plane.qualifies key clusterId replica = true → replica.replicaSetId.valid = true) :
    lowestPermitted (r.plane.reuseContext config key clusterId) (r.plane.hosted key clusterId)
      = lowest ((r.plane.hosted key clusterId).filter (r.plane.qualifies key clusterId)) := by
  unfold lowestPermitted
  congr 1
  refine List.filter_congr fun replica hmem => Bool.eq_iff_iff.mpr ?_
  rw [permits_iff_of_reachable reachable rules hmem]
  exact and_iff_left_of_imp (identified replica hmem)

end Decision

/-- The decision is exact when the set of the generation has a valid identity, and otherwise only
when no copy qualifies. -/
theorem reuse_exact_iff {r : Runtime} {config : FabricConfig} (reachable : ReachableRuntime r)
    (rules : config.defaultRules = true) (key : StateKey) (clusterId : ClusterId) :
    ReuseExact r.plane key clusterId (evaluateReuse r.plane config key clusterId)
      ↔ ((∃ replica ∈ r.plane.hosted key clusterId,
          r.plane.qualifies key clusterId replica = true) →
        ∃ set, r.plane.replicaSets[key]? = some set ∧ set.replicaSetId.valid = true) := by
  have henrolled : ∀ {replica : ReplicaRecord},
      r.plane.qualifies key clusterId replica = true →
      ∃ set, r.plane.replicaSets[key]? = some set
        ∧ replica.replicaSetId = set.replicaSetId := by
    intro replica hqualifies
    simp only [qualifies, Bool.and_eq_true, Option.any_eq_true, beq_iff_eq] at hqualifies
    obtain ⟨⟨⟨⟨⟨⟨⟨⟨-, henrolled⟩, -⟩, -⟩, -⟩, -⟩, -⟩, -⟩, -⟩ := hqualifies
    exact henrolled
  constructor
  · rintro hexact hsome
    obtain ⟨replica, hmem, hpermits⟩ := decision_iff.mp (hexact.decision.mpr hsome)
    obtain ⟨hqualifies, hvalid⟩ := (permits_iff_of_reachable reachable rules hmem).mp hpermits
    obtain ⟨set, hset, hid⟩ := henrolled hqualifies
    exact ⟨set, hset, hid ▸ hvalid⟩
  · intro hvalid
    have hidentified : ∀ replica ∈ r.plane.hosted key clusterId,
        r.plane.qualifies key clusterId replica = true → replica.replicaSetId.valid = true := by
      intro replica hmem hqualifies
      obtain ⟨set, hset, hsetValid⟩ := hvalid ⟨replica, hmem, hqualifies⟩
      obtain ⟨set', hset', hid⟩ := henrolled hqualifies
      obtain rfl := some_unique hset hset'
      exact hid ▸ hsetValid
    have hlowest := lowestPermitted_eq_of_reachable reachable rules hidentified
    refine ⟨?_, fun hdecision => ?_⟩
    · rw [decision_iff]
      refine exists_congr fun replica => and_congr_right fun hmem => ?_
      rw [permits_iff_of_reachable reachable rules hmem]
      exact and_iff_left_of_imp (hidentified replica hmem)
    · obtain ⟨replica, hmem, hpermits⟩ := decision_iff.mp hdecision
      cases hbest : lowestPermitted (r.plane.reuseContext config key clusterId)
          (r.plane.hosted key clusterId) with
      | none =>
        have hnone := List.filter_eq_nil_iff.mp (lowest_eq_none.mp hbest)
        exact absurd hpermits (hnone replica hmem)
      | some =>
        have hknown := asksKnown_of_permits hpermits
        rw [← hlowest, hbest, (evaluateReuse_permitted hknown hbest).2.2.1]
        rfl

theorem reuse_exact_of_staged_copy :
    ReuseExact (reach stagedBeside).plane ⟨⟨1⟩, ⟨1⟩⟩ ⟨1⟩
      (evaluateReuse (reach stagedBeside).plane config ⟨⟨1⟩, ⟨1⟩⟩ ⟨1⟩) := by
  refine (reuse_exact_iff (reachable stagedBeside) (by decide +kernel) _ _).mpr fun _ => ?_
  have hset : ((reach stagedBeside).plane.replicaSets[(⟨⟨1⟩, ⟨1⟩⟩ : StateKey)]?.any
      (·.replicaSetId.valid)) = true := by decide +kernel
  exact (Option.any_eq_true _ _).mp hset

/-- A compatibility record with the last generation wraps the identity counter, so the generation
registered next has the replica set zero. -/
def Scenario.zeroSet : List Mutation :=
  [Scenario.cluster 1,
    .publishCompatibility { compatibilityId := ⟨1⟩, generation := ⟨18446744073709551615⟩ },
    Scenario.state 1 1 .immutable, stateCommit 1 1 1] ++ copy 11 1 1 1 2 false

/-- The copy of a generation with the replica set zero qualifies and is refused. -/
theorem reuse_refused_of_zeroSet :
    ∃ r, ReachableRuntime r ∧ config.defaultRules = true
      ∧ ¬ ReuseExact r.plane ⟨⟨1⟩, ⟨1⟩⟩ ⟨1⟩ (evaluateReuse r.plane config ⟨⟨1⟩, ⟨1⟩⟩ ⟨1⟩) := by
  refine ⟨reach zeroSet, reachable zeroSet, by decide +kernel, fun hexact => ?_⟩
  have hqualifies : ∃ replica ∈ (reach zeroSet).plane.hosted ⟨⟨1⟩, ⟨1⟩⟩ ⟨1⟩,
      (reach zeroSet).plane.qualifies ⟨⟨1⟩, ⟨1⟩⟩ ⟨1⟩ replica = true := by decide +kernel
  exact hexact.decision.mpr hqualifies (by decide +kernel)

/-! ## Without a policy -/

/-- What is permitted without a policy is permitted under the default rules exactly when some copy
that serves reuse at all also qualifies and has a set with a valid identity. -/
theorem reuse_fails_closed_iff {r : Runtime} {ungoverned governed : FabricConfig}
    (reachable : ReachableRuntime r)
    (unresolved : ungoverned.defaultReplicationPolicy.replicationPolicyId.valid = false)
    (rules : governed.defaultRules = true) (key : StateKey) (clusterId : ClusterId) :
    ((evaluateReuse r.plane ungoverned key clusterId).decision ≠ .reject →
        (evaluateReuse r.plane governed key clusterId).decision ≠ .reject)
      ↔ ((∃ replica ∈ r.plane.hosted key clusterId, r.plane.serves clusterId replica = true) →
        ∃ replica ∈ r.plane.hosted key clusterId,
          r.plane.qualifies key clusterId replica = true
            ∧ replica.replicaSetId.valid = true) := by
  have hpolicy : resolveReplicationPolicy r.plane ungoverned {} = none := by
    rw [resolveReplicationPolicy, if_neg (by decide), if_neg (by simp [unresolved])]
  have hungoverned : (evaluateReuse r.plane ungoverned key clusterId).decision ≠ .reject
      ↔ ∃ replica ∈ r.plane.hosted key clusterId, r.plane.serves clusterId replica = true := by
    rw [decision_iff]
    exact exists_congr fun replica => and_congr_right fun hmem =>
      permits_iff_serves reachable.wellKept.coherent hpolicy hmem
  have hgoverned : (evaluateReuse r.plane governed key clusterId).decision ≠ .reject
      ↔ ∃ replica ∈ r.plane.hosted key clusterId,
        r.plane.qualifies key clusterId replica = true ∧ replica.replicaSetId.valid = true := by
    rw [decision_iff]
    exact exists_congr fun replica => and_congr_right fun hmem =>
      permits_iff_of_reachable reachable rules hmem
  exact imp_congr hungoverned hgoverned

/-- A configuration without a default replication policy. -/
def Scenario.ungoverned : FabricConfig := { config with defaultReplicationPolicy := {} }

theorem reuse_fails_closed_of_staged_copy :
    (evaluateReuse (reach stagedBeside).plane ungoverned ⟨⟨1⟩, ⟨1⟩⟩ ⟨1⟩).decision ≠ .reject
      ∧ (evaluateReuse (reach stagedBeside).plane config ⟨⟨1⟩, ⟨1⟩⟩ ⟨1⟩).decision ≠ .reject := by
  have hopen : (evaluateReuse (reach stagedBeside).plane ungoverned ⟨⟨1⟩, ⟨1⟩⟩ ⟨1⟩).decision
      ≠ .reject := by decide +kernel
  exact ⟨hopen, (reuse_fails_closed_iff (reachable stagedBeside) (by decide +kernel)
    (by decide +kernel) _ _).mpr (fun _ => by decide +kernel) hopen⟩

/-- A committed copy of a generation that is itself still staged. -/
def Scenario.stagedGeneration : List Mutation :=
  [Scenario.cluster 1, Scenario.state 1 1 .immutable] ++ copy 11 1 1 1 2 false

/-- Without a policy the copy of a generation that is not current is reused. -/
theorem reuse_open_without_policy :
    ∃ r, ReachableRuntime r
      ∧ ungoverned.defaultReplicationPolicy.replicationPolicyId.valid = false
      ∧ config.defaultRules = true
      ∧ ¬ ((evaluateReuse r.plane ungoverned ⟨⟨1⟩, ⟨1⟩⟩ ⟨1⟩).decision ≠ .reject →
        (evaluateReuse r.plane config ⟨⟨1⟩, ⟨1⟩⟩ ⟨1⟩).decision ≠ .reject) :=
  ⟨reach stagedGeneration, reachable stagedGeneration, by decide +kernel, by decide +kernel,
    by decide +kernel⟩

end StateFabric
