import StateFabric.Records

/-!
# Replica authority assessment

`src/authority.cpp`.  Existence is not authority: every authority question is answered
separately, then a fixed list of denials is walked in order and the first one that applies
is reported.  Authority is granted only when none applies.
-/

namespace StateFabric

/-- Everything authority assessment is allowed to consult. -/
structure AuthorityContext where
  state : Option StateGenerationRecord := none
  cluster : Option ClusterRecord := none
  replicaSet : Option ReplicaSetRecord := none
  policy : Option ReplicationPolicyRecord := none
  currentEpoch : CoordinatorEpoch := {}

/-- The full authority answer for one replica. -/
structure ReplicaAuthorityAssessment where
  physicallyPresent : Bool := false
  transferComplete : Bool := false
  integrityVerified : Bool := false
  compatibilityVerified : Bool := false
  currentForStateGeneration : Bool := false
  memberOfCurrentReplicaSetGeneration : Bool := false
  clusterIncarnationCurrent : Bool := false
  coordinatorEpochCurrent : Bool := false
  evidenceCurrent : Bool := false
  authoritativeForReuse : Bool := false
  authoritativeAsReplicationSource : Bool := false
  authoritativeForMigrationSourceRetirement : Bool := false
  historicalOnly : Bool := false
  fenced : Bool := false
  code : ErrorCode := .ok
  reason : Text := []
  deriving DecidableEq

/-- A reason to withhold something: it applies when the condition holds. -/
structure Denial where
  applies : Bool
  code : ErrorCode
  reason : Text

/-- The first denial of a list that applies. -/
def firstDenial (denials : List Denial) : Option Denial := denials.find? (·.applies)

theorem firstDenial_eq_none {denials : List Denial} :
    firstDenial denials = none ↔ ∀ d ∈ denials, d.applies = false := by
  simp [firstDenial]

namespace ReplicaRecord

def isStaging (replica : ReplicaRecord) : Bool :=
  replica.lifecycle == .planned || replica.lifecycle == .reserved || replica.lifecycle == .staging

end ReplicaRecord

/-- The independent authority questions, before any denial. -/
def authorityEvidence (replica : ReplicaRecord) (context : AuthorityContext) :
    ReplicaAuthorityAssessment :=
  let terminal := replica.isTerminal
  let currentForStateGeneration :=
    match context.state with
    | none => false
    | some state =>
      state.generation == replica.stateGeneration && state.stateId == replica.stateId
        && state.isCurrent && !state.revalidationRequired
        && replica.lifecycle != .superseded
  { physicallyPresent := !terminal && !replica.isStaging && replica.availability != .absent
    transferComplete := !terminal &&
      (replica.lifecycle == .transferred || replica.lifecycle == .verifying
        || replica.lifecycle == .prepared || replica.lifecycle == .authoritative
        || replica.lifecycle == .degraded || replica.commitRecorded)
    integrityVerified := replica.integrity == .verified && replica.evidence.integrityEvidencePresent
    compatibilityVerified := replica.compatibility == .compatible
    clusterIncarnationCurrent :=
      match context.cluster with
      | none => false
      | some cluster =>
        cluster.incarnation == replica.location.clusterIncarnation && cluster.liveAuthority
    coordinatorEpochCurrent :=
      !replica.lastEpoch.valid || replica.lastEpoch.value ≤ context.currentEpoch.value
    evidenceCurrent := !replica.evidence.revalidationRequired
      && replica.evidence.evidenceGeneration.valid
      && (match context.cluster with
          | none => true
          | some cluster => clusterEvidenceIsCurrent cluster)
    currentForStateGeneration := currentForStateGeneration
    -- Membership is bound to the set's stable identity, not to the generation of the set the
    -- replica happened to join at.
    memberOfCurrentReplicaSetGeneration :=
      match context.replicaSet with
      | none => false
      | some set =>
        replica.replicaSetId.valid && replica.replicaSetId == set.replicaSetId
          && set.stateGeneration == replica.stateGeneration
          && replica.commitRecorded && replica.countsTowardFactor
    fenced := replica.authority == .fenced || replica.lifecycle == .quarantined
      || replica.lifecycle == .stale
      || (match context.cluster with
          | none => false
          | some cluster => !cluster.liveAuthority)
    historicalOnly := !terminal && !currentForStateGeneration }

/-- The gates a replication policy opens or closes; without a policy every gate is open. -/
structure PolicyGates where
  integrity : Bool
  compatibility : Bool
  generation : Bool
  membership : Bool
  evidence : Bool

def policyGates (policy : Option ReplicationPolicyRecord) (a : ReplicaAuthorityAssessment) :
    PolicyGates :=
  match policy with
  | none => ⟨true, true, true, true, true⟩
  | some policy =>
    { integrity := !policy.reuseRules.requireVerifiedIntegrity || a.integrityVerified
      compatibility := !policy.reuseRules.requireVerifiedCompatibility || a.compatibilityVerified
      generation := !policy.reuseRules.requireCurrentStateGeneration || a.currentForStateGeneration
      membership := !policy.reuseRules.requireReplicaSetMembership
        || a.memberOfCurrentReplicaSetGeneration
      evidence := (!policy.revalidation.requireFreshHealthEvidence
        && !policy.revalidation.requireFreshCapabilityEvidence) || a.evidenceCurrent }

/-- The denials of `assess_replica_authority`, in the order the source checks them. -/
def authorityDenials (replica : ReplicaRecord) (context : AuthorityContext)
    (a : ReplicaAuthorityAssessment) : List Denial :=
  let id := text "replica " ++ replica.replicaId.str
  let gates := policyGates context.policy a
  [ ⟨replica.isTerminal, .notFound,
      id ++ text " is " ++ replica.lifecycle.str ++ text " and holds no authority"⟩,
    ⟨replica.isStaging, .authorityNotEstablished,
      id ++ text " is still " ++ replica.lifecycle.str ++ text " and has not been committed"⟩,
    ⟨a.fenced, .fenced,
      id ++ text " is fenced: its cluster incarnation or lifecycle no longer holds authority"⟩,
    ⟨context.cluster.isNone, .unknownCluster,
      text "cluster " ++ replica.location.clusterId.str ++ text " is not registered"⟩,
    ⟨!a.clusterIncarnationCurrent, .staleClusterIncarnation,
      id ++ text " was written under cluster incarnation "
        ++ replica.location.clusterIncarnation.str ++ text " but cluster "
        ++ replica.location.clusterId.str ++ text " is now at incarnation "
        ++ (context.cluster.map (·.incarnation.str)).getD []⟩,
    ⟨!a.coordinatorEpochCurrent, .staleEpoch,
      id ++ text " carries coordinator epoch " ++ replica.lastEpoch.str
        ++ text " ahead of the current epoch " ++ context.currentEpoch.str⟩,
    ⟨replica.lifecycle == .revalidationRequired || replica.evidence.revalidationRequired,
      .revalidationRequired, id ++ text " requires revalidation of its live evidence before reuse"⟩,
    ⟨!a.physicallyPresent, .noAuthoritativeReplica,
      id ++ text " is not physically present (availability " ++ replica.availability.str
        ++ text ")"⟩,
    ⟨context.state.isNone, .unknownState,
      text "state generation " ++ replica.stateGeneration.str ++ text " is not registered"⟩,
    ⟨match context.state with
      | none => false
      | some state =>
        state.stateId != replica.stateId || state.generation != replica.stateGeneration,
      .staleStateGeneration, id ++ text " does not reference the requested state generation"⟩,
    ⟨replica.lifecycle == .superseded, .staleStateGeneration, id ++ text " is superseded"⟩,
    ⟨replica.lifecycle == .corrupt || replica.integrity == .corrupt, .integrityMismatch,
      id ++ text " is corrupt"⟩,
    ⟨replica.integrity == .mismatch, .integrityMismatch,
      id ++ text " failed integrity verification"⟩,
    ⟨replica.compatibility == .incompatible, .incompatible,
      id ++ text " is incompatible with the state requirement"⟩,
    ⟨replica.lifecycle == .retiring, .fenced, id ++ text " is retiring and may not serve reuse"⟩,
    ⟨!gates.integrity, .integrityUnknown,
      id ++ text " has no verified integrity evidence for the required generation"⟩,
    ⟨!gates.compatibility, .compatibilityUnknown,
      id ++ text " has no verified compatibility evidence"⟩,
    ⟨!gates.generation, .staleStateGeneration,
      id ++ text " is not current for the authoritative state generation"⟩,
    ⟨!gates.membership, .staleReplicaSetGeneration,
      id ++ text " is not a member of the current replica set generation"⟩,
    ⟨!gates.evidence, .revalidationRequired,
      id ++ text " has stale dynamic evidence and must be revalidated"⟩,
    ⟨replica.lifecycle != .authoritative && replica.lifecycle != .degraded,
      .authorityNotEstablished,
      id ++ text " is in lifecycle " ++ replica.lifecycle.str
        ++ text " and holds no committed authority"⟩ ]

/-- Assesses one replica: total, and a denied assessment carries its code and reason. -/
def assessReplicaAuthority (replica : ReplicaRecord) (context : AuthorityContext) :
    ReplicaAuthorityAssessment :=
  let a := authorityEvidence replica context
  match firstDenial (authorityDenials replica context a) with
  | some denial => { a with code := denial.code, reason := denial.reason }
  | none =>
    { a with
      authoritativeForReuse := true
      authoritativeAsReplicationSource := true
      authoritativeForMigrationSourceRetirement := replica.commitRecorded
      code := .ok
      reason := text "replica " ++ replica.replicaId.str ++ text " is authoritative for reuse of "
        ++ stateGenerationLabel replica.stateId replica.stateGeneration }

/-- True when the assessment permits serving reuse of the state generation. -/
def assessmentPermitsReuse (a : ReplicaAuthorityAssessment) : Bool :=
  a.authoritativeForReuse && a.code == .ok

/-! ## What a granted assessment says -/

@[simp] theorem authorityEvidence_authoritativeForReuse (replica : ReplicaRecord)
    (context : AuthorityContext) :
    (authorityEvidence replica context).authoritativeForReuse = false := rfl

@[simp] theorem authorityEvidence_authoritativeAsReplicationSource (replica : ReplicaRecord)
    (context : AuthorityContext) :
    (authorityEvidence replica context).authoritativeAsReplicationSource = false := rfl

theorem authoritativeForReuse_iff {replica : ReplicaRecord} {context : AuthorityContext} :
    (assessReplicaAuthority replica context).authoritativeForReuse = true ↔
      ∀ d ∈ authorityDenials replica context (authorityEvidence replica context),
        d.applies = false := by
  rw [← firstDenial_eq_none]
  simp only [assessReplicaAuthority]
  split
  · rename_i h
    simp [h]
  · rename_i h
    simp [h]

theorem assessReplicaAuthority_member (replica : ReplicaRecord) (context : AuthorityContext) :
    (assessReplicaAuthority replica context).memberOfCurrentReplicaSetGeneration
      = (authorityEvidence replica context).memberOfCurrentReplicaSetGeneration := by
  simp only [assessReplicaAuthority]
  split <;> rfl

end StateFabric
