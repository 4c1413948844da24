import StateFabric.Guarantees.Counters
import StateFabric.Refinement.Charter
import StateFabric.Refinement.Server

/-!
# What an authorization honours

An authorization is meant to honour the rules of its policies and of the state it copies.  The
theorems say, for every reachable runtime and every granted authorization, which of them it does
and exactly when it honours the others.

* `no_policy_smuggling`: a commit enforces the replication policy of the authorization exactly when
  that policy is still published at the generation that was recorded.
* `authorization_sound`: while no counter wraps, an authorization copies a current generation from
  the first of its sources to the first of the clusters it considers, and writes three records that
  agree with each other under identities nothing else has.
-/

namespace StateFabric

open Protocol Transition ControlPlane OrderedMap Scenario

variable {p : ControlPlane} {r : Runtime} {t : TransferRequest}

/-! ## Placement -/

theorem PlacementRejection.precedes_iff (a b : PlacementRejection)
    (h : a.clusterId.value.toNat = b.clusterId.value.toNat → a = b) :
    a.precedes b = true ↔ a.clusterId.value.toNat < b.clusterId.value.toNat := by
  unfold PlacementRejection.precedes
  by_cases hid : a.clusterId = b.clusterId
  · rw [h (congrArg (·.value.toNat) hid)]
    simp
  · rw [if_pos hid, decide_eq_true_eq]
    rfl

/-- Placement is canonical: candidates of different clusters are evaluated alike, with the ranking,
the rejections, the choice and the reasons, in whatever order they are listed. -/
theorem evaluatePlacement_perm {request : PlacementRequest} {candidates : List PlacementCandidate}
    (distinct : (request.candidates.map (·.clusterId)).Nodup)
    (perm : request.candidates.Perm candidates) (state : Option StateGenerationRecord) :
    evaluatePlacement request state = evaluatePlacement { request with candidates } state := by
  have hsorted {α β γ : Type} [LinearOrder β] {key : α → β} {precedes : α → α → Bool}
      (order : ∀ a b, (key a = key b → a = b) → (precedes a b = true ↔ key a < key b))
      {outcome : PlacementCandidate → γ} {test : γ → Bool} {entry : γ → α}
      (named : ∀ c d, key (entry (outcome c)) = key (entry (outcome d)) →
        c.clusterId = d.clusterId) :
      sortBy precedes (((request.candidates.map outcome).filter test).map entry)
        = sortBy precedes (((candidates.map outcome).filter test).map entry) := by
    refine sortBy_perm order (((perm.map outcome).filter test).map entry) fun a ha b hb hab => ?_
    obtain ⟨x, hx, rfl⟩ := List.mem_map.mp ha
    obtain ⟨y, hy, rfl⟩ := List.mem_map.mp hb
    obtain ⟨c, hc, rfl⟩ := List.mem_map.mp (List.mem_of_mem_filter hx)
    obtain ⟨d, hd, rfl⟩ := List.mem_map.mp (List.mem_of_mem_filter hy)
    rw [List.inj_on_of_nodup_map distinct hc hd (named c d hab)]
  unfold evaluatePlacement
  dsimp only
  rw [hsorted PlacementRejection.precedes_iff,
    hsorted fun a b _ => RankedCandidate.precedes_iff a b]
  · rfl
  · exact fun c d => RankedCandidate.clusterId_eq_of_rank_eq
  · exact fun c d h => congrArg StrongId.mk (UInt64.toNat_inj.mp h)

theorem evaluatePlacement_perm_of_two :
    evaluatePlacement { candidates := [{ clusterId := ⟨1⟩ }, { clusterId := ⟨2⟩ }] } none
      = evaluatePlacement { candidates := [{ clusterId := ⟨2⟩ }, { clusterId := ⟨1⟩ }] } none :=
  evaluatePlacement_perm (by decide) (.swap ..) none

/-! ## Sources -/

/-- The replica precedes every other that holds authority as a source: it is in the requested
source cluster if any of them is, and has the least identity among those that are as it is. -/
def LeadsSources (p : ControlPlane) (t : TransferRequest) (policy : ReplicationPolicyRecord)
    (replica : ReplicaRecord) : Prop :=
  replica ∈ p.sources t.key (some policy)
    ∧ ∀ other ∈ p.sources t.key (some policy),
      sourceRank t.sourceCluster replica ≤ sourceRank t.sourceCluster other

/-- The authorization an answer carries. -/
def grantedIn : Result Response → Option TransferAuthorization
  | .ok (.authorization a) => some a
  | _ => none

theorem grantedIn_eq_some {x : Result Response} {a : TransferAuthorization}
    (h : grantedIn x = some a) : x = .ok (.authorization a) := by
  unfold grantedIn at h
  split at h
  · obtain rfl := Option.some.inj h
    rfl
  · cases h

/-- Two clusters and one committed copy of a current generation in the first. -/
def Scenario.sourced : List Mutation :=
  [cluster 1, cluster 2, state 1 1 .immutable, stateCommit 1 1 5] ++ copy 20 1 1 1 7 false

/-- A replication into the second cluster under a published policy. -/
def Scenario.replicationUnder (policy : UInt64) : Mutation :=
  .authorizeReplication
    { stateId := ⟨1⟩, stateGeneration := ⟨1⟩, destinationCluster := ⟨2⟩
      replicationPolicy := { replicationPolicyId := ⟨policy⟩ } }

/-! ## Policies at commit -/

/-- The replication policy a commit resolves for an operation. -/
def enforcedPolicy (r : Runtime) (op : OperationRecord) : Option ReplicationPolicyRecord :=
  resolveReplicationPolicy r.plane r.config op.replicationPolicyId

/-- The commit moves its operation to COMPLETE. -/
def MovesToComplete (r : Runtime) (commit : OperationCommit) : Prop :=
  r.plane.operations[commit.operationId]?.any (·.state != .complete) = true
    ∧ (r.after (.commitOperation commit)).plane.operations[commit.operationId]?.any
      (·.state == .complete) = true

/-- No request authorizes the operation anew. -/
def notAuthorizedAnew (o : OperationId) (r : Runtime) (m : Mutation) : Bool :=
  !m.isAuthorization || r.plane.nextId != o.value

theorem ControlPlane.Keyed.configured_recover (h : p.Keyed) (config : FabricConfig) :
    (p.configure config).recover.Keyed :=
  (h.configure config).recover

theorem ReachableRuntime.keyed (h : ReachableRuntime r) : r.plane.Keyed := by
  refine (Reachable.invariant (I := fun r => WellKept r ∧ r.plane.Keyed) ?_ ?_ h).2
  · rintro r ⟨config, hopen⟩
    refine ⟨(Opened.start ⟨config, hopen⟩).1, ?_⟩
    by_cases hpersistent : config.persistenceDirectory = []
    · simp only [openFabric, hpersistent, List.isEmpty_nil, if_true, initializeFabric,
        rejectIf_bind_eq_ok, Option.isSome_none, Bool.false_eq_true, if_false] at hopen
      obtain rfl := Except.ok.inj hopen.2.2
      have hempty := keyed_empty
      exact ⟨hempty.authorizations, hempty.compatibilityRecords, hempty.placementPolicies,
        hempty.replicationPolicies⟩
    · obtain ⟨loaded, hload, rfl⟩ := openFabric_ok hpersistent hopen
      have hloaded := keyed_empty.of_records (Directory.load_ok hload).1
      exact (hloaded.configured_recover config).of_records rfl
  · rintro r e r' hstep ⟨hkept, hkeyed⟩
    refine ⟨(hkept.step hstep).1, ?_⟩
    rcases hkept.records_cases hstep with hsame | ⟨m, out, rfl, rfl, hexec⟩
      | ⟨config, loaded, rfl, hloaded, -, hrecords⟩
    · exact hkeyed.of_records hsame
    · exact (hkeyed.applyAll out.effects).of_records hexec.records_eq
    · exact ((hkeyed.of_records hloaded).configured_recover _).of_records hrecords

theorem resolved_valid (keyed : p.Keyed) {config : FabricConfig} {id : ReplicationPolicyId}
    {policy : ReplicationPolicyRecord} (h : resolveReplicationPolicy p config id = some policy) :
    policy.replicationPolicyId.valid = true := by
  unfold resolveReplicationPolicy at h
  split at h
  · rename_i hvalid
    exact (keyed.replicationPolicies h).symm ▸ hvalid
  · split at h
    · rename_i hvalid
      exact Option.some.inj h ▸ hvalid
    · cases h

theorem MovesToComplete.executed {commit : OperationCommit} (h : MovesToComplete r commit) :
    ∃ out inner, Executes r (.commitOperation commit) out
      ∧ commitOperation commit r.inputs = .ok inner ∧ out.effects = inner.effects
      ∧ ∃ existing destination plan operation,
        OperationCommitted r.inputs commit existing destination plan operation inner.effects := by
  obtain ⟨hbefore, hafter⟩ := h
  have hunmoved : (r.after (.commitOperation commit)).plane.records ≠ r.plane.records := by
    intro hsame
    rw [operations_eq_of_records hsame] at hafter
    obtain ⟨op, hop, hcomplete⟩ := (Option.any_eq_true _ _).mp hafter
    rw [hop] at hbefore
    simp_all
  rcases r.effect_cases (.commitOperation commit) with ⟨out, hexec, heffects⟩ | ⟨-, hsame⟩
  · obtain ⟨inner, hinner, hinner_effects, -⟩ := map_outcome_eq_ok hexec.body
    rcases commitOperation_committed hinner with ⟨hnil, -⟩ | hcommitted
    · exact absurd (hinner_effects.trans hnil) heffects
    · exact ⟨out, inner, hexec, hinner, hinner_effects, hcommitted⟩
  · exact absurd hsame hunmoved

/-- A commit that moves its operation to COMPLETE found room under the policy it resolved. -/
theorem MovesToComplete.room {commit : OperationCommit} {op : OperationRecord}
    (h : MovesToComplete r commit) (recorded : r.plane.operations[commit.operationId]? = some op) :
    ∃ set, r.plane.replicaSets[op.key]? = some set
      ∧ (r.plane.rebuildReplicaSet set).authoritativeCount
        < maximumReplicasPerState (enforcedPolicy r op) := by
  obtain ⟨out, inner, -, -, -, existing, destination, plan, operation, c⟩ := h.executed
  obtain rfl := some_unique recorded c.recorded
  exact c.room

/-- An operation keeps what its authorization recorded until it is authorized anew. -/
theorem ReachableRuntime.operation_charter {r' : Runtime} {e : Event} (h : ReachableRuntime r)
    (hstep : Step r e r') {o : OperationId} (meets : OnEffect (notAuthorizedAnew o) r e) :
    r'.plane.operations[o]?.map (·.charter) = r.plane.operations[o]?.map (·.charter) := by
  have hkept := h.wellKept
  rcases hstep.effect_cases meets with ⟨m, out, rfl, rfl, -, -, hanew⟩ | hsame | ⟨config, rfl⟩
  · refine hkept.operation_charter hstep fun m' hm hauthorization => ?_
    obtain rfl := Event.mutation.inj hm
    simpa [notAuthorizedAnew, hauthorization] using hanew
  · rw [operations_eq_of_records hsame]
  · exact hkept.operation_charter hstep (by simp)

/-- No policy smuggling: between the authorization of an operation and a commit that completes it,
the policy the commit enforces is the one of the authorization exactly when that policy is
published, at the generation it had, when the commit is made. -/
theorem no_policy_smuggling {r₁ r₂ : Runtime} (reachable : ReachableRuntime r₁) {m : Mutation}
    {t : TransferRequest} (asks : m.transfer = some t) {a : TransferAuthorization}
    (granted : r₁.answer m = .ok (.authorization a)) {policy : ReplicationPolicyRecord}
    (under : resolveReplicationPolicy r₁.plane r₁.config t.replicationPolicyId = some policy)
    (run : Runs (Restrict Step (OnEffect (notAuthorizedAnew a.operationId))) (r₁.after m) r₂)
    {commit : OperationCommit} (names : commit.operationId = a.operationId)
    (completes : MovesToComplete r₂ commit) :
    ∃ op, r₂.plane.operations[a.operationId]? = some op
      ∧ op.replicationPolicyId = policy.replicationPolicyId
      ∧ op.replicationPolicyGenerationRecorded = policy.generation
      ∧ (∃ set, r₂.plane.replicaSets[op.key]? = some set
        ∧ (r₂.plane.rebuildReplicaSet set).authoritativeCount
          < maximumReplicasPerState (enforcedPolicy r₂ op))
      ∧ ((∃ enforced, enforcedPolicy r₂ op = some enforced
          ∧ enforced.replicationPolicyId = op.replicationPolicyId
          ∧ enforced.generation = op.replicationPolicyGenerationRecorded) ↔
        r₂.plane.replicationPolicies[policy.replicationPolicyId]?.any
          (·.generation == policy.generation) = true) := by
  obtain ⟨plan, hderived, rfl, out, hexec, heffects⟩ := planned_of_granted asks granted
  obtain rfl := some_unique hderived.policy under
  have hvalid := resolved_valid reachable.keyed under
  have hreached : ReachableRuntime r₂ :=
    Reachable.runs (reachable.tail (.mutation r₁ m)) run.of_restrict
  -- The authorization records the policy, and no later step rewrites what it recorded.
  have hrecorded : (r₁.after m).plane.operations[(plan.operation r₁.inputs).operationId]?.map
      (·.charter) = some (plan.operation r₁.inputs).charter := by
    rw [hexec.recorded_operation heffects, Option.map_some]
  have hcharter := run.invariant_under (J := ReachableRuntime)
    (I := fun r => r.plane.operations[(plan.operation r₁.inputs).operationId]?.map (·.charter)
      = some (plan.operation r₁.inputs).charter)
    (fun _ _ _ hstep hr => hr.tail hstep.1)
    (fun r e r' hstep hr hI => hr.operation_charter hstep.1 hstep.2 ▸ hI)
    (reachable.tail (.mutation r₁ m)) hrecorded
  obtain ⟨op, hop, hsame⟩ := Option.map_eq_some_iff.mp hcharter
  have hid : op.replicationPolicyId = plan.policy.replicationPolicyId := congrArg Prod.fst hsame
  have hgeneration : op.replicationPolicyGenerationRecorded = plan.policy.generation :=
    congrArg (fun c => c.2.1) hsame
  refine ⟨op, hop, hid, hgeneration, completes.room (names ▸ hop), ?_⟩
  have henforced : enforcedPolicy r₂ op
      = r₂.plane.replicationPolicies[plan.policy.replicationPolicyId]? := by
    rw [enforcedPolicy, resolveReplicationPolicy, hid, if_pos hvalid]
  rw [henforced, hgeneration, hid, Option.any_eq_true]
  constructor
  · rintro ⟨enforced, hpublished, -, hsame⟩
    exact ⟨enforced, hpublished, by simp [hsame]⟩
  · rintro ⟨enforced, hpublished, hsame⟩
    exact ⟨enforced, hpublished, hreached.keyed.replicationPolicies hpublished,
      by simpa using hsame⟩

/-- A published policy with a ceiling of its own. -/
def Scenario.ceiling (policy generation : UInt64) (maximum : UInt32) : Mutation :=
  .publishReplicationPolicy
    { replicationPolicyId := ⟨policy⟩, generation := ⟨generation⟩
      retention := { maximumReplicasPerState := maximum } }

/-- The source with a published policy that allows two copies. -/
def Scenario.capped : List Mutation := sourced ++ [ceiling 9 1 2]

/-- The copy of an operation authorized under that policy, received and verified. -/
def Scenario.cappedCopy : Runtime :=
  ((reach capped).after (replicationUnder 9)).afterAll [completion 28, verification 28]

theorem no_policy_smuggling_of_capped :
    ∃ a op, (reach capped).answer (replicationUnder 9) = .ok (.authorization a)
      ∧ MovesToComplete cappedCopy { operationId := a.operationId, commitId := ⟨8⟩ }
      ∧ ∃ enforced, enforcedPolicy cappedCopy op = some enforced
        ∧ enforced.replicationPolicyId = op.replicationPolicyId
        ∧ enforced.generation = op.replicationPolicyGenerationRecorded := by
  have hgranted : (grantedIn ((reach capped).answer (replicationUnder 9))).any
      (·.operationId == ⟨24⟩) = true := by
    decide +kernel
  have hpolicy : (resolveReplicationPolicy (reach capped).plane (reach capped).config ⟨9⟩).any
      (fun policy => cappedCopy.plane.replicationPolicies[policy.replicationPolicyId]?.any
        (·.generation == policy.generation)) = true := by
    decide +kernel
  obtain ⟨a, ha, hid⟩ := (Option.any_eq_true _ _).mp hgranted
  obtain ⟨policy, hresolved, hpublished⟩ := (Option.any_eq_true _ _).mp hpolicy
  have hid : a.operationId = ⟨24⟩ := by simpa using hid
  have hanswer := grantedIn_eq_some ha
  have hcompletes : MovesToComplete cappedCopy
      { operationId := a.operationId, commitId := ⟨8⟩ } := by
    rw [hid]
    constructor <;> decide +kernel
  obtain ⟨op, -, -, -, -, hsame⟩ := no_policy_smuggling (reachable _) (m := replicationUnder 9) rfl
    hanswer hresolved
    (hid ▸ Runtime.runs_afterAll_of_complies (by decide +kernel)) rfl hcompletes
  exact ⟨a, op, hanswer, hcompletes, hsame.mpr hpublished⟩

/-- The copy of an operation authorized under the default policy, received and verified. -/
def Scenario.defaulted : Runtime :=
  reach (sourced ++ [replicationUnder 0, completion 28, verification 28])

/-- The copy of an operation whose policy was replaced by a later generation that allows more
copies. -/
def Scenario.replaced : Runtime :=
  reach (capped ++ [replicationUnder 9, completion 28, verification 28, ceiling 9 2 5])

/-- Both operations complete: the first under no policy at all, the second under the replaced
one. -/
theorem policy_smuggled_of_replaced :
    (ReachableRuntime defaulted
        ∧ defaulted.plane.operations[(⟨24⟩ : OperationId)]?.any
          (fun op => (enforcedPolicy defaulted op).isNone) = true
        ∧ MovesToComplete defaulted { operationId := ⟨24⟩, commitId := ⟨8⟩ })
      ∧ ReachableRuntime replaced
        ∧ replaced.plane.operations[(⟨24⟩ : OperationId)]?.any
          (fun op => (enforcedPolicy replaced op).any
            (·.generation != op.replicationPolicyGenerationRecorded)) = true
        ∧ MovesToComplete replaced { operationId := ⟨24⟩, commitId := ⟨8⟩ } :=
  ⟨⟨reachable _, by decide +kernel, by decide +kernel, by decide +kernel⟩, reachable _,
    by decide +kernel, by decide +kernel, by decide +kernel⟩

/-! ## Soundness -/

/-- The replica is hosted by the source cluster the request names. -/
def TransferRequest.Prefers (t : TransferRequest) (replica : ReplicaRecord) : Prop :=
  t.sourceCluster.valid = true ∧ replica.location.clusterId = t.sourceCluster

/-- The replica is the one of least identity among the sources in the cluster the request names,
or among all sources if none is there. -/
structure FirstSource (p : ControlPlane) (t : TransferRequest) (policy : ReplicationPolicyRecord)
    (source : ReplicaRecord) : Prop where
  mem : source ∈ p.sources t.key (some policy)
  requested : (∃ w ∈ p.sources t.key (some policy), t.Prefers w) →
    t.Prefers source ∧ ∀ w ∈ p.sources t.key (some policy), t.Prefers w →
      source.replicaId.value ≤ w.replicaId.value
  otherwise : (¬ ∃ w ∈ p.sources t.key (some policy), t.Prefers w) →
    ∀ w ∈ p.sources t.key (some policy), source.replicaId.value ≤ w.replicaId.value

theorem sourceRank_of_prefers {replica : ReplicaRecord} (h : t.Prefers replica) :
    sourceRank t.sourceCluster replica = replica.replicaId.value.toNat := by
  simp [sourceRank, h.1, h.2]

theorem sourceRank_of_not_prefers {replica : ReplicaRecord} (h : ¬ t.Prefers replica) :
    sourceRank t.sourceCluster replica = 2 ^ 64 + replica.replicaId.value.toNat := by
  have hnot : (t.sourceCluster.valid && replica.location.clusterId == t.sourceCluster) = false := by
    rw [← Bool.not_eq_true, Bool.and_eq_true, beq_iff_eq]
    exact h
  simp [sourceRank, hnot]

theorem LeadsSources.first {policy : ReplicationPolicyRecord} {source : ReplicaRecord}
    (h : LeadsSources p t policy source) : FirstSource p t policy source := by
  refine ⟨h.1, ?_, ?_⟩
  · rintro ⟨w, hw, hprefers⟩
    have hsource : t.Prefers source := by
      by_contra hnot
      have hle := h.2 w hw
      rw [sourceRank_of_not_prefers hnot, sourceRank_of_prefers hprefers] at hle
      have hlt := w.replicaId.value.toNat_lt
      omega
    refine ⟨hsource, fun w hw hprefers => ?_⟩
    have hle := h.2 w hw
    rw [sourceRank_of_prefers hsource, sourceRank_of_prefers hprefers] at hle
    exact UInt64.le_iff_toNat_le.mpr hle
  · intro hnone w hw
    have hle := h.2 w hw
    rw [sourceRank_of_not_prefers fun hprefers => hnone ⟨source, h.1, hprefers⟩,
      sourceRank_of_not_prefers fun hprefers => hnone ⟨w, hw, hprefers⟩] at hle
    exact UInt64.le_iff_toNat_le.mpr (Nat.le_of_add_le_add_left hle)

/-- The three records of an authorization agree on the identities and generations they share. -/
structure RecordsAgree (op : OperationRecord) (a : TransferAuthorization) (d : ReplicaRecord) :
    Prop where
  operation : (op.operationId, op.operationGeneration) = (a.operationId, a.operationGeneration)
    ∧ (d.operationId, d.operationGeneration) = (a.operationId, a.operationGeneration)
    ∧ d.provenance.operation = a.operationId
  migration : (op.migrationId, op.migrationGeneration) = (a.migrationId, a.migrationGeneration)
  transfer : (op.transferId, op.transferGeneration) = (a.transferId, a.transferGeneration)
    ∧ (d.transferId, d.transferGeneration) = (a.transferId, a.transferGeneration)
  reservation : (op.reservationId, op.reservationGeneration)
    = (a.reservationId, a.reservationGeneration)
  state : op.key = ⟨a.stateId, a.stateGeneration⟩ ∧ d.key = ⟨a.stateId, a.stateGeneration⟩
    ∧ d.provenance.sourceGeneration = a.stateGeneration
  set : op.sourceReplicaSetGeneration = a.replicaSetGeneration
    ∧ (d.replicaSetId, d.replicaSetGeneration) = (a.replicaSetId, a.replicaSetGeneration)
  placement : op.placementGeneration = a.placementGeneration
  source : (op.sourceReplica, op.sourceReplicaGeneration)
      = (a.sourceReplica, a.sourceReplicaGeneration)
    ∧ (op.sourceCluster, op.sourceIncarnation) = (a.sourceCluster, a.sourceIncarnation)
    ∧ d.provenance.sourceReplica = a.sourceReplica
    ∧ (d.provenance.originCluster, d.provenance.originIncarnation)
      = (a.sourceCluster, a.sourceIncarnation)
  destination : (op.destinationReplica, op.destinationReplicaGeneration)
      = (a.destinationReplica, a.destinationReplicaGeneration)
    ∧ (d.replicaId, d.replicaGeneration) = (a.destinationReplica, a.destinationReplicaGeneration)
    ∧ (op.destinationCluster, op.destinationIncarnation)
      = (a.destinationCluster, a.destinationIncarnation)
    ∧ (d.location.clusterId, d.location.clusterIncarnation)
      = (a.destinationCluster, a.destinationIncarnation)
  epoch : op.plannedEpoch = a.coordinatorEpoch ∧ d.createdEpoch = a.coordinatorEpoch

theorem TransferPlan.recordsAgree (plan : TransferPlan) (inputs : MutationInputs) :
    RecordsAgree (plan.operation inputs) (plan.authorization inputs) (plan.destination inputs) :=
  ⟨⟨rfl, rfl, rfl⟩, rfl, ⟨rfl, rfl⟩, rfl, ⟨rfl, rfl, rfl⟩, ⟨rfl, rfl⟩, rfl, ⟨rfl, rfl, rfl, rfl⟩,
    ⟨rfl, rfl, rfl, rfl⟩, rfl, rfl⟩

/-- What a granted authorization rests on and what it leaves. -/
structure SoundAuthorization (r : Runtime) (p' : ControlPlane) (t : TransferRequest)
    (a : TransferAuthorization) : Prop where
  current : ∃ state, r.plane.states[t.key]? = some state ∧ state.lifecycle = .current
  source : ∃ policy source,
    resolveReplicationPolicy r.plane r.config t.replicationPolicyId = some policy
      ∧ r.plane.replicas[a.sourceReplica]? = some source ∧ source.key = t.key
      ∧ FirstSource r.plane t policy source
  requested : t.destinationCluster.valid = true → a.destinationCluster = t.destinationCluster
  destination : ∃ cluster, r.plane.clusters[a.destinationCluster]? = some cluster
    ∧ cluster.liveAuthority = true ∧ cluster.incarnation = a.destinationIncarnation
  leads : ∃ state question candidate, t.question r.inputs = some (state, question)
    ∧ LeadsCandidates question state candidate ∧ candidate.clusterId = a.destinationCluster
  records : ∃ op d, p'.operations[a.operationId]? = some op
    ∧ p'.authorizations[a.operationId]? = some a
    ∧ p'.replicas[a.destinationReplica]? = some d ∧ RecordsAgree op a d
  replicas : ∀ (k : ReplicaId) (replica : ReplicaRecord), r.plane.replicas[k]? = some replica →
    p'.replicas[k]? = some replica
  operations : ∀ (o : OperationId) (op : OperationRecord), r.plane.operations[o]? = some op →
    p'.operations[o]? = some op
  authorizations : ∀ (o : OperationId) (grant : TransferAuthorization),
    r.plane.authorizations[o]? = some grant → p'.authorizations[o]? = some grant

section Records

variable {r : Runtime} {m : Mutation} {out : Outcome Response} {plan : TransferPlan}

/-- The maps after an authorization: each has the record the plan puts, and is otherwise as it
was. -/
theorem Executes.authorized_maps (h : Executes r m out)
    (effects : out.effects = plan.effects r.inputs) :
    (r.after m).plane.operations
        = r.plane.operations.insert ⟨r.plane.nextId⟩ (plan.operation r.inputs)
      ∧ (r.after m).plane.authorizations
        = r.plane.authorizations.insert ⟨r.plane.nextId⟩ (plan.authorization r.inputs)
      ∧ (r.after m).plane.replicas
        = r.plane.replicas.insert ⟨r.plane.nextId + 4⟩ (plan.destination r.inputs) := by
  have hrecords := h.records_eq
  rw [effects] at hrecords
  rw [operations_eq_of_records hrecords, authorizations_eq_of_records hrecords,
    replicas_eq_of_records hrecords, applyAll_operations, applyAll_authorizations,
    applyAll_replicas]
  exact ⟨rfl, rfl, rfl⟩

theorem Executes.mints_unused (h : Executes r m out) (authorizes : m.isAuthorization = true)
    (above : CounterAbove r.plane) (range : ∀ effect ∈ out.effects, effect.InRange) :
    r.plane.operations[(⟨r.plane.nextId⟩ : OperationId)]? = none
      ∧ r.plane.authorizations[(⟨r.plane.nextId⟩ : OperationId)]? = none
      ∧ r.plane.replicas[(⟨r.plane.nextId + 4⟩ : ReplicaId)]? = none := by
  refine ⟨?_, ?_, ?_⟩
  · exact Option.eq_none_iff_forall_ne_some.mpr fun _ hv =>
      UInt64.lt_irrefl _ (above.operations hv)
  · exact Option.eq_none_iff_forall_ne_some.mpr fun _ hv =>
      UInt64.lt_irrefl _ (above.authorizations hv).2
  · have hact : m.act r = .authorize ⟨r.plane.nextId⟩ := by
      cases m with
      | authorizeReplication | authorizeMigration => rfl
      | _ => cases authorizes
    exact Option.map_eq_none_iff.mp (h.mintsFresh above.bounded range _ hact)

end Records

/-- Authorization soundness: in every run that wraps no counter, a granted authorization rests on a
current generation, on the first of its sources and on the first of the clusters it considers; its
records agree and overwrite none. -/
theorem authorization_sound {r : Runtime} (reachable : Reachable Opened (Restrict Step NoWrap) r)
    {m : Mutation} {t : TransferRequest} (asks : m.transfer = some t) {a : TransferAuthorization}
    (granted : r.answer m = .ok (.authorization a)) (nowrap : NoWrap r (.mutation m)) :
    SoundAuthorization r (r.after m).plane t a := by
  obtain ⟨hkept, habove⟩ := counterAbove_of_noWrap reachable
  obtain ⟨plan, hplan, rfl, out, hexec, heffects⟩ := plans_of_granted asks granted
  have hderived := planTransfer_derived hplan
  have hadmitted := planTransfer_admitted hplan
  have hrange : ∀ effect ∈ out.effects, effect.InRange := hexec.effects_eq ▸ nowrap
  obtain ⟨hoperations, hauthorizations, hreplicas⟩ := hexec.authorized_maps heffects
  obtain ⟨hop, hgrant, hreplica⟩ := hexec.mints_unused (Mutation.isAuthorization_of_transfer asks)
    habove hrange
  have hleads : LeadsSources r.plane t plan.policy plan.source :=
    selectSourceReplica_least hderived.source
  obtain ⟨hsource, hkey⟩ := hkept.coherent.mem_replicasOfState.mp (List.mem_of_mem_filter hleads.1)
  obtain ⟨question, hquestion, -, -, hchosen⟩ := hderived.leads hkept.coherent
  have hcluster : plan.destinationCluster.clusterId = plan.chosen :=
    hkept.coherent.clusters hderived.cluster
  refine ⟨?_, ?_, ?_, ?_, ?_, ?_, ?_, ?_, ?_⟩
  · exact ⟨plan.state, hderived.state, by simpa [StateGenerationRecord.isCurrent] using
      hadmitted.current⟩
  · exact ⟨plan.policy, plan.source, hderived.policy, hsource, hkey, hleads.first⟩
  · intro hnamed
    have hcandidate := TransferRequest.candidate_clusterId hquestion hnamed hchosen.1.1
    exact hcluster.symm.trans hcandidate
  · exact ⟨plan.destinationCluster, hderived.cluster, hadmitted.live, rfl⟩
  · exact ⟨plan.state, question, _, hquestion, hchosen, hcluster⟩
  · refine ⟨plan.operation r.inputs, plan.destination r.inputs, ?_, ?_, ?_,
      plan.recordsAgree r.inputs⟩
    · rw [hoperations]
      exact Std.ExtTreeMap.getElem?_insert_self
    · rw [hauthorizations]
      exact Std.ExtTreeMap.getElem?_insert_self
    · rw [hreplicas]
      exact Std.ExtTreeMap.getElem?_insert_self
  · intro k replica hk
    exact hreplicas ▸ OrderedMap.getElem?_insert_of_fresh hreplica hk
  · intro o op ho
    exact hoperations ▸ OrderedMap.getElem?_insert_of_fresh hop ho
  · intro o grant ho
    exact hauthorizations ▸ OrderedMap.getElem?_insert_of_fresh hgrant ho

theorem authorization_sound_of_sourced :
    ∃ a t, (replicationUnder 0).transfer = some t
      ∧ (reach sourced).answer (replicationUnder 0) = .ok (.authorization a)
      ∧ SoundAuthorization (reach sourced) ((reach sourced).after (replicationUnder 0)).plane t a := by
  have hgranted : (grantedIn ((reach sourced).answer (replicationUnder 0))).isSome = true := by
    decide +kernel
  obtain ⟨a, ha⟩ := Option.isSome_iff_exists.mp hgranted
  have hanswer := grantedIn_eq_some ha
  exact ⟨a, _, rfl, hanswer, authorization_sound (reachable_of_complies (by decide +kernel))
    (m := replicationUnder 0) rfl hanswer (by decide +kernel)⟩

end StateFabric
