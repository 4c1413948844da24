import StateFabric.Refinement.Run

/-!
# What an authorization rests on

An authorization resolves its policies, selects a source among the replicas that hold authority,
and takes the best of the candidates that pass the hard constraints.  `TransferPlan.Derived` says
so for the plan it arrives at, `selectSourceReplica_least` which source is selected, and
`Derived.leads` that the chosen cluster passes the hard constraints and leads the ranking.
-/

namespace StateFabric

open ControlPlane MutationInputs

variable {candidate : PlacementCandidate} {a : TransferAuthorization}

variable {m : Mutation} {t : TransferRequest} {r : Runtime} {plan : TransferPlan}
  {out : Outcome Response}

/-! ## Chosen candidates -/

section Placement

variable {request : PlacementRequest} {state : Option StateGenerationRecord}

/-- The ranking order as a key: score, diversity and affinity descending, then identity. -/
def RankedCandidate.rank (c : RankedCandidate) : ℤ ×ₗ ℤ ×ₗ ℤ ×ₗ ℕ :=
  toLex (-c.score.toInt, toLex (-(c.factorValue .failureDomainDiversity).toInt,
    toLex (-(c.factorValue .regionAffinity).toInt, c.clusterId.value.toNat)))

theorem RankedCandidate.precedes_iff (a b : RankedCandidate) :
    a.precedes b = true ↔ a.rank < b.rank := by
  have hid : a.clusterId < b.clusterId
      ↔ a.clusterId.value.toNat < b.clusterId.value.toNat := Iff.rfl
  unfold RankedCandidate.precedes RankedCandidate.rank
  simp only [Prod.Lex.toLex_lt_toLex, hid, ne_eq, Int64.lt_iff_toInt_lt, ← Int64.toInt_inj]
  split_ifs <;> simp <;> omega

theorem RankedCandidate.clusterId_eq_of_rank_eq {a b : RankedCandidate} (h : a.rank = b.rank) :
    a.clusterId = b.clusterId := by
  have hvalue : a.clusterId.value.toNat = b.clusterId.value.toNat :=
    congrArg (fun key => (ofLex (ofLex (ofLex key).2).2).2) h
  exact congrArg StrongId.mk (UInt64.toNat_inj.mp hvalue)

/-- Sorting by an order that a key has on the values is insertion by the key. -/
theorem sortBy_eq {α β : Type} [LinearOrder β] {key : α → β} {precedes : α → α → Bool}
    {values : List α}
    (order : ∀ a ∈ values, ∀ b ∈ values, precedes a b = true ↔ key a < key b) :
    sortBy precedes values = values.insertionSort (fun a b => key a ≤ key b) := by
  have hsame := List.map_insertionSort (fun a b => !precedes b a) (fun a b => key a ≤ key b) id
    values fun a ha b hb => by simp [← not_lt, ← order b hb a ha]
  rwa [List.map_id, List.map_id] at hsame

/-- Values with different keys are sorted alike in whatever order they come. -/
theorem sortBy_perm {α β : Type} [LinearOrder β] {key : α → β} {precedes : α → α → Bool}
    (order : ∀ a b, (key a = key b → a = b) → (precedes a b = true ↔ key a < key b))
    {values values' : List α} (perm : values.Perm values')
    (distinct : ∀ a ∈ values, ∀ b ∈ values, key a = key b → a = b) :
    sortBy precedes values = sortBy precedes values' := by
  have htrans : IsTrans α (fun a b => key a ≤ key b) := ⟨fun _ _ _ => le_trans⟩
  have htotal : Std.Total (fun a b : α => key a ≤ key b) := ⟨fun _ _ => le_total _ _⟩
  have hdistinct : ∀ a ∈ values', ∀ b ∈ values', key a = key b → a = b := fun a ha b hb =>
    distinct a (perm.mem_iff.mpr ha) b (perm.mem_iff.mpr hb)
  rw [sortBy_eq fun a ha b hb => order a b (distinct a ha b hb),
    sortBy_eq fun a ha b hb => order a b (hdistinct a ha b hb)]
  refine List.Perm.eq_of_pairwise (fun a b ha hb hab hba => ?_)
    (List.pairwise_insertionSort _ values) (List.pairwise_insertionSort _ values')
    ((List.perm_insertionSort _ _).trans (perm.trans (List.perm_insertionSort _ _).symm))
  rw [List.mem_insertionSort] at ha hb
  exact distinct a ha b (perm.mem_iff.mpr hb) (le_antisymm hab hba)

theorem head_insertionSort_le {α β : Type} [LinearOrder β] (key : α → β) {values rest : List α}
    {best : α} (h : values.insertionSort (fun a b => key a ≤ key b) = best :: rest) :
    best ∈ values ∧ ∀ a ∈ values, key best ≤ key a := by
  have htrans : IsTrans α (fun a b => key a ≤ key b) := ⟨fun _ _ _ => le_trans⟩
  have htotal : Std.Total (fun a b : α => key a ≤ key b) := ⟨fun _ _ => le_total _ _⟩
  have hsorted := List.pairwise_insertionSort (fun a b => key a ≤ key b) values
  have hmem : ∀ {a}, a ∈ best :: rest ↔ a ∈ values := fun {a} =>
    h ▸ (List.perm_insertionSort _ values).mem_iff
  rw [h] at hsorted
  refine ⟨hmem.mp List.mem_cons_self, fun a ha => ?_⟩
  rcases List.mem_cons.mp (hmem.mpr ha) with rfl | hrest
  · exact le_rfl
  · exact List.rel_of_pairwise_cons hsorted hrest

/-- The candidate passes the hard constraints, and none that passes them is ranked before it. -/
def LeadsCandidates (request : PlacementRequest) (state : StateGenerationRecord)
    (candidate : PlacementCandidate) : Prop :=
  (candidate ∈ request.candidates
      ∧ (evaluateHardConstraints candidate request (some state)).accepted = true)
    ∧ ∀ other ∈ request.candidates,
      (evaluateHardConstraints other request (some state)).accepted = true →
      (scoreCandidate candidate request (some state)).rank
        ≤ (scoreCandidate other request (some state)).rank

theorem evaluatePlacement_chosen {state : StateGenerationRecord}
    (h : (evaluatePlacement request (some state)).chosenCluster.valid) :
    ∃ candidate, LeadsCandidates request state candidate
      ∧ candidate.clusterId = (evaluatePlacement request (some state)).chosenCluster := by
  unfold evaluatePlacement at h ⊢
  dsimp only at h ⊢
  split at h
  · cases h
  · rename_i best rest hranked
    rw [hranked]
    rw [sortBy_eq fun a _ b _ => RankedCandidate.precedes_iff a b] at hranked
    obtain ⟨hbest, hleast⟩ := head_insertionSort_le RankedCandidate.rank hranked
    have haccepted : ∀ candidate, candidate ∈ request.candidates →
        (evaluateHardConstraints candidate request (some state)).accepted = true →
        best.rank ≤ (scoreCandidate candidate request (some state)).rank := by
      intro candidate hcandidate haccepts
      refine hleast _ (List.mem_map.mpr ⟨(candidate, _), List.mem_filter.mpr ⟨?_, haccepts⟩, rfl⟩)
      exact List.mem_map.mpr ⟨candidate, hcandidate, rfl⟩
    obtain ⟨⟨candidate, outcome⟩, hentry, rfl⟩ := List.mem_map.mp hbest
    obtain ⟨hmem, haccepts⟩ := List.mem_filter.mp hentry
    obtain ⟨candidate', hcandidate, heq⟩ := List.mem_map.mp hmem
    obtain ⟨rfl, rfl⟩ := Prod.mk.inj heq
    exact ⟨candidate', ⟨⟨hcandidate, haccepts⟩, haccepted⟩, rfl⟩

end Placement

/-! ## Selected sources -/

section Sources

variable {preferred : ClusterId}

/-- The order sources are taken in: those in the preferred cluster first, then by identity. -/
def sourceRank (preferred : ClusterId) (r : ReplicaRecord) : Nat :=
  (if preferred.valid && r.location.clusterId == preferred then 0 else 2 ^ 64)
    + r.replicaId.value.toNat

/-- One round of the selection keeps the source of lower rank. -/
theorem betterSource_some (current replica : ReplicaRecord) :
    betterSource preferred (some current) replica
      = some (if sourceRank preferred replica < sourceRank preferred current then replica
        else current) := by
  have hreplica := replica.replicaId.value.toNat_lt
  have hcurrent := current.replicaId.value.toNat_lt
  have hlt : replica.replicaId < current.replicaId
      ↔ replica.replicaId.value.toNat < current.replicaId.value.toNat := Iff.rfl
  unfold betterSource sourceRank
  simp only [hlt]
  cases preferred.valid && replica.location.clusterId == preferred <;>
    cases preferred.valid && current.location.clusterId == preferred <;>
    simp <;> grind

/-- The selection ends with a source of least rank. -/
theorem foldl_betterSource_le (l : List ReplicaRecord) {best r : ReplicaRecord}
    (h : l.foldl (betterSource preferred) (some best) = some r) :
    sourceRank preferred r ≤ sourceRank preferred best
      ∧ ∀ w ∈ l, sourceRank preferred r ≤ sourceRank preferred w := by
  induction l generalizing best with
  | nil =>
    obtain rfl := Option.some.inj h
    exact ⟨le_rfl, by simp⟩
  | cons w rest ih =>
    rw [List.foldl_cons, betterSource_some] at h
    obtain ⟨hbest, hrest⟩ := ih h
    have hboth : sourceRank preferred r ≤ sourceRank preferred w
        ∧ sourceRank preferred r ≤ sourceRank preferred best := by
      split at hbest
      · exact ⟨hbest, by omega⟩
      · exact ⟨by omega, hbest⟩
    refine ⟨hboth.2, fun v hv => ?_⟩
    rcases List.mem_cons.mp hv with rfl | hv
    · exact hboth.1
    · exact hrest v hv

end Sources

/-- The replicas of a generation that hold authority as a replication source under a policy. -/
def ControlPlane.sources (p : ControlPlane) (key : StateKey)
    (policy : Option ReplicationPolicyRecord) : List ReplicaRecord :=
  (p.replicasOfState key).filter fun replica =>
    (assessReplicaAuthority replica
      (p.authorityContext key replica.location.clusterId p.replicaSets[key]? policy)
      ).authoritativeAsReplicationSource

/-- The selected source is the one of least rank among the replicas that hold authority. -/
theorem selectSourceReplica_least {p : ControlPlane} {key : StateKey} {preferred : ClusterId}
    {policy : Option ReplicationPolicyRecord} {r : ReplicaRecord}
    (h : selectSourceReplica p key preferred policy = some r) :
    r ∈ p.sources key policy
      ∧ ∀ w ∈ p.sources key policy, sourceRank preferred r ≤ sourceRank preferred w := by
  have hfold : (p.sources key policy).foldl (betterSource preferred) none = some r := h
  refine ⟨(foldl_betterSource_mem _ none hfold).resolve_right (by simp), ?_⟩
  cases hsources : p.sources key policy with
  | nil => simp
  | cons first rest =>
    rw [hsources] at hfold
    obtain ⟨hfirst, hrest⟩ := foldl_betterSource_le rest hfold
    exact List.forall_mem_cons.mpr ⟨hfirst, hrest⟩

/-! ## Plans -/

/-- The placement question an authorization asks, and the generation it asks it about. -/
def TransferRequest.question (request : TransferRequest) (inputs : MutationInputs) :
    Option (StateGenerationRecord × PlacementRequest) := do
  let p := inputs.plane
  let state ← p.states[request.key]?
  let stored ← p.replicaSets[request.key]?
  let policy ← resolveReplicationPolicy p inputs.config request.replicationPolicyId
  let placement ← resolvePlacementPolicy p inputs.config request.placementPolicyId
  let source ← selectSourceReplica p request.key request.sourceCluster (some policy)
  let candidates :=
    (p.placeableClusters.filter fun cluster =>
        !(request.destinationCluster.valid && cluster.clusterId != request.destinationCluster)).map
      fun cluster => buildCandidate p inputs.config cluster state (some source)
  pure (state, buildRequest p request.key (p.rebuildReplicaSet stored) policy placement
    (some source) (if request.kind = .migration then .migrate else .replicate) candidates)

/-- How a plan was arrived at. -/
structure TransferPlan.Derived (plan : TransferPlan) (inputs : MutationInputs)
    (request : TransferRequest) : Prop where
  key : plan.key = request.key
  state : inputs.plane.states[request.key]? = some plan.state
  set : ∃ stored, inputs.plane.replicaSets[request.key]? = some stored
    ∧ plan.set = inputs.plane.rebuildReplicaSet stored
  policy : resolveReplicationPolicy inputs.plane inputs.config request.replicationPolicyId
    = some plan.policy
  placement : resolvePlacementPolicy inputs.plane inputs.config request.placementPolicyId
    = some plan.placement
  source : selectSourceReplica inputs.plane request.key request.sourceCluster (some plan.policy)
    = some plan.source
  chosen : ∃ question, request.question inputs = some (plan.state, question)
    ∧ question.policy = plan.placement ∧ question.replicationPolicy = plan.policy
    ∧ plan.chosen = (evaluatePlacement question (some plan.state)).chosenCluster
    ∧ ∀ candidate ∈ question.candidates, ∃ (c : ClusterId) (cluster : ClusterRecord),
      inputs.plane.clusters[c]? = some cluster
      ∧ candidate = buildCandidate inputs.plane inputs.config cluster plan.state
        (some plan.source)
  valid : plan.chosen.valid
  cluster : inputs.plane.clusters[plan.chosen]? = some plan.destinationCluster

variable {inputs : MutationInputs} {request : TransferRequest}

theorem planTransfer_derived (h : planTransfer request inputs = .ok plan) :
    plan.Derived inputs request := by
  simp only [planTransfer, rejectIf_bind_eq_ok, found_bind_eq_ok, pure_eq_ok] at h
  obtain ⟨-, state, hstate, -, stored, hstored, policy, hpolicy, placement, hplacement, -, source,
    hsource, -, -, hvalid, -, cluster, hcluster, -, rfl⟩ := h
  refine ⟨rfl, hstate, ⟨stored, hstored, rfl⟩, hpolicy, hplacement, hsource, ?_,
    by simpa using hvalid, hcluster⟩
  refine ⟨_, ?_, rfl, rfl, rfl, fun candidate hcandidate => ?_⟩
  · simp [TransferRequest.question, hstate, hstored, hpolicy, hplacement, hsource]
  · obtain ⟨cluster, hlisted, rfl⟩ := List.mem_map.mp hcandidate
    have hplaced := List.mem_of_mem_filter (List.mem_of_mem_filter hlisted)
    obtain ⟨⟨c, record⟩, hrecord, rfl⟩ := List.mem_map.mp hplaced
    exact ⟨c, record, OrderedMap.mem_toList_iff.mp hrecord, rfl⟩

/-- The chosen cluster leads the ranking, as a candidate built from its record. -/
theorem TransferPlan.Derived.leads (h : plan.Derived inputs request)
    (coherent : Coherent inputs.plane) :
    ∃ question, request.question inputs = some (plan.state, question)
      ∧ question.policy = plan.placement ∧ question.replicationPolicy = plan.policy
      ∧ LeadsCandidates question plan.state
        (buildCandidate inputs.plane inputs.config plan.destinationCluster plan.state
          (some plan.source)) := by
  obtain ⟨question, hquestion, hplacement, hpolicy, hchosen, hbuilt⟩ := h.chosen
  obtain ⟨candidate, hleads, hid⟩ := evaluatePlacement_chosen (hchosen ▸ h.valid)
  obtain ⟨c, cluster, hstored, rfl⟩ := hbuilt candidate hleads.1.1
  have hc : c = plan.chosen := by
    rw [hchosen, ← hid]
    exact (coherent.clusters hstored).symm
  obtain rfl := OrderedMap.some_unique (hc ▸ hstored) h.cluster
  exact ⟨question, hquestion, hplacement, hpolicy, hleads⟩

/-- The checks a plan passed on the way. -/
structure TransferPlan.Admitted (plan : TransferPlan) (inputs : MutationInputs)
    (request : TransferRequest) : Prop where
  current : plan.state.isCurrent = true
  capacity : operationCapacityAvailable inputs.plane request.key.stateId
    plan.policy.destinationRules.maximumInFlightOperationsPerState = true
  live : plan.destinationCluster.liveAuthority = true
  kind : plan.kind = request.kind
  destructiveMove : plan.destructiveMove = request.destructiveMove

theorem planTransfer_admitted (h : planTransfer request inputs = .ok plan) :
    plan.Admitted inputs request := by
  simp only [planTransfer, rejectIf_bind_eq_ok, found_bind_eq_ok, pure_eq_ok] at h
  obtain ⟨-, state, -, hcurrent, stored, -, policy, -, placement, -, hcapacity, source, -, -, -, -,
    -, cluster, -, hlive, rfl⟩ := h
  exact ⟨by simpa using hcurrent, by simpa using hcapacity, by simpa using hlive, rfl, rfl⟩

theorem TransferRequest.candidate_clusterId {state : StateGenerationRecord}
    {question : PlacementRequest} (asked : request.question inputs = some (state, question))
    (named : request.destinationCluster.valid = true) (mem : candidate ∈ question.candidates) :
    candidate.clusterId = request.destinationCluster := by
  simp only [TransferRequest.question, Option.bind_eq_bind, Option.bind_eq_some_iff] at asked
  obtain ⟨s, -, stored, -, policy, -, placement, -, source, -, hpair⟩ := asked
  obtain ⟨-, rfl⟩ := Prod.mk.inj (Option.some.inj hpair)
  obtain ⟨cluster, hcluster, rfl⟩ := List.mem_map.mp mem
  obtain ⟨-, hkept⟩ := List.mem_filter.mp hcluster
  rw [named, Bool.true_and, Bool.not_eq_true', bne_eq_false_iff_eq] at hkept
  exact hkept

theorem authorizeTransaction_ok {out : Outcome TransferAuthorization}
    (h : authorizeTransaction request inputs = .ok out) :
    ∃ plan : TransferPlan, planTransfer request inputs = .ok plan
      ∧ out.effects = plan.effects inputs ∧ out.status = .ok (plan.authorization inputs) := by
  rw [authorizeTransaction, bind_eq_ok] at h
  obtain ⟨plan, hplan, h⟩ := h
  exact ⟨plan, hplan, commit_ok h⟩

theorem authorizeTransaction_planned {out : Outcome TransferAuthorization}
    (h : authorizeTransaction request inputs = .ok out) :
    ∃ plan : TransferPlan, plan.Derived inputs request ∧ out.effects = plan.effects inputs
      ∧ out.status = .ok (plan.authorization inputs) := by
  obtain ⟨plan, hplan, h⟩ := authorizeTransaction_ok h
  exact ⟨plan, planTransfer_derived hplan, h⟩

/-! ## Executed authorizations -/

/-- The transfer a request asks to be authorized. -/
def Mutation.transfer : Mutation → Option TransferRequest
  | .authorizeReplication request =>
    some
      { key := ⟨request.stateId, request.stateGeneration⟩
        destinationCluster := request.destinationCluster
        sourceCluster := request.sourceCluster
        kind := .replication
        destructiveMove := false
        replicationPolicyId := request.replicationPolicy.replicationPolicyId
        placementPolicyId := request.placementPolicy.placementPolicyId
        expectedEpoch := request.expectedCoordinatorEpoch }
  | .authorizeMigration request =>
    some
      { key := ⟨request.stateId, request.stateGeneration⟩
        destinationCluster := request.destinationCluster
        sourceCluster := request.sourceCluster
        kind := .migration
        destructiveMove := request.retireSourceAfterCommit
        replicationPolicyId := request.replicationPolicy.replicationPolicyId
        placementPolicyId := request.placementPolicy.placementPolicyId
        expectedEpoch := request.expectedCoordinatorEpoch }
  | _ => none

theorem mutationBody_transfer (asks : m.transfer = some t) (inputs : MutationInputs) :
    mutationBody m inputs = (authorizeTransaction t inputs).map (·.map .authorization) := by
  cases m with
  | authorizeReplication | authorizeMigration =>
    obtain rfl := Option.some.inj asks
    rfl
  | _ => cases asks

theorem Executes.plans (h : Executes r m out) (asks : m.transfer = some t) :
    ∃ plan : TransferPlan, planTransfer t r.inputs = .ok plan
      ∧ out.effects = plan.effects r.inputs
      ∧ out.status = .ok (.authorization (plan.authorization r.inputs)) := by
  have hbody := h.body
  rw [mutationBody_transfer asks] at hbody
  obtain ⟨inner, hinner, heffects, -⟩ := map_outcome_eq_ok hbody
  obtain ⟨plan, hplan, hplanned, hstatus⟩ := authorizeTransaction_ok hinner
  refine ⟨plan, hplan, heffects.trans hplanned, ?_⟩
  rw [map_outcome_status hbody hinner, hstatus]
  rfl

theorem Executes.planned (h : Executes r m out) (asks : m.transfer = some t) :
    ∃ plan : TransferPlan, plan.Derived r.inputs t ∧ out.effects = plan.effects r.inputs
      ∧ out.status = .ok (.authorization (plan.authorization r.inputs)) := by
  obtain ⟨plan, hplan, h⟩ := h.plans asks
  exact ⟨plan, planTransfer_derived hplan, h⟩

theorem executes_of_answer {response : Response} (h : r.answer m = .ok response) :
    ∃ out, Executes r m out ∧ out.status = .ok response := by
  rcases r.after_cases m with ⟨out, hexec⟩ | ⟨-, ⟨e, herror⟩, -⟩
  · exact ⟨out, hexec, hexec.answer_eq ▸ h⟩
  · cases herror.symm.trans h

theorem plans_of_granted (asks : m.transfer = some t)
    (granted : r.answer m = .ok (.authorization a)) :
    ∃ plan : TransferPlan, planTransfer t r.inputs = .ok plan ∧ a = plan.authorization r.inputs
      ∧ ∃ out, Executes r m out ∧ out.effects = plan.effects r.inputs := by
  obtain ⟨out, hexec, hstatus⟩ := executes_of_answer granted
  obtain ⟨plan, hplan, heffects, hplanned⟩ := hexec.plans asks
  have hsame := Except.ok.inj (hstatus.symm.trans hplanned)
  exact ⟨plan, hplan, Response.authorization.inj hsame, out, hexec, heffects⟩

theorem planned_of_granted (asks : m.transfer = some t)
    (granted : r.answer m = .ok (.authorization a)) :
    ∃ plan : TransferPlan, plan.Derived r.inputs t ∧ a = plan.authorization r.inputs
      ∧ ∃ out, Executes r m out ∧ out.effects = plan.effects r.inputs := by
  obtain ⟨plan, hplan, h⟩ := plans_of_granted asks granted
  exact ⟨plan, planTransfer_derived hplan, h⟩

theorem Mutation.exists_transfer (h : m.isAuthorization = true) : ∃ t, m.transfer = some t := by
  cases m with
  | authorizeReplication | authorizeMigration => exact ⟨_, rfl⟩
  | _ => cases h

theorem Mutation.isAuthorization_of_transfer (asks : m.transfer = some t) :
    m.isAuthorization = true := by
  cases m with
  | authorizeReplication | authorizeMigration => rfl
  | _ => cases asks

theorem Executes.recorded_operation (h : Executes r m out)
    (effects : out.effects = plan.effects r.inputs) :
    (r.after m).plane.operations[(plan.operation r.inputs).operationId]?
      = some (plan.operation r.inputs) := by
  have batch := plan.batch r.inputs
  obtain ⟨w, hw, rfl⟩ := OrderedMap.exists_getElem?_insertAll (m := r.plane.operations)
    (P := (· = plan.operation r.inputs))
    (mem_operationPuts.mpr ⟨batch.operations _ List.mem_cons_self, rfl⟩) fun w hw =>
      List.mem_singleton.mp (batch.mem_of_mem_putOperation (mem_operationPuts.mp hw).1)
  rw [operations_eq_of_records h.records_eq, effects, applyAll_operations, hw]

end StateFabric
