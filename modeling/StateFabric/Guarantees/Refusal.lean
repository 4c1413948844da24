import StateFabric.Guarantees.Operations

/-!
# Refused requests

A request that is answered with an error changes nothing, unless it is a transfer or verification
report that records the failure it reports; then only the named copy, the set of its generation and
the operation of the report change, and the copy does not count.  A request under another
coordinator epoch is refused whatever else it says.

Fencing does not precede idempotency for every token.  `commit_replica` and `transfer_ownership`
answer a repeat before they look at the replica set generation, the operation generation and the
generation of the new owner, and so acknowledge a repeat whose view is stale; the other requests
check their tokens first.
-/

namespace StateFabric

open Fallible Protocol Transition ControlPlane OrderedMap Scenario

variable {m : Mutation} {r : Runtime} {k : ReplicaId} {out : Outcome Response}

/-! ## Errors that are not recorded -/

/-- A request other than a report that is answered with an error changes nothing. -/
theorem Runtime.after_eq_of_error (coherent : Coherent r.plane) {e : Error}
    (error : r.answer m = .error e) (unreported : m.report = none) : r.after m = r := by
  rcases r.after_cases m with ⟨out, hexec⟩ | ⟨hsame, -⟩
  · have hok := (hexec.carried coherent (m.reaches_true r.plane)).acknowledged unreported
    rw [← hexec.answer_eq, error] at hok
    cases hok
  · exact hsame

/-- Epoch fencing: a request that expects another epoch than the current one is answered with an
error and changes nothing. -/
theorem epoch_fencing {r : Runtime} (reachable : ReachableRuntime r) {m : Mutation}
    (valid : m.expectedEpoch.valid = true) (other : m.expectedEpoch ≠ r.plane.coordinatorEpoch) :
    (∃ e, r.answer m = .error e) ∧ r.after m = r := by
  rcases r.after_cases m with ⟨out, hexec⟩ | ⟨hsame, herror, -⟩
  · have hcurrent :=
      (hexec.carried reachable.wellKept.coherent (m.reaches_true r.plane)).epoch
    have hplane : r.inputs.plane = r.plane := rfl
    simp [staleEpoch, valid, other, hplane] at hcurrent
  · exact ⟨herror, hsame⟩

/-- A generation with one committed copy. -/
def Scenario.committed : List Mutation :=
  [cluster 1, state 1 1 .immutable] ++ copy 20 1 1 1 7 false

/-- The exact repeat of an acknowledged commit, under another epoch. -/
theorem epoch_fencing_of_repeat :
    ∃ e, (reach committed).answer (.commitReplica
      { replicaId := ⟨20⟩, commitId := ⟨7⟩, expectedCoordinatorEpoch := ⟨9⟩ }) = .error e :=
  (epoch_fencing (reachable committed) (by decide) (by decide +kernel)).1

/-! ## Recorded failures -/

/-- What a recorded failure changes: the named replica, which does not count afterwards, and the
set of its generation; besides, only operations and bookkeeping. -/
structure RecordedFailure (p p' : ControlPlane) (k : ReplicaId) : Prop where
  named : ∃ before after, p.replicas[k]? = some before ∧ p'.replicas[k]? = some after
    ∧ replicaCountsTowardReplicationFactor after = false
    ∧ ∀ K : StateKey, K ≠ before.key → p'.replicaSets[K]? = p.replicaSets[K]?
  replicas : ∀ k' : ReplicaId, k' ≠ k → p'.replicas[k']? = p.replicas[k']?
  states : p'.states = p.states
  clusters : p'.clusters = p.clusters
  authorizations : p'.authorizations = p.authorizations
  ownership : p'.ownership = p.ownership

theorem Protocol.ReplicaMove.not_counting_of_report {a : Action} {p p' : Plane}
    {old : Option ReplicaView} {v : ReplicaView} (h : ReplicaMove a p p' k old v)
    (report : (∃ o s, a = .report k o s) ∨ ∃ o b, a = .verify k o b) : ¬ v.Counting := by
  intro hcounts
  cases h with
  | progress | abandon | verify => simp [ReplicaView.Counting] at hcounts
  | receive _ _ _ _ _ _ lifecycle => rcases lifecycle with hl | hl <;>
      simp [ReplicaView.Counting, hl] at hcounts
  | refuse _ _ _ _ _ lifecycle => rcases lifecycle with hl | hl | hl | hl <;>
      simp [ReplicaView.Counting, hl] at hcounts
  | _ => rcases report with ⟨o, s, rfl⟩ | ⟨o, b, rfl⟩ <;> simp_all

theorem Executes.recordedFailure (h : Executes r m out) (coherent : Coherent r.plane)
    {o : OperationId} (report : m.report = some (k, o)) :
    RecordedFailure r.plane (r.after m).plane k := by
  obtain ⟨replica, revised, hreplica, hwritten, -⟩ := h.written coherent report
  obtain ⟨moved, hmoved, -⟩ := Runtime.advancement_spec coherent report
  have batch := hwritten.batch hmoved
  have hid : revised.replicaId = k := hwritten.id.trans hreplica.id
  have hkey : revised.key = replica.key := congrArg Prod.fst hwritten.charter
  have hmove := (h.admissible coherent).lawful.replicas _ batch.replica
  have hcounts : ¬ revised.view.Counting := by
    refine hmove.not_counting_of_report ?_
    rw [hid]
    cases m with
    | recordTransferProgress | recordTransferCompletion =>
      obtain ⟨rfl, rfl⟩ := Prod.mk.inj (Option.some.inj report)
      exact .inl ⟨_, _, rfl⟩
    | verifyReplica =>
      obtain ⟨rfl, rfl⟩ := Prod.mk.inj (Option.some.inj report)
      exact .inr ⟨_, _, rfl⟩
    | _ => cases report
  have hreplicas : (r.after m).plane.replicas = r.plane.replicas.insert k revised := by
    rw [replicas_eq_of_records h.records_eq, ← hid]
    exact batch.replicas_applyAll
  refine ⟨⟨replica, revised, hreplica.id ▸ hreplica.recorded, ?_, ?_, ?_⟩, ?_, ?_, ?_, ?_, ?_⟩
  · rw [hreplicas, Std.ExtTreeMap.getElem?_insert_self]
  · exact Bool.eq_false_iff.mpr fun hcount => hcounts ((counting_iff revised).mp hcount)
  · intro K hother
    rw [replicaSets_eq_of_records h.records_eq, applyAll_replicaSets]
    refine getElem?_insertAll_of_not_mem fun s hs => ?_
    obtain ⟨hput, rfl⟩ := mem_replicaSetPuts.mp hs
    have hinputs : Coherent r.inputs.plane := coherent
    rw [batch.eq_of_mem_putReplicaSet hput, hinputs.bumped_key] at hother
    exact hother hkey
  · intro k' hother
    rw [hreplicas, getElem?_insert_eq, if_neg hother.symm]
  · exact (states_eq_of_records h.records_eq).trans
      (states_applyAll_of_not_mem batch.not_mem_putState)
  · exact (clusters_eq_of_records h.records_eq).trans batch.clusters_applyAll
  · refine (authorizations_eq_of_records h.records_eq).trans
      (authorizations_applyAll_of_not_mem fun a hput => ?_)
    -- Only an authorization puts one.
    cases h.puts coherent _ hput with
    | shared kind => exact kind
    | planned asks =>
      cases m with
      | authorizeReplication | authorizeMigration => cases report
      | _ => cases asks
  · exact (ownership_eq_of_records h.records_eq).trans
      (ownership_applyAll_of_not_mem batch.not_mem_putOwnership)

/-- Error atomicity: a request that is answered with an error changes nothing, or is a report that
records a failure. -/
theorem error_atomicity {r : Runtime} (reachable : ReachableRuntime r) {m : Mutation} {e : Error}
    (error : r.answer m = .error e) :
    r.after m = r ∨ ∃ k o, m.report = some (k, o)
      ∧ RecordedFailure r.plane (r.after m).plane k := by
  have hcoherent := reachable.wellKept.coherent
  cases hreport : m.report with
  | none => exact .inl (Runtime.after_eq_of_error hcoherent error hreport)
  | some named =>
    rcases r.after_cases m with ⟨out, hexec⟩ | ⟨hsame, -⟩
    · exact .inr ⟨named.1, named.2, rfl, hexec.recordedFailure hcoherent hreport⟩
    · exact .inl hsame

/-- A copy that has been staged. -/
def Scenario.staged : List Mutation := [cluster 1, state 1 1 .immutable, replica 20 1 1 1]

/-- A completion that finds other content is recorded and answered with an error. -/
theorem error_atomicity_of_mismatch :
    RecordedFailure (reach staged).plane ((reach staged).after
      (.recordTransferCompletion (completionReport 20 {} otherContent))).plane ⟨20⟩ := by
  have hanswer : ((reach staged).answer (.recordTransferCompletion
      (completionReport 20 {} otherContent))).isOk = false := by decide +kernel
  cases herror : (reach staged).answer (.recordTransferCompletion
      (completionReport 20 {} otherContent)) with
  | ok => rw [herror] at hanswer; cases hanswer
  | error =>
    rcases error_atomicity (reachable staged) herror with hsame | ⟨k, o, hreport, hrecorded⟩
    · have hmoved : ((reach staged).after (.recordTransferCompletion
          (completionReport 20 {} otherContent))).plane.replicas[(⟨20⟩ : ReplicaId)]?.map
          (·.lifecycle) ≠ (reach staged).plane.replicas[(⟨20⟩ : ReplicaId)]?.map (·.lifecycle) := by
        decide +kernel
      exact absurd (by rw [hsame]) hmoved
    · obtain ⟨rfl, -⟩ := Prod.mk.inj (Option.some.inj hreport)
      exact hrecorded

/-! ## Stale tokens -/

/-- The request carries a valid replica, replica set or operation generation or a valid cluster
incarnation that is not the current one.  The operation generation of a `commit_replica` counts
once the copy is committed, as it is when the request is a repeat. -/
def staleToken (p : ControlPlane) : Mutation → Bool
  | .commitReplica commit =>
    p.replicas[commit.replicaId]?.any fun replica =>
      (commit.replicaGeneration.valid && commit.replicaGeneration != replica.replicaGeneration)
      || (p.replicaSets[replica.key]?.any fun set => commit.expectedReplicaSetGeneration.valid
        && commit.expectedReplicaSetGeneration != set.generation)
      || (replica.commitRecorded && p.operations[commit.operationId]?.any fun operation =>
        commit.operationGeneration.valid
          && commit.operationGeneration != operation.operationGeneration)
  | .commitOperation { operationId := o, operationGeneration := generation, .. }
  | .cancelOperation { operationId := o, operationGeneration := generation, .. } =>
    p.operations[o]?.any fun operation =>
      generation.valid && generation != operation.operationGeneration
  | .transferOwnership request =>
    p.replicas[request.newOwnerReplica]?.any fun replica =>
      request.newOwnerReplicaGeneration.valid
        && replica.replicaGeneration != request.newOwnerReplicaGeneration
  | .markClusterUnreachable clusterId incarnation _ =>
    p.clusters[clusterId]?.any fun cluster =>
      incarnation.valid && incarnation != cluster.incarnation
  | _ => false

/-- The request is answered as a repeat before all of its tokens are checked: a committed copy
under the same commit identity, or the owner the handoff asks for. -/
def servedAsRepeat (r : Runtime) : Mutation → Bool
  | .commitReplica commit =>
    !r.shuttingDown && commit.commitId.valid
      && !staleEpoch commit.expectedCoordinatorEpoch r.plane.coordinatorEpoch
      && r.plane.replicas[commit.replicaId]?.any fun replica =>
        !(commit.replicaGeneration.valid && commit.replicaGeneration != replica.replicaGeneration)
          && replica.commitRecorded && replica.commitId == commit.commitId
  | .transferOwnership request =>
    let key : StateKey := ⟨request.stateId, request.stateGeneration⟩
    !r.shuttingDown
      && (r.plane.states[key]?.any fun state => requiresSingleAuthoritativeOwner state.consistency)
      && !staleEpoch request.expectedCoordinatorEpoch r.plane.coordinatorEpoch
      && r.plane.ownership[key]?.any fun ownership =>
        ownership.active && request.handoffCommit.valid
          && ownership.commit == request.handoffCommit
          && ownership.ownerReplica == request.newOwnerReplica
  | _ => false

section Tokens

variable {r : Runtime}

theorem commitReplica_stale {commit : ReplicaCommit} (running : r.shuttingDown = false)
    (stale : staleToken r.plane (.commitReplica commit) = true) :
    Yields (commitReplica commit r.inputs) fun _ =>
      servedAsRepeat r (.commitReplica commit) = true := by
  have hplane : r.inputs.plane = r.plane := rfl
  unfold commitReplica
  refine .rejectIf fun valid => .found fun existing recorded => .rejectIf fun generation =>
    .rejectIf fun epoch => .ite (fun committed => ?_) fun uncommitted => ?_
  · refine .rejectIf fun same => .of_forall fun _ => ?_
    rw [hplane] at recorded epoch
    simp only [Bool.not_eq_false', bne_eq_false_iff_eq] at valid same
    simp only [servedAsRepeat, running, valid, epoch, recorded, generation, committed, same,
      Option.any_some, beq_self_eq_true, Bool.not_false, Bool.and_self]
  · refine .found fun state _ => .found fun cluster _ => .rejectIf fun _ => .found fun set hset =>
      .rejectIf fun setGeneration => ?_
    rw [hplane] at recorded hset
    simp [staleToken, recorded, generation, hset, setGeneration, uncommitted] at stale

theorem transferOwnership_stale {request : OwnershipTransferRequest}
    (running : r.shuttingDown = false)
    (stale : staleToken r.plane (.transferOwnership request) = true) :
    Yields (transferOwnership request r.inputs) fun _ =>
      servedAsRepeat r (.transferOwnership request) = true := by
  have hplane : r.inputs.plane = r.plane := rfl
  unfold transferOwnership
  refine .found fun state hstate => .rejectIf fun single => .rejectIf fun epoch =>
    .found fun ownership held => .rejectIf fun inactive => .ite (fun same => ?_) fun _ => ?_
  · refine .of_forall fun _ => ?_
    rw [hplane] at hstate epoch held
    simp only [Bool.not_eq_false'] at single inactive
    simp only [servedAsRepeat, running, hstate, single, epoch, held, inactive, Option.any_some,
      Bool.not_false, Bool.and_self, Bool.true_and, same]
  · refine .rejectIf fun _ => .found fun newOwner recorded => .rejectIf fun generation => ?_
    rw [hplane] at recorded
    simp [staleToken, recorded, generation] at stale

/-- A request with a stale token that is executed is served as a repeat. -/
theorem Executes.servedAsRepeat (h : Executes r m out) (stale : staleToken r.plane m = true) :
    servedAsRepeat r m = true := by
  have hplane : r.inputs.plane = r.plane := rfl
  cases m with
  | commitReplica =>
    obtain ⟨inner, hinner, -, -⟩ := map_outcome_eq_ok h.body
    exact (commitReplica_stale h.running stale).holds hinner
  | transferOwnership =>
    obtain ⟨inner, hinner, -, -⟩ := map_outcome_eq_ok h.body
    exact (transferOwnership_stale h.running stale).holds hinner
  | commitOperation =>
    obtain ⟨inner, hinner, -, -⟩ := map_outcome_eq_ok h.body
    simp only [commitOperation, bind_eq_ok] at hinner
    obtain ⟨existing, hguard, -⟩ := hinner
    obtain ⟨recorded, -, current⟩ := (guardOperation_recorded ..).holds hguard
    rw [hplane] at recorded
    simp [staleToken, recorded, current] at stale
  | cancelOperation =>
    obtain ⟨inner, hinner, -, -⟩ := map_outcome_eq_ok h.body
    simp only [cancelOperation, bind_eq_ok] at hinner
    obtain ⟨existing, hguard, -⟩ := hinner
    obtain ⟨recorded, -, current⟩ := (guardOperation_recorded ..).holds hguard
    rw [hplane] at recorded
    simp [staleToken, recorded, current] at stale
  | markClusterUnreachable =>
    obtain ⟨inner, hinner, -, -⟩ := map_outcome_eq_ok h.body
    rw [markClusterUnreachable, found_bind_eq_ok] at hinner
    obtain ⟨existing, recorded, hinner⟩ := hinner
    rw [rejectIf_bind_eq_ok] at hinner
    rw [hplane] at recorded
    simp [staleToken, recorded, hinner.1] at stale
  | _ => cases stale

theorem answer_of_commit {ρ : Type} {x : Result (Outcome ρ)} {f : ρ → Response} {es : List Effect}
    {response : ρ} (running : r.shuttingDown = false)
    (body : mutationBody m r.inputs = x.map (·.map f)) (commits : x = r.inputs.commit es response) :
    r.answer m = .ok (f response) := by
  subst commits
  exact Executes.answer_eq ⟨running, body⟩

theorem acknowledged_of_servedAsRepeat (h : servedAsRepeat r m = true) :
    ∃ response, r.answer m = .ok response := by
  cases m with
  | commitReplica commit =>
    simp only [servedAsRepeat, Bool.and_eq_true, Bool.not_eq_true', Option.any_eq_true,
      beq_iff_eq] at h
    obtain ⟨⟨⟨hrunning, hvalid⟩, hepoch⟩, existing, hrecorded, ⟨hgeneration, hcommitted⟩, hsame⟩ := h
    have hbody : commitReplica commit r.inputs = r.inputs.commit [] existing := by
      unfold commitReplica
      refine rejectIf_bind_eq_ok.mpr ⟨by simp [hvalid], found_bind_eq_ok.mpr ⟨existing, hrecorded,
        rejectIf_bind_eq_ok.mpr ⟨hgeneration, rejectIf_bind_eq_ok.mpr ⟨hepoch, ?_⟩⟩⟩⟩
      rw [if_pos hcommitted]
      exact rejectIf_bind_eq_ok.mpr ⟨by simp [hsame], rfl⟩
    exact ⟨.replica existing, answer_of_commit (m := .commitReplica commit) hrunning rfl hbody⟩
  | transferOwnership request =>
    simp only [servedAsRepeat, Bool.and_eq_true, Bool.not_eq_true', Option.any_eq_true] at h
    obtain ⟨⟨⟨hrunning, state, hstate, hsingle⟩, hepoch⟩, ownership, hheld, ⟨⟨hactive, hvalid⟩,
      hcommit⟩, howner⟩ := h
    have hbody : transferOwnership request r.inputs = r.inputs.commit [] ownership := by
      unfold transferOwnership
      refine found_bind_eq_ok.mpr ⟨state, hstate, rejectIf_bind_eq_ok.mpr ⟨by simp [hsingle],
        rejectIf_bind_eq_ok.mpr ⟨hepoch, found_bind_eq_ok.mpr ⟨ownership, hheld,
        rejectIf_bind_eq_ok.mpr ⟨by simp [hactive], ?_⟩⟩⟩⟩⟩
      rw [if_pos (by simp only [hvalid, hcommit, howner, Bool.and_self])]
      rfl
    exact ⟨.ownership ownership,
      answer_of_commit (m := .transferOwnership request) hrunning rfl hbody⟩
  | _ => cases h

/-- A request with a stale token is answered with an error exactly when it is not served as a
repeat first. -/
theorem fencing_before_idempotency {m : Mutation} (stale : staleToken r.plane m = true) :
    (∃ e, r.answer m = .error e) ↔ servedAsRepeat r m = false := by
  constructor
  · rintro ⟨e, herror⟩
    refine Bool.eq_false_iff.mpr fun hserved => ?_
    obtain ⟨response, hok⟩ := acknowledged_of_servedAsRepeat hserved
    cases herror.symm.trans hok
  · intro hserved
    rcases r.after_cases m with ⟨out, hexec⟩ | ⟨-, herror, -⟩
    · rw [hexec.servedAsRepeat stale] at hserved
      cases hserved
    · exact herror

end Tokens

/-- A commit that names the generation its replica set has when it is first delivered. -/
def Scenario.firstCommit : Mutation :=
  .commitReplica { replicaId := ⟨20⟩, commitId := ⟨7⟩, expectedReplicaSetGeneration := ⟨1⟩ }

/-- A copy that is ready to be committed. -/
def Scenario.verified : List Mutation := staged ++ [completion 20, verification 20]

/-- A commit under a replica generation that is not current is refused. -/
theorem fencing_before_idempotency_of_generation :
    ∃ e, (reach committed).answer (.commitReplica
      { replicaId := ⟨20⟩, commitId := ⟨7⟩, replicaGeneration := ⟨9⟩ }) = .error e :=
  (fencing_before_idempotency (by decide +kernel)).mpr (by decide +kernel)

/-- The exact repeat of an acknowledged commit carries the replica set generation that the first
delivery has moved on, and is acknowledged. -/
theorem stale_repeat_of_verified :
    ReachableRuntime (reach verified)
      ∧ ((reach verified).answer firstCommit).isOk = true
      ∧ staleToken ((reach verified).after firstCommit).plane firstCommit = true
      ∧ (((reach verified).after firstCommit).answer firstCommit).isOk = true :=
  ⟨reachable verified, by decide +kernel, by decide +kernel, by decide +kernel⟩

/-! ## Verification of a counting copy -/

/-- The body is executed and answers with success. -/
def accepted {ρ : Type} (x : Result (Outcome ρ)) : Bool := (x.bind (·.status)).isOk

theorem accepted_rejectIf {ρ : Type} (c : Bool) (e : Error) (f : Unit → Result (Outcome ρ)) :
    accepted (rejectIf c e >>= f) = (!c && accepted (f ())) := by
  cases c <;> rfl

theorem accepted_map {ρ τ : Type} (x : Result (Outcome ρ)) (f : ρ → τ) :
    accepted (x.map (·.map f)) = accepted x := by
  cases x with
  | error => rfl
  | ok out => cases h : out.status <;> simp [accepted, Except.map, Except.bind, Outcome.map, h,
      Except.isOk, Except.toBool]

theorem Runtime.answer_isOk (r : Runtime) (m : Mutation) :
    (r.answer m).isOk = (!r.shuttingDown && accepted (mutationBody m r.inputs)) := by
  simp only [Runtime.answer, Runtime.mutate]
  cases r.shuttingDown with
  | true => rfl
  | false =>
    cases mutationBody m r.inputs with
    | error => rfl
    | ok out =>
      simp only [Runtime.persistAndApply_none]
      rfl

theorem Verification.accepted_judgeCompatibility (v : Verification) (inputs : MutationInputs)
    (requirement : CompatibilityRequirement) (replica : ReplicaRecord) :
    accepted (v.judgeCompatibility inputs requirement replica)
      = (v.finding inputs requirement replica == .compatible) := by
  have hjudged : v.Judged inputs _ _ := v.judgeCompatibility_judged requirement replica
  generalize v.finding inputs requirement replica = found at *
  generalize v.judgeCompatibility inputs requirement replica = result at *
  cases hjudged with
  | compatible | incompatible => rfl
  | undecided undecided => exact (beq_eq_false_iff_ne.mpr undecided).symm

/-- What a verification must meet to be answered with success. -/
def ReplicaVerification.passes (report : ReplicaVerification) (inputs : MutationInputs) : Bool :=
  match guardReplica inputs.plane report.replicaId report.replicaGeneration
    report.clusterIncarnation report.workerBootId report.expectedCoordinatorEpoch with
  | .error _ => false
  | .ok replica =>
    let state := inputs.plane.states[replica.key]?
    let expected := (state.map (·.contentDigest)).getD {}
    replica.lifecycle.acceptsVerification && report.integrityVerified
      && !(expected.valid && report.measuredDigest.valid && report.measuredDigest != expected)
      && !(expected.valid && !report.measuredDigest.valid)
      && Verification.finding { report, revised := replica, counters := {}, next := 0 } inputs
        ((state.map (·.compatibilityRequirement)).getD {}) replica == .compatible

theorem accepted_verifyReplica (report : ReplicaVerification) (inputs : MutationInputs) :
    accepted (verifyReplica report inputs) = report.passes inputs := by
  simp only [verifyReplica, ReplicaVerification.passes]
  cases guardReplica inputs.plane report.replicaId report.replicaGeneration
      report.clusterIncarnation report.workerBootId report.expectedCoordinatorEpoch with
  | error => rfl
  | ok replica =>
    refine (accepted_rejectIf _ _ _).trans ?_
    simp only [apply_ite accepted, Verification.accepted_judgeCompatibility]
    -- Every branch but the last one ends in `persist_and_fail`.
    have hchain : ∀ a b c d e : Bool,
        (!!a && if (!b) = true then false else if c = true then false else
          if d = true then false else e) = (a && b && !c && !d && e) := by decide
    exact hchain ..

/-- A verification that is answered with success never leaves a copy counting, so that it keeps the
authority of a counting copy exactly when it is refused. -/
theorem verification_keeps_authority_iff {r : Runtime} (reachable : ReachableRuntime r)
    (report : ReplicaVerification) :
    ((r.answer (.verifyReplica report)).isOk = true →
      (r.after (.verifyReplica report)).plane.counting report.replicaId = true
        ∧ (r.after (.verifyReplica report)).plane.replicas[report.replicaId]?.map (·.authority)
          = r.plane.replicas[report.replicaId]?.map (·.authority))
      ↔ (r.shuttingDown || !report.passes r.inputs) = true := by
  have hanswer : (r.answer (.verifyReplica report)).isOk
      = (!r.shuttingDown && report.passes r.inputs) := by
    rw [r.answer_isOk, ← accepted_verifyReplica]
    exact congrArg _ (accepted_map ..)
  have hrefused : (r.shuttingDown || !report.passes r.inputs) = true
      ↔ ¬ (r.answer (.verifyReplica report)).isOk = true := by
    rw [hanswer]
    cases r.shuttingDown <;> cases report.passes r.inputs <;> decide
  rw [hrefused]
  refine ⟨fun hkeeps hok => ?_, fun hrefused hok => absurd hok hrefused⟩
  obtain ⟨hcounts, -⟩ := hkeeps hok
  rcases r.after_cases (.verifyReplica report) with ⟨out, hexec⟩ | ⟨-, ⟨e, herror⟩, -⟩
  · obtain ⟨-, after, -, hafter, hfenced, -⟩ :=
      (hexec.recordedFailure reachable.wellKept.coherent rfl).named
    simp [ControlPlane.counting, hafter, hfenced] at hcounts
  · rw [herror] at hok
    cases hok

/-- A counting copy, and a verification of it that reports a mismatch. -/
theorem verification_keeps_authority_of_mismatch :
    (reach committed).plane.counting ⟨20⟩ = true
      ∧ (((reach committed).answer (.verifyReplica { replicaId := ⟨20⟩ })).isOk = true →
        ((reach committed).after (.verifyReplica { replicaId := ⟨20⟩ })).plane.counting ⟨20⟩
          = true) :=
  ⟨by decide +kernel, fun hok =>
    ((verification_keeps_authority_iff (reachable committed) { replicaId := ⟨20⟩ }).mpr
      (by decide +kernel) hok).1⟩

/-- The counting copy is verified again, by the report it was first prepared with, and does not
count any more. -/
theorem demoted_by_verification :
    ReachableRuntime (reach committed) ∧ (reach committed).plane.counting ⟨20⟩ = true
      ∧ ((reach committed).answer (verification 20)).isOk = true
      ∧ ((reach committed).after (verification 20)).plane.counting ⟨20⟩ = false :=
  ⟨reachable committed, by decide +kernel, by decide +kernel, by decide +kernel⟩

end StateFabric
