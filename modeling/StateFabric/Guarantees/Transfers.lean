import StateFabric.Guarantees.Ceilings
import StateFabric.Refinement.Revision

/-!
# From the authorization of a transfer to its commit

An authorization fixes the terms of its operation, and no later step rewrites them
(`WellKept.operation_terms`); what a commit asks of them is another matter.

* `reservations_expire`: the deadline of the reservation is recorded and never looked at again, so
  a commit keeps it exactly when it happens to be made in time.
* `operation_discipline`: a terminal operation stays as it is unless the identity counter wraps and
  its identity is minted again; the operations in flight of a state never outnumber the largest
  limit of the policies they were authorized under.
* `safe_migration_iff`: a commit makes its destination count, loses no copy, and touches the source
  only to retire it, unless the identities of the source and the destination have come to coincide.
-/

namespace StateFabric

open Protocol Transition ControlPlane OrderedMap Scenario

variable {p q : ControlPlane} {e : Event} {s s' : LedgerPoint} {r r' : Runtime} {o : OperationId}
  {K : StateKey} {commit : OperationCommit}

/-! ## Reservations -/

/-- The commit is made while the reservation of its operation stands. -/
def Runtime.withinReservation (r : Runtime) (commit : OperationCommit) : Bool :=
  r.plane.operations[commit.operationId]?.all fun op => r.inputs.tick ≤ op.reservationExpiresAt

theorem MovesToComplete.completedAt (h : MovesToComplete r commit) (coherent : Coherent r.plane) :
    ∃ op, (r.after (.commitOperation commit)).plane.operations[commit.operationId]? = some op
      ∧ op.state = .complete ∧ op.updatedAt = r.inputs.tick := by
  obtain ⟨out, inner, hexec, -, heffects, _, _, _, operation, c⟩ := h.executed
  obtain ⟨hbefore, hafter⟩ := h
  obtain ⟨op, hop, hstate⟩ := (Option.any_eq_true _ _).mp hafter
  refine ⟨op, hop, by simpa using hstate, ?_⟩
  rw [operations_eq_of_records hexec.records_eq] at hop
  rcases r.plane.operations_applyAll_cases out.effects commit.operationId with
    hsame | ⟨w, ⟨hmem, -⟩, hput⟩
  · -- An operation that was not written is not moved either.
    rw [hsame] at hop
    rw [hop] at hbefore
    simp_all
  · obtain rfl := some_unique hput hop
    rw [heffects] at hmem
    obtain ⟨_, _, _, _, _, -, planned⟩ := c.planned
    obtain ⟨_, batch⟩ := c.batch coherent planned
    rw [← Option.some.inj (batch.mem_putOperation.mp hmem)]
    exact c.dated

theorem ReachableRuntime.operation_terms (h : ReachableRuntime r) (hstep : Step r e r')
    (meets : OnEffect (notAuthorizedAnew o) r e) :
    r'.plane.operations[o]?.map (·.terms) = r.plane.operations[o]?.map (·.terms) := by
  rcases hstep.effect_cases meets with ⟨m, out, rfl, rfl, -, -, hanew⟩ | hsame | ⟨config, rfl⟩
  · refine h.wellKept.operation_terms hstep fun m' hm hauthorization => ?_
    obtain rfl := Event.mutation.inj hm
    simpa [notAuthorizedAnew, hauthorization] using hanew
  · rw [operations_eq_of_records hsame]
  · exact h.wellKept.operation_terms hstep (by simp)

/-- Between the authorization of an operation and the next one under its identity, the operation
has the terms it was authorized with. -/
theorem terms_of_granted {r₁ r₂ : Runtime} (reachable : ReachableRuntime r₁) {m : Mutation}
    {t : TransferRequest} (asks : m.transfer = some t) {a : TransferAuthorization}
    (granted : r₁.answer m = .ok (.authorization a))
    (run : Runs (Restrict Step (OnEffect (notAuthorizedAnew a.operationId))) (r₁.after m) r₂) :
    ∃ plan : TransferPlan, plan.Derived r₁.inputs t ∧ a = plan.authorization r₁.inputs
      ∧ r₂.plane.operations[a.operationId]?.map (·.terms)
        = some (plan.operation r₁.inputs).terms := by
  obtain ⟨plan, hderived, rfl, out, hexec, heffects⟩ := planned_of_granted asks granted
  refine ⟨plan, hderived, rfl, ?_⟩
  have hrecorded : (r₁.after m).plane.operations[(plan.operation r₁.inputs).operationId]?.map
      (·.terms) = some (plan.operation r₁.inputs).terms := by
    rw [hexec.recorded_operation heffects, Option.map_some]
  exact run.invariant_under (J := ReachableRuntime)
    (I := fun r => r.plane.operations[(plan.operation r₁.inputs).operationId]?.map (·.terms)
      = some (plan.operation r₁.inputs).terms)
    (fun _ _ _ hstep hr => hr.tail hstep.1)
    (fun r e r' hstep hr hI => hr.operation_terms hstep.1 hstep.2 ▸ hI)
    (reachable.tail (.mutation r₁ m)) hrecorded

/-- A commit completes its operation by the deadline of its authorization exactly when it is made
while the recorded reservation stands. -/
theorem reservations_expire {r₁ r₂ : Runtime} (reachable : ReachableRuntime r₁) {m : Mutation}
    {t : TransferRequest} (asks : m.transfer = some t) {a : TransferAuthorization}
    (granted : r₁.answer m = .ok (.authorization a))
    (run : Runs (Restrict Step (OnEffect (notAuthorizedAnew a.operationId))) (r₁.after m) r₂)
    {commit : OperationCommit} (names : commit.operationId = a.operationId)
    (completes : MovesToComplete r₂ commit) :
    ∃ op, (r₂.after (.commitOperation commit)).plane.operations[a.operationId]? = some op
      ∧ op.state = .complete
      ∧ (op.updatedAt ≤ a.reservationExpiresAt ↔ r₂.withinReservation commit = true) := by
  have hreachable : ReachableRuntime r₂ :=
    (reachable.tail (.mutation r₁ m)).runs run.of_restrict
  obtain ⟨op, hop, hstate, htick⟩ := completes.completedAt hreachable.wellKept.coherent
  rw [names] at hop
  refine ⟨op, hop, hstate, ?_⟩
  obtain ⟨plan, -, rfl, hterms⟩ := terms_of_granted reachable asks granted run
  obtain ⟨existing, hexisting, hsame⟩ := Option.map_eq_some_iff.mp hterms
  have hdeadline : existing.reservationExpiresAt
      = (plan.authorization r₁.inputs).reservationExpiresAt :=
    (congrArg OperationRecord.reservationExpiresAt hsame :)
  rw [Runtime.withinReservation, names, hexisting, Option.all_some, decide_eq_true_eq, htick,
    hdeadline]

/-- The copy of an authorized replication, received and verified at once. -/
def Scenario.prompt : Runtime :=
  ((reach sourced).after (replicationUnder 0)).afterAll [completion 28, verification 28]

theorem reservations_expire_of_prompt :
    ∃ a op, (reach sourced).answer (replicationUnder 0) = .ok (.authorization a)
      ∧ (prompt.after (.commitOperation { operationId := ⟨24⟩, commitId := ⟨8⟩ })
        ).plane.operations[a.operationId]? = some op
      ∧ op.state = .complete ∧ op.updatedAt ≤ a.reservationExpiresAt := by
  have hgranted : (grantedIn ((reach sourced).answer (replicationUnder 0))).any
      (·.operationId == ⟨24⟩) = true := by decide +kernel
  obtain ⟨a, ha, hid⟩ := (Option.any_eq_true _ _).mp hgranted
  have hid : a.operationId = ⟨24⟩ := by simpa using hid
  have hanswer := grantedIn_eq_some ha
  have hcompletes : MovesToComplete prompt { operationId := ⟨24⟩, commitId := ⟨8⟩ } := by
    constructor <;> decide +kernel
  obtain ⟨op, hop, hstate, hdeadline⟩ := reservations_expire (reachable sourced)
    (m := replicationUnder 0) rfl hanswer
    (hid ▸ Runtime.runs_afterAll_of_complies (by decide +kernel)) hid.symm hcompletes
  exact ⟨a, op, hanswer, hop, hstate, hdeadline.mpr (by decide +kernel)⟩

/-- The same copy, received and verified long after the reservation has expired. -/
def Scenario.overdue : Runtime :=
  ((reach sourced).after (replicationUnder 0)).afterAll
    [.advanceTime 5000, completion 28, verification 28]

/-- The operation is completed after the deadline of its authorization. -/
theorem completed_after_expiry_of_overdue :
    ReachableRuntime (reach sourced)
      ∧ Runs (Restrict Step (OnEffect (notAuthorizedAnew ⟨24⟩)))
        ((reach sourced).after (replicationUnder 0)) overdue
      ∧ MovesToComplete overdue { operationId := ⟨24⟩, commitId := ⟨8⟩ }
      ∧ (grantedIn ((reach sourced).answer (replicationUnder 0))).any (fun a =>
        a.operationId == ⟨24⟩
          && (overdue.after (operationCommit 24 8)).plane.operations[a.operationId]?.any fun op =>
            op.state == .complete && a.reservationExpiresAt < op.updatedAt) = true :=
  ⟨reachable _, Runtime.runs_afterAll_of_complies (by decide +kernel),
    ⟨by decide +kernel, by decide +kernel⟩, by decide +kernel⟩

/-! ## Terminal operations -/

/-- Every operation that is terminal in the first plane has the same state in the second. -/
def Absorbs (p p' : ControlPlane) : Prop :=
  ∀ (o : OperationId) (op : OperationRecord), p.operations[o]? = some op → op.isTerminal = true →
    ∃ op', p'.operations[o]? = some op' ∧ op'.state = op.state

theorem Absorbs.trans {q s : ControlPlane} (h : Absorbs p q) (h' : Absorbs q s) : Absorbs p s := by
  intro o op hop hterminal
  obtain ⟨op', hop', hstate⟩ := h o op hop hterminal
  have hterminal' : op'.isTerminal = true := by
    simp only [OperationRecord.isTerminal, hstate]
    exact hterminal
  obtain ⟨op'', hop'', hstate'⟩ := h' o op' hop' hterminal'
  exact ⟨op'', hop'', hstate'.trans hstate⟩

/-- The operations of a state that are not terminal. -/
def ControlPlane.openOperations (p : ControlPlane) (s : StateId) : List OperationRecord :=
  p.operationList.filter fun o => o.stateId == s && !o.isTerminal

/-- Their identities. -/
def ControlPlane.openIds (p : ControlPlane) (s : StateId) : Finset OperationId :=
  ((p.openOperations s).map (·.operationId)).toFinset

theorem Coherent.mem_openIds (h : Coherent p) {s : StateId} :
    o ∈ p.openIds s ↔ ∃ op, p.operations[o]? = some op ∧ op.stateId = s
      ∧ op.isTerminal = false := by
  simp only [openIds, openOperations, List.mem_toFinset, List.mem_map, List.mem_filter,
    h.mem_operationList, Bool.and_eq_true, beq_iff_eq, Bool.not_eq_true']
  constructor
  · rintro ⟨op, ⟨hop, hstate, hlive⟩, rfl⟩
    exact ⟨op, hop, hstate, hlive⟩
  · rintro ⟨op, hop, hstate, hlive⟩
    have hid := (h.operations hop).1
    exact ⟨op, ⟨hid.symm ▸ hop, hstate, hlive⟩, hid⟩

/-- An open operation was open before the step, unless the step authorizes it. -/
theorem WellKept.mem_openIds (h : WellKept r) (hstep : Step r e r') {s : StateId}
    (other : e.action r ≠ .authorize o) (mem : o ∈ r'.plane.openIds s) : o ∈ r.plane.openIds s := by
  obtain ⟨hkept', hprotocol⟩ := h.step hstep
  obtain ⟨op', hop', hstate, hlive⟩ := hkept'.coherent.mem_openIds.mp mem
  rcases hprotocol.operation_cases (abs_operations hop') with ⟨act, -⟩ | ⟨v, hv, hsame⟩
  · exact absurd act other
  · obtain ⟨op, hop, rfl⟩ := Option.map_eq_some_iff.mp hv
    have hkey : op'.key = op.key := (congrArg OperationView.key hsame :)
    refine h.coherent.mem_openIds.mpr ⟨op, hop, ?_, ?_⟩
    · exact (congrArg StateKey.stateId hkey).symm.trans hstate
    · by_contra hterminal
      have hterminal := op.isTerminal_iff.mp (Bool.eq_true_of_not_eq_false hterminal)
      have hview := hprotocol.terminal_operation other hv hterminal (abs_operations hop')
      exact OperationRecord.not_terminal hlive (hview ▸ hterminal)

theorem length_lt_of_operationCapacityAvailable {s : StateId} {limit : UInt32}
    (h : operationCapacityAvailable p s limit = true) (fits : (p.openOperations s).length < 2 ^ 32) :
    (p.openOperations s).length < limit.toNat := by
  have hlt : UInt32.ofNat (p.openOperations s).length < limit := by
    simpa [operationCapacityAvailable, openOperations] using h
  rw [UInt32.lt_iff_toNat_lt, UInt32.toNat_ofNat_of_lt' fits] at hlt
  exact hlt

/-- A point of a run with the policies the operations of each state were authorized under. -/
structure LedgerPoint where
  runtime : Runtime
  policies : List (StateId × ReplicationPolicyRecord)

/-- The state and the policy an event authorizes an operation for. -/
def authorizedUnder (r : Runtime) : ServerEvent → Option (StateId × ReplicationPolicyRecord)
  | .mutation m faults => do
    let t ← m.transfer
    let _ ← grantedIn (r.answerFaults m faults)
    let policy ← resolveReplicationPolicy r.inputs.plane r.inputs.config t.replicationPolicyId
    return (t.key.stateId, policy)
  | _ => none

/-- A step of a run that lasts; the policy of an operation it authorizes is entered in the
ledger. -/
def LedgerStep (s : LedgerPoint) (e : ServerEvent) (s' : LedgerPoint) : Prop :=
  LastingStep (fun _ _ => True) s.runtime e s'.runtime
    ∧ s'.policies = (authorizedUnder s.runtime e).toList ++ s.policies

/-- The points of the runs that last of a fabric opened over an empty directory. -/
def ReachableLedger (s : LedgerPoint) : Prop :=
  Reachable (fun s => Opened s.runtime ∧ s.policies = []) LedgerStep s

/-- The largest number of operations in flight that a policy the operations of a state were
authorized under allows. -/
def LedgerPoint.largestLimit (s : LedgerPoint) (state : StateId) : Nat :=
  ((s.policies.filter (·.1 == state)).map
    (·.2.destinationRules.maximumInFlightOperationsPerState.toNat)).foldr max 0

/-- Executes a request and keeps the ledger. -/
def LedgerPoint.after (s : LedgerPoint) (m : Mutation) : LedgerPoint :=
  { runtime := s.runtime.after m
    policies := (authorizedUnder s.runtime (.mutation m {})).toList ++ s.policies }

/-- No state has more operations in flight than its policies allow. -/
def LedgerPoint.WithinLimits (s : LedgerPoint) : Prop :=
  ∀ state, (s.runtime.plane.openOperations state).length ≤ s.largestLimit state

theorem LedgerPoint.largestLimit_lt (s : LedgerPoint) (state : StateId) :
    s.largestLimit state < 2 ^ 32 := by
  unfold largestLimit
  induction s.policies.filter (·.1 == state) with
  | nil => simp
  | cons entry =>
    have hlimit := entry.2.destinationRules.maximumInFlightOperationsPerState.toNat_lt
    simp only [List.map_cons, List.foldr_cons]
    omega

theorem LedgerPoint.le_largestLimit {state : StateId} {policy : ReplicationPolicyRecord}
    (mem : (state, policy) ∈ s.policies) :
    policy.destinationRules.maximumInFlightOperationsPerState.toNat ≤ s.largestLimit state := by
  have hmem : (state, policy) ∈ s.policies.filter (·.1 == state) := by simp [mem]
  unfold largestLimit
  generalize s.policies.filter (·.1 == state) = entries at hmem
  induction entries with
  | nil => cases hmem
  | cons entry rest ih =>
    simp only [List.map_cons, List.foldr_cons]
    rcases List.mem_cons.mp hmem with rfl | hrest
    · exact le_max_left _ _
    · exact (ih hrest).trans (le_max_right _ _)

/-- A step that authorizes an operation enters its policy, which had room for it. -/
theorem LedgerStep.authorized {e : ServerEvent} (h : LedgerStep s e s')
    (answered : ∀ m faults, e = .mutation m faults →
      s.runtime.answerFaults m faults = s.runtime.answer m)
    (hstep : Step s.runtime e.request r) (act : e.request.action s.runtime = .authorize o)
    {state : StateId} (mem : o ∈ r.plane.openIds state) (kept : WellKept s.runtime)
    (within : s.WithinLimits) :
    (s.runtime.plane.openOperations state).length < s'.largestLimit state := by
  have hauthorizes := authorizes_of_action act
  cases e with
  | mutation m faults =>
    have hanswer := answered m faults rfl
    obtain ⟨hauthorization, heffects, rfl⟩ := hauthorizes
    obtain ⟨t, asks⟩ := Mutation.exists_transfer hauthorization
    rcases s.runtime.effect_cases m with ⟨out, hexec, -⟩ | ⟨hnone, -⟩
    · obtain ⟨plan, hplan, hplanned, hstatus⟩ := hexec.plans asks
      have hderived := planTransfer_derived hplan
      -- The operation is one of the state the request names.
      have hstate : t.key.stateId = state := by
        obtain ⟨op, hop, hstate, -⟩ := (kept.step hstep).1.coherent.mem_openIds.mp mem
        rw [hstep.eq_after, show (⟨s.runtime.plane.nextId⟩ : OperationId)
          = (plan.operation s.runtime.inputs).operationId from rfl,
          hexec.recorded_operation hplanned] at hop
        obtain rfl := Option.some.inj hop
        exact (congrArg StateKey.stateId hderived.key).symm.trans hstate
      have hentry : authorizedUnder s.runtime (.mutation m faults) = some (state, plan.policy) := by
        simp [authorizedUnder, asks, hanswer, hexec.answer_eq, hstatus, grantedIn, hderived.policy,
          hstate]
      have hroom := (planTransfer_admitted hplan).capacity
      rw [hstate] at hroom
      have hfits := (within state).trans_lt (s.largestLimit_lt state)
      calc (s.runtime.plane.openOperations state).length
          < plan.policy.destinationRules.maximumInFlightOperationsPerState.toNat :=
            length_lt_of_operationCapacityAvailable hroom hfits
        _ ≤ s'.largestLimit state := by
            refine LedgerPoint.le_largestLimit ?_
            rw [h.2, hentry]
            exact List.mem_append_left _ (by simp)
    · exact absurd hnone heffects
  | _ => exact hauthorizes.elim

theorem ReachableLedger.runtime (h : ReachableLedger s) : LastingRuntime s.runtime :=
  Reachable.invariant (I := fun s => LastingRuntime s.runtime)
    (fun _ hinit => Reachable.of_init hinit.1) (fun _ _ _ hstep hs => hs.tail hstep.1) h

theorem Opened.openOperations (h : Opened r) (state : StateId) :
    r.plane.openOperations state = [] := by
  obtain ⟨hkept, hempty⟩ := h.start
  refine List.filter_eq_nil_iff.mpr fun op hop => ?_
  have hview := abs_operations (hkept.coherent.mem_operationList.mp hop)
  rw [hempty] at hview
  cases hview

/-- The authoritative count `query_replica_set` reports for a generation. -/
def ControlPlane.reportedCount (p : ControlPlane) (K : StateKey) : UInt32 :=
  match queryReplicaSet p K with
  | .ok set => set.authoritativeCount
  | .error _ => 0

/-- What the commit of an operation may do to the copies of its generation. -/
structure SafeMigration (p p' : ControlPlane) (op : OperationRecord) (retireSource : Bool) :
    Prop where
  counts : p'.CountsFor op.key op.destinationReplica
  copies : max 1 (p.reportedCount op.key).toNat ≤ (p'.reportedCount op.key).toNat
  source : p'.replicas[op.sourceReplica]?.map (·.lifecycle)
      ≠ p.replicas[op.sourceReplica]?.map (·.lifecycle) →
    op.destructiveMove = true ∧ retireSource = true
  others : ∀ k, p'.replicas[k]? ≠ p.replicas[k]? → k = op.destinationReplica
    ∨ k = op.sourceReplica
    ∨ ∃ ownership, p.ownership[op.key]? = some ownership ∧ ownership.ownerReplica = k

/-- The destination is a copy of the operation's generation, it is not the source unless the commit
retires that, and a counting source is not retired while the reported count is 0. -/
def movesSafely (p : ControlPlane) (op : OperationRecord) (retireSource : Bool) : Bool :=
  p.replicas[op.destinationReplica]?.any (·.key == op.key)
    && (op.sourceReplica != op.destinationReplica || (op.destructiveMove && retireSource))
    && (p.reportedCount op.key != 0
      || !(op.destructiveMove && retireSource && decide (op.sourceReplica ∈ p.countedCopies op.key)))

theorem movesSafely_iff {op : OperationRecord} {destination : ReplicaRecord}
    (copied : p.replicas[op.destinationReplica]? = some destination) (retireSource : Bool) :
    movesSafely p op retireSource = true ↔ destination.key = op.key
      ∧ (op.sourceReplica ≠ op.destinationReplica
        ∨ op.destructiveMove = true ∧ retireSource = true)
      ∧ (p.reportedCount op.key ≠ 0 ∨ ¬ (op.destructiveMove = true ∧ retireSource = true
        ∧ op.sourceReplica ∈ p.countedCopies op.key)) := by
  rw [movesSafely, copied, Option.any_some, Bool.and_eq_true, Bool.and_eq_true, and_assoc,
    beq_iff_eq, Bool.or_eq_true, bne_iff_ne, Bool.and_eq_true, Bool.or_eq_true, bne_iff_ne,
    Bool.not_eq_true', ← Bool.not_eq_true, Bool.and_eq_true, Bool.and_eq_true, decide_eq_true_eq,
    and_assoc]

theorem Coherent.reportedCount_eq (h : Coherent p) {set : ReplicaSetRecord}
    (stored : p.replicaSets[K]? = some set) :
    p.reportedCount K = UInt32.ofNat (p.countedCopies K).card := by
  have hkey : set.key = K := (h.replicaSets stored).1
  have hquery : queryReplicaSet p K = .ok (p.rebuildReplicaSet set) := by
    simp [queryReplicaSet, found, stored]
  rw [reportedCount, hquery]
  dsimp only
  rw [h.rebuild_authoritativeCount, hkey]

theorem retiringSource_asked {existing : OperationRecord} {committed source : ReplicaRecord}
    (h : source ∈ retiringSource p existing commit committed) :
    existing.destructiveMove = true ∧ commit.retireSource = true := by
  unfold retiringSource at h
  split at h
  · rename_i hasked
    simpa using hasked
  · cases h

namespace OperationCommitted

variable {inputs : MutationInputs} {commit : OperationCommit} {existing : OperationRecord}
  {destination : ReplicaRecord} {plan : CommitPlan} {operation : OperationRecord}
  {es : List Effect}

section

variable (c : OperationCommitted inputs commit existing destination plan operation es)
include c

variable (coherent : Coherent inputs.plane)
include coherent

theorem uncounted (K : StateKey) :
    existing.destinationReplica ∉ inputs.plane.countedCopies K := by
  intro hmem
  obtain ⟨replica, hreplica, -, hcounts⟩ := coherent.mem_countedCopies.mp hmem
  obtain rfl := some_unique c.copied hreplica
  obtain ⟨-, -, -, -, hphase | hphase⟩ := (counting_iff destination).mp hcounts
  · exact absurd (c.prepared.symm.trans hphase) (by decide)
  · exact absurd (c.prepared.symm.trans hphase) (by decide)

theorem replica_cases (k : ReplicaId) :
    (inputs.plane.applyAll es).replicas[k]? = inputs.plane.replicas[k]?
      ∨ k = existing.destinationReplica
      ∨ (∃ d, inputs.plane.replicas[k]? = some d
        ∧ inputs.plane.ActiveOwner destination.key k
        ∧ (inputs.plane.applyAll es).replicas[k]? = some (demotedReplica inputs d takeoverReason))
      ∨ (k = existing.sourceReplica ∧ existing.destructiveMove = true
        ∧ commit.retireSource = true) := by
  obtain ⟨owner, takeover, authority, demoted, ownership, -, planned⟩ := c.planned
  obtain ⟨bookkeeping, batch⟩ := c.batch coherent planned
  rcases inputs.plane.replicas_applyAll_cases es k with hsame | ⟨w, ⟨hmem, rfl⟩, hput⟩
  · exact .inl hsame
  · rcases batch.mem_putReplica.mp hmem with ⟨d, hd, rfl⟩ | rfl | ⟨s, hs, rfl⟩
    · obtain ⟨hrecorded, -, -, howns⟩ := planned.demoted_spec coherent hd
      exact .inr (.inr (.inl ⟨d, hrecorded, activeOwner_iff.mpr howns, hput⟩))
    · exact .inr (.inl (planned.committed_replicaId.trans (coherent.replicas c.copied).1))
    · obtain ⟨hdestructive, hretire⟩ := retiringSource_asked hs
      exact .inr (.inr (.inr ⟨(c.retires coherent hs).2.1, hdestructive, hretire⟩))

theorem destination_after :
    ∃ v, (inputs.plane.applyAll es).abs.replicas existing.destinationReplica = some v
      ∧ v.key = destination.key ∧ v.lifecycle = .authoritative ∧ v.Counting := by
  obtain ⟨owner, takeover, authority, demoted, ownership, -, planned⟩ := c.planned
  obtain ⟨bookkeeping, batch⟩ := c.batch coherent planned
  have hafter := batch.target_eq
  dsimp only at hafter
  rw [planned.committed_replicaId, (coherent.replicas c.copied).1] at hafter
  exact ⟨_, hafter, planned.committed_key, congrArg ReplicaView.lifecycle planned.committed_view,
    planned.counting⟩

/-- The counting copies after the commit: the destination has joined its generation. -/
theorem destination_mem :
    (inputs.plane.applyAll es).CountsFor K existing.destinationReplica ↔ destination.key = K := by
  obtain ⟨v, hafter, hkey, -, hcounting⟩ := c.destination_after coherent
  rw [countsFor_iff, member_iff_of_replica hafter, hkey]
  exact and_iff_left hcounting

/-- The counting copies after the commit: a retired source has left. -/
theorem countsFor_iff_of_ne {k : ReplicaId}
    (other : k ≠ existing.destinationReplica) :
    (inputs.plane.applyAll es).CountsFor K k
      ↔ (∀ s ∈ retiringSource inputs.plane existing commit plan.committed, s.replicaId ≠ k)
        ∧ inputs.plane.CountsFor K k := by
  obtain ⟨owner, takeover, authority, demoted, ownership, -, planned⟩ := c.planned
  obtain ⟨bookkeeping, batch⟩ := c.batch coherent planned
  rw [countsFor_iff, countsFor_iff]
  refine batch.member_iff (fun s hs => c.retired_eq hs) ?_
  rw [planned.committed_replicaId, (coherent.replicas c.copied).1]
  exact other

/-- The commit retires a counting copy of a generation exactly when it is asked to retire the
source and the source counts there. -/
theorem retires_counting_iff {k : ReplicaId}
    (counts : k ∈ inputs.plane.countedCopies K) :
    (∃ s ∈ retiringSource inputs.plane existing commit plan.committed, s.replicaId = k)
      ↔ k = existing.sourceReplica ∧ existing.destructiveMove = true
        ∧ commit.retireSource = true := by
  constructor
  · rintro ⟨s, hs, rfl⟩
    exact ⟨(c.retires coherent hs).2.1, retiringSource_asked hs⟩
  · rintro ⟨rfl, hdestructive, hretire⟩
    obtain ⟨replica, hreplica, -, hcounts⟩ := coherent.mem_countedCopies.mp counts
    have hid := (coherent.replicas hreplica).1
    obtain ⟨owner, takeover, authority, demoted, ownership, -, planned⟩ := c.planned
    refine ⟨replica, ?_, hid⟩
    have hother : replica.replicaId ≠ plan.committed.replicaId := by
      rw [planned.committed_replicaId, (coherent.replicas c.copied).1, hid]
      exact fun hsame => c.uncounted coherent K (hsame ▸ counts)
    simp [retiringSource, hdestructive, hretire, hreplica, live_of_counts hcounts, hother]

/-- The number of counting copies of the destination's generation after the commit. -/
theorem card_countedCopies :
    ((inputs.plane.applyAll es).countedCopies destination.key).card
      = if existing.destructiveMove = true ∧ commit.retireSource = true
          ∧ existing.sourceReplica ∈ inputs.plane.countedCopies destination.key
        then (inputs.plane.countedCopies destination.key).card
        else (inputs.plane.countedCopies destination.key).card + 1 := by
  have coherent' := coherent.applyAll (c.admissible coherent).2
  set before := inputs.plane.countedCopies destination.key with hbefore
  have hnew := c.uncounted coherent destination.key
  have hmem : ∀ k, k ∈ (inputs.plane.applyAll es).countedCopies destination.key
      ↔ k = existing.destinationReplica ∨ (k ∈ before ∧ ¬ (k = existing.sourceReplica
        ∧ existing.destructiveMove = true ∧ commit.retireSource = true)) := by
    intro k
    rw [coherent'.mem_countedCopies]
    by_cases hdestination : k = existing.destinationReplica
    · simp [hdestination, c.destination_mem coherent]
    · rw [c.countsFor_iff_of_ne coherent hdestination, ← coherent.mem_countedCopies]
      constructor
      · rintro ⟨hspared, hcounts⟩
        refine .inr ⟨hcounts, fun hasked => ?_⟩
        obtain ⟨s, hs, hid⟩ := (c.retires_counting_iff coherent hcounts).mpr hasked
        exact hspared s hs hid
      · rintro (hsame | ⟨hcounts, hasked⟩)
        · exact absurd hsame hdestination
        · refine ⟨fun s hs hid => hasked ?_, hcounts⟩
          exact (c.retires_counting_iff coherent hcounts).mp ⟨s, hs, hid⟩
  split
  · rename_i hlost
    obtain ⟨hdestructive, hretire, hcounted⟩ := hlost
    have hafter : (inputs.plane.applyAll es).countedCopies destination.key
        = insert existing.destinationReplica (before.erase existing.sourceReplica) := by
      ext k
      simp only [hmem, hdestructive, hretire, Finset.mem_insert, Finset.mem_erase, and_true]
      tauto
    have hfresh : existing.destinationReplica ∉ before.erase existing.sourceReplica :=
      fun h => hnew (Finset.mem_of_mem_erase h)
    rw [hafter, Finset.card_insert_of_notMem hfresh, Finset.card_erase_add_one hcounted]
  · rename_i hkept
    have hafter : (inputs.plane.applyAll es).countedCopies destination.key
        = insert existing.destinationReplica before := by
      ext k
      simp only [hmem, Finset.mem_insert]
      constructor
      · rintro (hsame | ⟨hcounts, -⟩)
        · exact .inl hsame
        · exact .inr hcounts
      · rintro (hsame | hcounts)
        · exact .inl hsame
        · refine .inr ⟨hcounts, ?_⟩
          rintro ⟨rfl, hdestructive, hretire⟩
          exact hkept ⟨hdestructive, hretire, hcounts⟩
    rw [hafter, Finset.card_insert_of_notMem hnew]

end

end OperationCommitted

/-- The number of copies that count rises with the commit, in 32 bits too, unless it is a multiple of
`2 ^ 32` and the commit retires one of them. -/
theorem OperationCommitted.count_le_iff {inputs : MutationInputs} {existing : OperationRecord}
    {destination : ReplicaRecord} {plan : CommitPlan} {operation : OperationRecord}
    {es : List Effect} (c : OperationCommitted inputs commit existing destination plan operation es)
    (coherent : Coherent inputs.plane) (copied : destination.key = existing.key) :
    max 1 (inputs.plane.reportedCount existing.key).toNat
        ≤ (UInt32.ofNat ((inputs.plane.applyAll es).countedCopies existing.key).card).toNat
      ↔ inputs.plane.reportedCount existing.key ≠ 0 ∨ ¬ (existing.destructiveMove = true
        ∧ commit.retireSource = true
        ∧ existing.sourceReplica ∈ inputs.plane.countedCopies existing.key) := by
  obtain ⟨set, hset, hroom⟩ := c.room
  have hkey : set.key = existing.key := (coherent.replicaSets hset).1
  have hcard := c.card_countedCopies coherent
  rw [copied] at hcard
  -- The room check bounds the count before the commit, so one more copy does not wrap it.
  rw [coherent.rebuild_authoritativeCount, hkey, UInt32.lt_iff_toNat_lt, UInt32.toNat_ofNat'] at hroom
  have hmaximum := (maximumReplicasPerState (resolveReplicationPolicy inputs.plane inputs.config
    existing.replicationPolicyId)).toNat_lt
  rw [coherent.reportedCount_eq hset, hcard, ← UInt32.toNat_inj.ne]
  simp only [UInt32.toNat_ofNat', UInt32.toNat_zero]
  split
  · rename_i hlost
    simp only [hlost, and_self, not_true_eq_false, or_false]
    omega
  · rename_i hkept
    simp only [hkept, not_false_eq_true, or_true, iff_true]
    omega

/-- Safe migration: what a commit that completes an operation does to the copies of the operation's
generation is safe exactly when the destination is one of them, is not the source unless the source
is retired, and no copy is retired out of a count that has wrapped to 0. -/
theorem safe_migration_iff {r : Runtime} (reachable : ReachableRuntime r) {commit : OperationCommit}
    (completes : MovesToComplete r commit) {op : OperationRecord}
    (recorded : r.plane.operations[commit.operationId]? = some op) :
    SafeMigration r.plane (r.after (.commitOperation commit)).plane op commit.retireSource
      ↔ movesSafely r.plane op commit.retireSource = true := by
  obtain ⟨out, inner, hexec, hinner, heffects, existing, destination, plan, operation, c⟩ :=
    completes.executed
  obtain rfl : existing = op := some_unique c.recorded recorded
  have coherent := reachable.wellKept.coherent
  have hkept' := (reachable.wellKept.step (.mutation r (.commitOperation commit))).1
  have hrecords : (r.after (.commitOperation commit)).plane.records
      = (r.inputs.plane.applyAll inner.effects).records := heffects ▸ hexec.records_eq
  have hreplicas := replicas_eq_of_records hrecords
  have hsets := replicaSets_eq_of_records hrecords
  have hcounts : (r.after (.commitOperation commit)).plane.CountsFor existing.key
      existing.destinationReplica ↔ destination.key = existing.key := by
    rw [ControlPlane.CountsFor, hreplicas]
    exact c.destination_mem coherent
  have hcount : (r.after (.commitOperation commit)).plane.reportedCount existing.key
      = UInt32.ofNat ((r.inputs.plane.applyAll inner.effects).countedCopies existing.key).card := by
    obtain ⟨set, hset, -⟩ := c.room
    obtain ⟨set', hset'⟩ := Option.isSome_iff_exists.mp (isSome_getElem?_insertAll
      (inner.effects.filterMap Effect.replicaSet?) (Option.isSome_of_eq_some hset))
    rw [← applyAll_replicaSets, ← hsets] at hset'
    rw [hkept'.coherent.reportedCount_eq hset']
    simp only [countedCopies, replicasOfState, replicaList, hreplicas]
  have hcopied : r.plane.replicas[existing.destinationReplica]? = some destination := c.copied
  rw [movesSafely_iff hcopied]
  constructor
  · intro h
    have hkey := hcounts.mp h.counts
    refine ⟨hkey, ?_, ?_⟩
    · by_cases hsame : existing.sourceReplica = existing.destinationReplica
      · -- The destination was PREPARED and is AUTHORITATIVE.
        obtain ⟨v, hafter, -, hlifecycle, -⟩ := c.destination_after coherent
        obtain ⟨replica, hreplica, rfl⟩ := abs_replicas_eq_some.mp hafter
        refine .inr (h.source ?_)
        have hphase : replica.lifecycle = .authoritative := hlifecycle
        rw [hsame, hreplicas, hreplica, hcopied, Option.map_some, Option.map_some, hphase,
          c.prepared]
        decide
      · exact .inl hsame
    · have hcopies := h.copies
      rw [hcount] at hcopies
      exact (c.count_le_iff coherent hkey).mp hcopies
  · rintro ⟨hkey, hsource, hwrapped⟩
    refine ⟨hcounts.mpr hkey, ?_, ?_, ?_⟩
    · rw [hcount]
      exact (c.count_le_iff coherent hkey).mpr hwrapped
    · intro hchanged
      rw [hreplicas] at hchanged
      rcases c.replica_cases coherent existing.sourceReplica with
        hsame | hdestination | ⟨d, hd, -, hdemoted⟩ | ⟨-, hasked⟩
      · exact absurd (congrArg (Option.map (·.lifecycle)) hsame) hchanged
      · exact hsource.resolve_left fun hne => hne hdestination
      · have hbefore : r.plane.replicas[existing.sourceReplica]? = some d := hd
        rw [hdemoted, hbefore] at hchanged
        exact absurd rfl hchanged
      · exact hasked
    · intro k hchanged
      rw [hreplicas] at hchanged
      rcases c.replica_cases coherent k with
        hsame | hdestination | ⟨d, hd, howns, -⟩ | ⟨hsource, -⟩
      · exact absurd hsame hchanged
      · exact .inl hdestination
      · rw [hkey] at howns
        obtain ⟨ownership, hownership, howner, -⟩ := howns
        exact .inr (.inr ⟨ownership, hownership, howner⟩)
      · exact .inr (.inl hsource)

/-- A migration that is to retire its source, received and verified. -/
def Scenario.migrated : List Mutation :=
  sourced ++ [.authorizeMigration
    { stateId := ⟨1⟩, stateGeneration := ⟨1⟩, destinationCluster := ⟨2⟩
      retireSourceAfterCommit := true }, completion 28, verification 28]

theorem safe_migration_of_migrated :
    ∃ op, (reach migrated).plane.operations[(⟨24⟩ : OperationId)]? = some op
      ∧ op.destructiveMove = true
      ∧ SafeMigration (reach migrated).plane ((reach migrated).after (.commitOperation
        { operationId := ⟨24⟩, commitId := ⟨8⟩, retireSource := true })).plane op true := by
  have hop : (reach migrated).plane.operations[(⟨24⟩ : OperationId)]?.any
      (fun op => op.destructiveMove && movesSafely (reach migrated).plane op true) = true := by
    decide +kernel
  obtain ⟨op, hop, hsafe⟩ := (Option.any_eq_true _ _).mp hop
  rw [Bool.and_eq_true] at hsafe
  have hcompletes : MovesToComplete (reach migrated)
      { operationId := ⟨24⟩, commitId := ⟨8⟩, retireSource := true } := by
    constructor <;> decide +kernel
  exact ⟨op, hop, hsafe.1, (safe_migration_iff (reachable migrated) hcompletes hop).mpr hsafe.2⟩

/-- The identity counter is set back so that the copy an authorization reserves takes the identity
of its source; the copy is received and verified. -/
def Scenario.coinciding : List Mutation :=
  sourced ++ [
    .publishCompatibility { compatibilityId := ⟨1⟩, generation := ⟨18446744073709551615⟩ },
    .publishCompatibility { compatibilityId := ⟨2⟩, generation := ⟨15⟩ },
    replicationUnder 0, completion 20, verification 20]

/-- The commit of a replication, which is no destructive move, changes the phase of its source. -/
theorem source_changed_of_coinciding :
    ReachableRuntime (reach coinciding)
      ∧ MovesToComplete (reach coinciding) { operationId := ⟨16⟩, commitId := ⟨8⟩ }
      ∧ ∃ op, (reach coinciding).plane.operations[(⟨16⟩ : OperationId)]? = some op
        ∧ op.destructiveMove = false
        ∧ ((reach coinciding).after (operationCommit 16 8)).plane.replicas[op.sourceReplica]?.map
            (·.lifecycle)
          ≠ (reach coinciding).plane.replicas[op.sourceReplica]?.map (·.lifecycle) := by
  have hop : (reach coinciding).plane.operations[(⟨16⟩ : OperationId)]?.any
      (fun op => op.sourceReplica == ⟨20⟩ && !op.destructiveMove) = true := by decide +kernel
  obtain ⟨op, hop, hsource⟩ := (Option.any_eq_true _ _).mp hop
  simp only [Bool.and_eq_true, beq_iff_eq, Bool.not_eq_true'] at hsource
  refine ⟨reachable _, ⟨by decide +kernel, by decide +kernel⟩, op, hop, hsource.2, ?_⟩
  rw [hsource.1]
  decide +kernel

end StateFabric
