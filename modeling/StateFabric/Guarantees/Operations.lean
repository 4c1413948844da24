import StateFabric.Guarantees.Recovery
import StateFabric.Protocol.Settlement
import StateFabric.Refinement.Request

/-!
# Operations, the copies they leave, and the reports about them

The destination of a failed operation does not count, and the destination of a live operation can
still become authoritative, in every run whose requests keep an operation and its destination
together.  The fabric itself does not ask for it: a destination can be committed with
`commit_replica` behind the operation, a completion that finds a mismatch leaves the operation in
flight, and a retirement does not look for operations at all.

A report names the replica and the operation independently.  Which operation records it changes is
characterised on the plane before: a report about a replica is confined to the operation of that
replica unless it is heard and names another one that it finds to move on.
-/

namespace StateFabric

open Protocol Transition ControlPlane Scenario

variable {r : Runtime} {k : ReplicaId} {m : Mutation} {o : OperationId} {p : ControlPlane}
  {out : Outcome Response} {ρ : Type} {v : ReplicaView} {op : OperationView}

/-! ## Reports -/

/-- The operation put of an executed report. -/
def Runtime.advancement (r : Runtime) (m : Mutation) : List Effect :=
  match m with
  | .recordTransferProgress progress => progress.advancement r.inputs
  | .recordTransferCompletion completion => completion.advancement r.inputs (r.answer m)
  | .verifyReplica report => report.advancement r.inputs (r.answer m)
  | _ => []

/-- The request is answered with INTEGRITY_MISMATCH. -/
def Runtime.mismatches (r : Runtime) (m : Mutation) : Bool :=
  match r.answer m with
  | .error e => e.code == .integrityMismatch
  | .ok _ => false

/-- The requests an agent makes: evidence about a cluster, and the reports about a replica. -/
def Mutation.fromAgent : Mutation → Bool
  | .publishClusterEvidence _ | .recordTransferProgress _ | .recordTransferCompletion _
  | .verifyReplica _ => true
  | _ => false

/-- What an agent asks for passes the guards of its handler. -/
def Mutation.heard (m : Mutation) (p : ControlPlane) : Bool :=
  match m with
  | .publishClusterEvidence update => update.heard p
  | .recordTransferProgress progress => progress.heard p
  | .recordTransferCompletion completion => completion.heard p
  | .verifyReplica report => report.heard p
  | _ => true

/-- A report finds the operation it names to move on.  A failed transfer does not compare the
generation of the operation, and a completion whose digest does not agree moves nothing on. -/
def Mutation.movesOn (m : Mutation) (p : ControlPlane) : Bool :=
  match m with
  | .recordTransferProgress progress =>
    p.advances progress.operationId (if progress.failed then {} else progress.operationGeneration)
  | .recordTransferCompletion completion =>
    completion.agrees p && p.advances completion.operationId completion.operationGeneration
  | .verifyReplica report => p.advances report.operationId report.operationGeneration
  | _ => false

/-- The runtime refuses the request of an agent: it is shutting down, or a guard does not hold. -/
def Runtime.ignores (r : Runtime) (m : Mutation) : Bool := r.shuttingDown || !m.heard r.plane

theorem Mutation.fromAgent_of_report (report : m.report = some (k, o)) : m.fromAgent = true := by
  cases m with
  | recordTransferProgress | recordTransferCompletion | verifyReplica => rfl
  | _ => cases report

/-- The body of an agent's request goes through exactly when the request is heard. -/
theorem Mutation.isOk_body (agent : m.fromAgent = true) (inputs : MutationInputs) :
    (mutationBody m inputs).isOk = m.heard inputs.plane := by
  cases m with
  | publishClusterEvidence => exact (isOk_map _ _).trans (isOk_publishClusterEvidence _ _)
  | recordTransferProgress => exact (isOk_map _ _).trans (isOk_recordTransferProgress _ _)
  | recordTransferCompletion => exact (isOk_map _ _).trans (isOk_recordTransferCompletion _ _)
  | verifyReplica => exact (isOk_map _ _).trans (isOk_verifyReplica _ _)
  | _ => cases agent

/-- A request of an agent is executed, or ignored and without any effect. -/
theorem Runtime.agent_cases (r : Runtime) (agent : m.fromAgent = true) :
    (∃ out, Executes r m out ∧ r.ignores m = false) ∨ (r.after m = r ∧ r.ignores m = true) := by
  have hheard : (mutationBody m r.inputs).isOk = m.heard r.plane := Mutation.isOk_body agent _
  cases hrunning : r.shuttingDown with
  | true =>
    exact .inr ⟨by simp [Runtime.after, Runtime.mutate, hrunning], by simp [ignores, hrunning]⟩
  | false =>
    cases hbody : mutationBody m r.inputs with
    | error =>
      refine .inr ⟨by simp [Runtime.after, Runtime.mutate, hrunning, hbody], ?_⟩
      rw [ignores, hrunning, ← hheard, hbody]
      rfl
    | ok out =>
      refine .inl ⟨out, ⟨hrunning, hbody⟩, ?_⟩
      rw [ignores, hrunning, ← hheard, hbody]
      rfl

theorem TransferCompletion.advancement_map {τ : Type} (completion : TransferCompletion)
    (inputs : MutationInputs) (status : Result ρ) (f : ρ → τ) :
    completion.advancement inputs (status.map f) = completion.advancement inputs status := by
  cases status <;> rfl

theorem ReplicaVerification.advancement_map {τ : Type} (report : ReplicaVerification)
    (inputs : MutationInputs) (status : Result ρ) (f : ρ → τ) :
    report.advancement inputs (status.map f) = report.advancement inputs status := by
  cases status <;> rfl

theorem Mismatched.mismatches {status : Result ρ} {f : ρ → Response} (h : Mismatched status)
    (answer : r.answer m = status.map f) : r.mismatches m = true := by
  obtain ⟨e, rfl, hcode⟩ := h
  simp [Runtime.mismatches, answer, Except.map, hcode]

theorem Executes.written (h : Executes r m out) (coherent : Coherent r.plane)
    (report : m.report = some (k, o)) :
    ∃ replica revised, Reported r.plane k replica
      ∧ Written r.inputs replica revised (r.advancement m) out.effects
      ∧ (revised.lifecycle = .corrupt → r.mismatches m = true) := by
  have hanswer := h.answer_eq
  cases m with
  | recordTransferProgress =>
    obtain ⟨rfl, rfl⟩ := Prod.mk.inj (Option.some.inj report)
    obtain ⟨inner, hinner, heffects, -⟩ := map_outcome_eq_ok h.body
    obtain ⟨replica, revised, hreplica, hwritten, hnot⟩ :=
      recordTransferProgress_written coherent hinner
    exact ⟨replica, revised, hreplica, heffects ▸ hwritten, fun hl => absurd hl hnot⟩
  | recordTransferCompletion =>
    obtain ⟨rfl, rfl⟩ := Prod.mk.inj (Option.some.inj report)
    obtain ⟨inner, hinner, heffects, -⟩ := map_outcome_eq_ok h.body
    have hstatus := hanswer.trans (map_outcome_status h.body hinner)
    obtain ⟨replica, revised, hreplica, hwritten, hcorrupt⟩ :=
      recordTransferCompletion_written coherent hinner
    refine ⟨replica, revised, hreplica, ?_, fun hl => (hcorrupt hl).mismatches hstatus⟩
    rw [heffects, Runtime.advancement, hstatus, TransferCompletion.advancement_map]
    exact hwritten
  | verifyReplica report =>
    obtain ⟨rfl, rfl⟩ := Prod.mk.inj (Option.some.inj report)
    obtain ⟨inner, hinner, heffects, -⟩ := map_outcome_eq_ok h.body
    have hstatus := hanswer.trans (map_outcome_status h.body hinner)
    obtain ⟨replica, hreplica, revised, hwritten, hcorrupt⟩ := verifyReplica_written coherent hinner
    refine ⟨replica, revised, hreplica, ?_, fun hl => (hcorrupt hl).mismatches hstatus⟩
    rw [heffects, Runtime.advancement, hstatus, ReplicaVerification.advancement_map]
    exact hwritten
  | _ => cases report

theorem Executes.completion_agrees {completion : TransferCompletion}
    (h : Executes r (.recordTransferCompletion completion) out) (coherent : Coherent r.plane) :
    (r.answer (.recordTransferCompletion completion)).isOk = completion.agrees r.plane := by
  obtain ⟨inner, hinner, -, -⟩ := map_outcome_eq_ok h.body
  have hstatus := map_outcome_status h.body hinner
  have hinputs : Coherent r.inputs.plane := coherent
  have hagrees := recordTransferCompletion_status hinputs hinner
  rw [h.answer_eq, hstatus, isOk_map, hagrees]
  rfl

/-- An executed report moves the operation it names on, or none, as the plane says. -/
theorem Runtime.advancement_moves (coherent : Coherent r.plane) (report : m.report = some (k, o)) :
    ∃ moves, Moves r.inputs o moves (r.advancement m)
      ∧ ∀ out, Executes r m out → moves = m.movesOn r.plane := by
  have hinputs : Coherent r.inputs.plane := coherent
  cases m with
  | recordTransferProgress progress =>
    obtain ⟨rfl, rfl⟩ := Prod.mk.inj (Option.some.inj report)
    simp only [Runtime.advancement, TransferProgress.advancement, Mutation.movesOn]
    split
    · exact ⟨_, failOperation_moves hinputs _ _, fun _ _ => rfl⟩
    · exact ⟨_, advanceOperation_moves hinputs _ _ _ _, fun _ _ => rfl⟩
  | recordTransferCompletion completion =>
    obtain ⟨rfl, rfl⟩ := Prod.mk.inj (Option.some.inj report)
    simp only [Runtime.advancement, Mutation.movesOn]
    cases hanswer : r.answer (.recordTransferCompletion completion) with
    | ok =>
      refine ⟨_, advanceOperation_moves hinputs _ _ _ _, fun out hexec => ?_⟩
      rw [← hexec.completion_agrees coherent, hanswer]
      exact (Bool.true_and _).symm
    | error =>
      refine ⟨false, ⟨none, rfl, rfl, by simp⟩, fun out hexec => ?_⟩
      rw [← hexec.completion_agrees coherent, hanswer]
      rfl
  | verifyReplica verification =>
    obtain ⟨rfl, rfl⟩ := Prod.mk.inj (Option.some.inj report)
    simp only [Runtime.advancement]
    cases r.answer (.verifyReplica verification) with
    | ok | error => exact ⟨_, advanceOperation_moves hinputs _ _ _ _, fun _ _ => rfl⟩
  | _ => cases report

theorem Runtime.advancement_spec (coherent : Coherent r.plane) (report : m.report = some (k, o)) :
    ∃ moved : Option OperationRecord, r.advancement m = moved.toList.map .putOperation
      ∧ ∀ op ∈ moved, op.operationId = o := by
  obtain ⟨moves, ⟨moved, hadvancement, -, hmoved⟩, -⟩ := Runtime.advancement_moves coherent report
  exact ⟨moved, hadvancement, fun op hop => (hmoved op hop).1⟩

theorem Executes.getElem?_operations (h : Executes r m out) (coherent : Coherent r.plane)
    (report : m.report = some (k, o)) :
    ∃ moved : Option OperationRecord, r.advancement m = moved.toList.map .putOperation
      ∧ moved.isSome = m.movesOn r.plane ∧ (∀ op ∈ moved, op.updatedAt = r.plane.logicalTime + 1)
      ∧ ∀ o', (r.after m).plane.operations[o']?
        = if o' = o then moved.or r.plane.operations[o]? else r.plane.operations[o']? := by
  obtain ⟨replica, revised, hreplica, hwritten, -⟩ := h.written coherent report
  obtain ⟨moves, ⟨moved, hadvancement, hmoves, hmoved⟩, hexact⟩ :=
    Runtime.advancement_moves coherent report
  have hid : ∀ op ∈ moved, op.operationId = o := fun op hop => (hmoved op hop).1
  refine ⟨moved, hadvancement, hmoves.trans (hexact out h), fun op hop => (hmoved op hop).2,
    fun o' => ?_⟩
  have hputs : ∀ op, .putOperation op ∈ out.effects ∧ op.operationId = o' ↔ op ∈ moved ∧ o' = o := by
    intro op
    rw [hwritten.mem_putOperation, hadvancement]
    simp only [List.mem_map, Effect.putOperation.injEq, exists_eq_right, Option.mem_toList]
    exact and_congr_right fun hmem => by rw [hid op hmem]; exact eq_comm
  rw [h.operations_eq]
  rcases r.plane.operations_applyAll_cases out.effects o' with hsame | ⟨op, hput, hafter⟩
  · by_cases hnamed : o' = o
    · subst hnamed
      cases moved with
      | none => simp [hsame]
      | some op =>
        obtain ⟨w, hw, rfl⟩ := OrderedMap.exists_getElem?_insertAll (m := r.plane.operations)
          (P := (· = op)) (mem_operationPuts.mpr ((hputs op).mpr ⟨rfl, rfl⟩))
          fun w hw => (Option.some.inj ((hputs w).mp (mem_operationPuts.mp hw)).1).symm
        simpa [applyAll_operations] using hw
    · rw [if_neg hnamed, hsame]
  · obtain ⟨hop, rfl⟩ := (hputs op).mp hput
    rw [if_pos rfl, hafter, Option.mem_def.mp hop, Option.some_or]

/-! ## Isolation -/

/-- The operation recorded in a replica. -/
def ControlPlane.operationOf (p : ControlPlane) (k : ReplicaId) : Option OperationId :=
  p.replicas[k]?.map (·.operationId)

/-- The request changes no operation record but the one recorded in the replica. -/
def Confined (r : Runtime) (m : Mutation) (k : ReplicaId) : Prop :=
  ∀ o, r.plane.operationOf k ≠ some o →
    (r.after m).plane.operations[o]? = r.plane.operations[o]?

/-- No record carries the tick of the next request: the clock is ahead of what was written. -/
structure ControlPlane.Unstamped (p : ControlPlane) : Prop where
  clusters : ∀ (c : ClusterId) (cluster : ClusterRecord), p.clusters[c]? = some cluster →
    cluster.updatedAt ≠ p.logicalTime + 1
  replicas : ∀ (k : ReplicaId) (replica : ReplicaRecord), p.replicas[k]? = some replica →
    replica.updatedAt ≠ p.logicalTime + 1
  operations : ∀ (o : OperationId) (operation : OperationRecord),
    p.operations[o]? = some operation → operation.updatedAt ≠ p.logicalTime + 1

/-- A report about a replica changes no operation record but the one recorded in the replica if it
is not heard, names that operation, or finds no operation to move on; unless the clock has been set
back behind the records, only then. -/
theorem report_isolation {r : Runtime} (reachable : ReachableRuntime r) {m : Mutation}
    {k : ReplicaId} {o : OperationId} (report : m.report = some (k, o)) :
    (r.shuttingDown = true ∨ m.heard r.plane = false ∨ r.plane.operationOf k = some o
        ∨ m.movesOn r.plane = false → Confined r m k)
      ∧ (r.plane.Unstamped → Confined r m k → r.shuttingDown = true ∨ m.heard r.plane = false
        ∨ r.plane.operationOf k = some o ∨ m.movesOn r.plane = false) := by
  have hcoherent := reachable.accounted.1.coherent
  have hignores : r.ignores m = true ↔ r.shuttingDown = true ∨ m.heard r.plane = false := by
    simp [Runtime.ignores]
  rcases r.agent_cases (Mutation.fromAgent_of_report report) with ⟨out, hexec, hheard⟩
    | ⟨hsame, hignored⟩
  · obtain ⟨moved, -, hmoves, hstamp, hafter⟩ := hexec.getElem?_operations hcoherent report
    have hnot : ¬ (r.shuttingDown = true ∨ m.heard r.plane = false) := by simp [← hignores, hheard]
    rw [← or_assoc, or_iff_right hnot, ← hmoves]
    refine ⟨fun hcase o' hother => ?_, fun hclock hconfined => ?_⟩
    · rw [hafter]
      split
      · rename_i hnamed
        subst hnamed
        have hnone : moved = none := by simpa using hcase.resolve_left hother
        rw [hnone, Option.none_or]
      · rfl
    · by_contra hcase
      rw [not_or, Bool.not_eq_false, Option.isSome_iff_exists] at hcase
      obtain ⟨hother, op, rfl⟩ := hcase
      have hstored := hconfined o hother
      rw [hafter, if_pos rfl, Option.some_or] at hstored
      exact hclock.operations o op hstored.symm (hstamp op rfl)
  · have hunheard := hignores.mp hignored
    refine ⟨fun _ o' _ => by rw [hsame], fun _ _ => ?_⟩
    exact hunheard.elim .inl fun hguard => .inr (.inl hguard)

/-- A replica that belongs to no operation is staged next to the destination of one. -/
def Scenario.bystander : List Mutation := replicating ++ [replica 40 1 1 1]

theorem report_isolation_of_bystander :
    (reach bystander).plane.operationOf ⟨28⟩ = some ⟨24⟩
      ∧ Confined (reach bystander)
        (.recordTransferCompletion (completionReport 28 ⟨24⟩ content)) ⟨28⟩ := by
  have hown : (reach bystander).plane.operationOf ⟨28⟩ = some ⟨24⟩ := by decide +kernel
  exact ⟨hown, (report_isolation (reachable bystander) rfl).1 (.inr (.inr (.inl hown)))⟩

/-- A completion about the bystander that names the operation marks it TRANSFERRED, although the
bystander belongs to no operation. -/
theorem foreign_report_of_bystander :
    ReachableRuntime (reach bystander)
      ∧ (reach bystander).plane.operationOf ⟨40⟩ = some {}
      ∧ (reach bystander).plane.operations[(⟨24⟩ : OperationId)]?.map (·.state) = some .reserved
      ∧ ((reach bystander).after (.recordTransferCompletion
        (completionReport 40 ⟨24⟩ content))).plane.operations[(⟨24⟩ : OperationId)]?.map (·.state)
          = some .transferred :=
  ⟨reachable _, by decide +kernel, by decide +kernel, by decide +kernel⟩

/-! ## Failed operations -/

/-- The replica is registered and counts toward the replication factor. -/
def ControlPlane.counting (p : ControlPlane) (k : ReplicaId) : Bool :=
  p.replicas[k]?.any replicaCountsTowardReplicationFactor

/-- The operation failed, was cancelled or was abandoned. -/
def OperationRecord.hasFailed (o : OperationRecord) : Bool :=
  o.state == .failed || o.state == .cancelled || o.state == .abandoned

/-- Ending the operation leaves no counting destination. -/
def ControlPlane.endsCleanly (p : ControlPlane) (o : OperationId) : Bool :=
  p.operations[o]?.all fun operation =>
    operation.isTerminal || !p.counting operation.destinationReplica

/-- No failed operation has the replica as its destination. -/
def ControlPlane.unfailedInto (p : ControlPlane) (k : ReplicaId) : Bool :=
  p.operationList.all fun operation => operation.destinationReplica != k || !operation.hasFailed

/-- The request fails no operation whose destination counts, and establishes no destination of a
failed one. -/
def sparesFailed (r : Runtime) (m : Mutation) : Bool :=
  match m with
  | .recordTransferProgress progress =>
    !progress.failed || r.plane.endsCleanly progress.operationId
  | .verifyReplica report => (r.answer m).isOk || r.plane.endsCleanly report.operationId
  | .cancelOperation cancellation => r.plane.endsCleanly cancellation.operationId
  | .commitReplica commit => r.plane.unfailedInto commit.replicaId
  | .revalidateReplica transition => r.plane.unfailedInto transition.replicaId
  | .transferOwnership request => r.plane.unfailedInto request.newOwnerReplica
  | _ => true

/-- No operation that a restart abandons has a counting destination. -/
def restartSparesFailed (r : Runtime) : Bool :=
  r.plane.operationList.all fun operation =>
    !(classifyRecovery operation.state).destinationAbandoned
      || !r.plane.counting operation.destinationReplica

/-- The event leaves no counting destination behind a failed operation. -/
def SparesFailedOperations (r : Runtime) (e : Event) : Prop :=
  OnEffect sparesFailed r e ∧ OnRestart restartSparesFailed r e

instance SparesFailedOperations.decidable (r : Runtime) (e : Event) :
    Decidable (SparesFailedOperations r e) :=
  inferInstanceAs (Decidable (OnEffect sparesFailed r e ∧ OnRestart restartSparesFailed r e))

theorem OperationRecord.hasFailed_iff (o : OperationRecord) :
    o.hasFailed = true ↔ o.view.Failed := by
  simp [OperationRecord.hasFailed, OperationView.Failed, OperationRecord.view, or_assoc]

theorem not_counting (h : p.counting k = false) (hv : p.abs.replicas k = some v) :
    ¬ v.Counting := by
  obtain ⟨replica, hreplica, rfl⟩ := abs_replicas_eq_some.mp hv
  rw [← counting_iff, Bool.not_eq_true]
  simpa [ControlPlane.counting, hreplica] using h

theorem not_counting_of_endsCleanly (h : p.endsCleanly o = true)
    (hop : p.abs.operations o = some op) (live : ¬ op.Terminal)
    (hv : p.abs.replicas op.destination = some v) : ¬ v.Counting := by
  obtain ⟨operation, hoperation, rfl⟩ := abs_operations_eq_some.mp hop
  refine not_counting ?_ hv
  have hlive : operation.isTerminal = false := by rwa [← Bool.not_eq_true, operation.isTerminal_iff]
  have hends : operation.isTerminal = true ∨ p.counting operation.destinationReplica = false := by
    simpa [ControlPlane.endsCleanly, hoperation] using h
  exact hends.resolve_left (by simp [hlive])

theorem ne_destination_of_unfailedInto (coherent : Coherent p) (h : p.unfailedInto k = true)
    (hop : p.abs.operations o = some op) (failed : op.Failed) : op.destination ≠ k := by
  obtain ⟨operation, hoperation, rfl⟩ := abs_operations_eq_some.mp hop
  have hmem : operation ∈ p.operationList := by
    rw [coherent.mem_operationList, (coherent.operations hoperation).1]
    exact hoperation
  have hspared := List.all_eq_true.mp h operation hmem
  rw [(operation.hasFailed_iff).mpr failed] at hspared
  have hne : operation.destinationReplica ≠ k := by simpa using hspared
  exact hne

theorem sparesFailed_of_request (coherent : Coherent r.plane) (spares : sparesFailed r m = true) :
    SparesFailed (m.act r) r.plane.abs where
  failed o op v state hact hfailed hop hlive hv := by
    have hends : r.plane.endsCleanly o = true → ¬ v.Counting := fun h =>
      not_counting_of_endsCleanly h hop hlive hv
    cases m with
    | recordTransferProgress progress =>
      obtain ⟨rfl, hstate⟩ : progress.operationId = o
          ∧ (if progress.failed then .failed else .transferring) = state := by
        simpa [Mutation.act, Action.MovesOn] using hact
      cases hprogress : progress.failed with
      | true => exact hends (by simpa [sparesFailed, hprogress] using spares)
      | false =>
        rw [hprogress] at hstate
        simp [OperationView.Failed, ← hstate] at hfailed
    | recordTransferCompletion =>
      have hstate : state = .transferred := by
        simp only [Mutation.act, Action.MovesOn] at hact
        rcases hact with ⟨k, hk⟩ | ⟨k, hk, -⟩ | ⟨k, hk, -⟩ | ⟨hk, -⟩
        · exact (Action.report.inj hk).2.2.symm
        all_goals cases hk
      simp [OperationView.Failed, hstate] at hfailed
    | verifyReplica =>
      simp only [Mutation.act, Action.MovesOn] at hact
      rcases hact with ⟨k, hk⟩ | ⟨k, -, rfl⟩ | ⟨k, hk, -⟩ | ⟨hk, -⟩
      · cases hk
      · simp [OperationView.Failed] at hfailed
      · obtain ⟨-, rfl, hok⟩ := Action.verify.inj hk
        exact hends (by simpa [sparesFailed, hok] using spares)
      · cases hk
    | cancelOperation cancellation =>
      obtain ⟨rfl, -⟩ : cancellation.operationId = o ∧ state = .cancelled := by
        simpa [Mutation.act, Action.MovesOn] using hact
      exact hends spares
    | _ => simp [Mutation.act, Action.MovesOn] at hact
  restarted hact := absurd hact (m.act_ne_reopen r)
  established k o op hact hop hfailed := by
    have hinto : r.plane.unfailedInto k = true := by
      cases m with
      | commitReplica commit =>
        obtain rfl : commit.replicaId = k := by simpa [Mutation.act] using hact
        exact spares
      | revalidateReplica transition =>
        obtain rfl : transition.replicaId = k := by simpa [Mutation.act] using hact
        exact spares
      | transferOwnership request =>
        obtain rfl : request.newOwnerReplica = k := by simpa [Mutation.act] using hact
        exact spares
      | _ => simp [Mutation.act] at hact
    exact ne_destination_of_unfailedInto coherent hinto hop hfailed

theorem sparesFailed_of_restart (coherent : Coherent r.plane)
    (spares : restartSparesFailed r = true) : SparesFailed .reopen r.plane.abs where
  failed o op v state hact := by simp [Action.MovesOn] at hact
  restarted _ o op v hop hearly hv := by
    obtain ⟨operation, hoperation, rfl⟩ := abs_operations_eq_some.mp hop
    have hmem : operation ∈ r.plane.operationList := by
      rw [coherent.mem_operationList, (coherent.operations hoperation).1]
      exact hoperation
    have hspared := List.all_eq_true.mp spares operation hmem
    rw [classifyRecovery_abandons.mpr hearly] at hspared
    have huncounted : r.plane.counting operation.destinationReplica = false := by
      simpa using hspared
    exact not_counting huncounted hv
  established k o op hact := by simp at hact

/-- In a run that leaves no counting destination behind, the destination of a FAILED, CANCELLED or
ABANDONED operation does not count. -/
theorem failed_operations_leave_nothing {r : Runtime}
    (h : Reachable Opened (Restrict Step SparesFailedOperations) r) {o : OperationId}
    {operation : OperationRecord} (recorded : r.plane.operations[o]? = some operation)
    (failed : operation.state = .failed ∨ operation.state = .cancelled
      ∨ operation.state = .abandoned) :
    ¬ r.plane.Counts operation.destinationReplica := by
  obtain ⟨-, -, hleaves⟩ : WellKept r ∧ Accounted r.plane.abs ∧ LeavesNothing r.plane.abs := by
    refine runtime_invariant (I := fun p => Accounted p ∧ LeavesNothing p)
      ⟨accounted_empty, fun o op v hop => by cases hop⟩ ?_ h
    rintro r e r' hkept hstep ⟨hrequest, hrestart⟩ hprotocol ⟨haccounted, hleaves⟩
    refine ⟨hprotocol.accounted haccounted, ?_⟩
    rcases hstep.effect_cases hrequest with ⟨m, out, rfl, -, hexec, -, hspares⟩ | hsame
      | ⟨config, rfl⟩
    · rw [hexec.action_eq] at hprotocol
      exact hprotocol.leavesNothing haccounted (sparesFailed_of_request hkept.coherent hspares)
        hleaves
    · rw [abs_eq_of_records hsame]
      exact hleaves
    · exact hprotocol.leavesNothing haccounted (sparesFailed_of_restart hkept.coherent hrestart)
        hleaves
  rintro ⟨replica, hreplica, hcounts⟩
  exact hleaves o operation.view replica.view (abs_operations recorded) failed
    (abs_replicas hreplica) ((counting_iff replica).mp hcounts)

theorem failed_operations_leave_nothing_of_received :
    ∃ operation, (reach (received ++ [cancellation 24])).plane.operations[(⟨24⟩ : OperationId)]?
        = some operation
      ∧ (operation.state = .failed ∨ operation.state = .cancelled
        ∨ operation.state = .abandoned)
      ∧ ¬ (reach (received ++ [cancellation 24])).plane.Counts operation.destinationReplica := by
  have hcancelled : (reach (received ++ [cancellation 24])).plane.operations[
      (⟨24⟩ : OperationId)]?.any (·.state == .cancelled) = true := by decide +kernel
  obtain ⟨operation, hoperation, hstate⟩ := (Option.any_eq_true _ _).mp hcancelled
  have hstate : operation.state = .cancelled := by simpa using hstate
  exact ⟨operation, hoperation, .inr (.inl hstate), failed_operations_leave_nothing
    (reachable_of_complies (by decide +kernel)) hoperation (.inr (.inl hstate))⟩

/-- The destination of an operation is committed directly, then the operation is cancelled. -/
def Scenario.overtaken : List Mutation :=
  received ++ [verification 28, commit 28 9 false, cancellation 24]

theorem cancelled_destination_counts_of_overtaken :
    ReachableRuntime (reach overtaken)
      ∧ ((reach overtaken).plane.operations[(⟨24⟩ : OperationId)]?.any fun operation =>
        operation.state == .cancelled
          && (reach overtaken).plane.counting operation.destinationReplica) = true :=
  ⟨reachable _, by decide +kernel⟩

/-! ## Live operations -/

/-- Every live operation with the replica as its destination is as asked. -/
def ControlPlane.liveInto (p : ControlPlane) (k : ReplicaId) (ok : OperationRecord → Bool) :
    Bool :=
  p.operationList.all fun operation =>
    operation.isTerminal || operation.destinationReplica != k || ok operation

/-- The request settles every live operation whose destination it makes RETIRED, ABANDONED or
CORRUPT, or there is none. -/
def settlesDestinations (r : Runtime) (m : Mutation) : Bool :=
  match m with
  | .recordTransferProgress progress =>
    !progress.failed
      || r.plane.liveInto progress.replicaId (·.operationId == progress.operationId)
  | .recordTransferCompletion completion =>
    !r.mismatches m || r.plane.liveInto completion.replicaId fun _ => false
  | .verifyReplica report =>
    !r.mismatches m || r.plane.liveInto report.replicaId fun operation =>
      operation.operationId == report.operationId
        && !(report.operationGeneration.valid
          && operation.operationGeneration != report.operationGeneration)
  | .retireReplica transition => r.plane.liveInto transition.replicaId fun _ => false
  | .commitOperation commit =>
    r.plane.operations[commit.operationId]?.all fun operation =>
      !operation.destructiveMove || r.plane.liveInto operation.sourceReplica fun _ => false
  | _ => true

theorem liveInto_spec (coherent : Coherent p) {ok : OperationRecord → Bool}
    (h : p.liveInto k ok = true) (hop : p.abs.operations o = some op) (live : ¬ op.Terminal)
    (destination : op.destination = k) :
    ∃ operation, p.operations[o]? = some operation ∧ operation.operationId = o
      ∧ operation.isTerminal = false ∧ ok operation = true := by
  obtain ⟨operation, hoperation, rfl⟩ := abs_operations_eq_some.mp hop
  have hid := (coherent.operations hoperation).1
  have hmem : operation ∈ p.operationList := by
    rw [coherent.mem_operationList, hid]
    exact hoperation
  have hlive : operation.isTerminal = false := by rwa [← Bool.not_eq_true, operation.isTerminal_iff]
  have hdest : operation.destinationReplica = k := destination
  have hok := List.all_eq_true.mp h operation hmem
  exact ⟨operation, hoperation, hid, hlive, by simpa [hlive, hdest] using hok⟩

theorem unserved_of_liveInto (coherent : Coherent p) (h : p.liveInto k (fun _ => false) = true) :
    p.abs.Unserved k := by
  intro o op hop hdest
  by_contra hlive
  obtain ⟨operation, -, -, -, hfalse⟩ := liveInto_spec coherent h hop hlive hdest
  cases hfalse

theorem Executes.mismatches_of_corrupt (h : Executes r m out) (coherent : Coherent r.plane)
    (report : m.report = some (k, o)) (hv : (r.after m).plane.abs.replicas k = some v)
    (corrupt : v.lifecycle = .corrupt) : r.mismatches m = true := by
  obtain ⟨replica, revised, hreplica, hwritten, hcorrupt⟩ := h.written coherent report
  obtain ⟨moved, hadvancement, -⟩ := Runtime.advancement_spec coherent report
  have hbatch := (hwritten.batch hadvancement).replica_eq
  have hplane : r.inputs.plane = r.plane := rfl
  rw [hplane, hwritten.id, hreplica.id, ← abs_eq_of_records h.records_eq, hv] at hbatch
  refine hcorrupt ?_
  rw [Option.some.inj hbatch] at corrupt
  exact corrupt

theorem settlesDoomed_of_request (coherent : Coherent r.plane) (hexec : Executes r m out)
    (settles : settlesDestinations r m = true) :
    SettlesDoomed (m.act r) r.plane.abs (r.after m).plane.abs where
  failed k o hact o' op hop hlive hdest := by
    cases m with
    | recordTransferProgress progress =>
      obtain ⟨rfl, rfl, hstate⟩ := Action.report.inj hact
      have hfailed : progress.failed = true := by
        by_contra hnot
        simp [hnot] at hstate
      have hinto : r.plane.liveInto progress.replicaId
          (·.operationId == progress.operationId) = true := by
        simpa [settlesDestinations, hfailed] using settles
      obtain ⟨operation, -, hid, -, hnamed⟩ := liveInto_spec coherent hinto hop hlive hdest
      rw [← hid]
      exact beq_iff_eq.mp hnamed
    | recordTransferCompletion =>
      obtain ⟨-, -, hstate⟩ := Action.report.inj hact
      cases hstate
    | _ => simp [Mutation.act] at hact
  received k o v' hact hv' hcorrupt := by
    cases m with
    | recordTransferProgress =>
      obtain ⟨-, -, hstate⟩ := Action.report.inj hact
      split at hstate <;> cases hstate
    | recordTransferCompletion =>
      obtain ⟨rfl, rfl, -⟩ := Action.report.inj hact
      have hmismatch := hexec.mismatches_of_corrupt coherent rfl hv' hcorrupt
      exact unserved_of_liveInto coherent (by simpa [settlesDestinations, hmismatch] using settles)
    | _ => simp [Mutation.act] at hact
  refused k o v' hact hv' hcorrupt o' op op' hop hlive hdest hop' := by
    cases m with
    | verifyReplica report =>
      obtain ⟨rfl, rfl, hok⟩ := Action.verify.inj hact
      have hmismatch := hexec.mismatches_of_corrupt coherent rfl hv' hcorrupt
      have hinto : r.plane.liveInto report.replicaId (fun operation =>
          operation.operationId == report.operationId
            && !(report.operationGeneration.valid
              && operation.operationGeneration != report.operationGeneration)) = true := by
        simpa [settlesDestinations, hmismatch] using settles
      obtain ⟨operation, hoperation, hid, hterminal, hnamed⟩ :=
        liveInto_spec coherent hinto hop hlive hdest
      rw [Bool.and_eq_true, beq_iff_eq, hid, Bool.not_eq_true'] at hnamed
      obtain ⟨rfl, hgeneration⟩ := hnamed
      -- The refusal fails the operation it names.
      obtain ⟨moved, hadvancement, -, -, hafter⟩ := hexec.getElem?_operations coherent rfl
      obtain ⟨operation', hoperation', rfl⟩ := abs_operations_eq_some.mp hop'
      cases hanswer : r.answer (.verifyReplica report) with
      | ok => simp [hanswer, Except.isOk, Except.toBool] at hok
      | error e =>
        have hstored : r.inputs.plane.operations[report.operationId]? = some operation := hoperation
        obtain ⟨w, hw, -, hview⟩ := advanceOperation_of_live hstored hterminal hgeneration .failed
          e.message
        simp only [Runtime.advancement, hanswer, ReplicaVerification.advancement, hw]
          at hadvancement
        have hmoved : moved = some w := by
          cases moved with
          | none => cases hadvancement
          | some => simpa using hadvancement.symm
        rw [hafter, if_pos rfl, hmoved, Option.some_or] at hoperation'
        rw [← Option.some.inj hoperation', hview]
        exact .inr (.inl rfl)
    | _ => simp [Mutation.act] at hact
  retired k hact := by
    cases m with
    | retireReplica transition =>
      obtain rfl : transition.replicaId = k := by simpa [Mutation.act] using hact
      exact unserved_of_liveInto coherent settles
    | commitOperation commit =>
      obtain ⟨op, hop, hdestructive, hsource⟩ :
          ∃ op, r.plane.abs.operations commit.operationId = some op ∧ op.destructive = true
            ∧ op.source = k := by simpa [Mutation.act] using hact
      obtain ⟨operation, hoperation, rfl⟩ := abs_operations_eq_some.mp hop
      have hmove : operation.destructiveMove = true := hdestructive
      have hk : operation.sourceReplica = k := hsource
      have hinto : r.plane.liveInto operation.sourceReplica (fun _ => false) = true := by
        simpa [settlesDestinations, hoperation, hmove] using settles
      exact unserved_of_liveInto coherent (hk ▸ hinto)
    | _ => simp [Mutation.act] at hact

/-- In a run that settles the operations whose destination it makes unfit, the destination of an
operation in flight is neither RETIRED, ABANDONED nor CORRUPT. -/
theorem no_orphaned_operation {r : Runtime}
    (h : Reachable Opened (Restrict Step (OnEffect settlesDestinations)) r) {o : OperationId}
    {operation : OperationRecord} (recorded : r.plane.operations[o]? = some operation)
    (live : operation.isTerminal = false) {replica : ReplicaRecord}
    (destination : r.plane.replicas[operation.destinationReplica]? = some replica) :
    replica.lifecycle ≠ .retired ∧ replica.lifecycle ≠ .abandoned
      ∧ replica.lifecycle ≠ .corrupt := by
  obtain ⟨-, -, hserved⟩ : WellKept r ∧ Accounted r.plane.abs ∧ Served r.plane.abs := by
    refine runtime_invariant (I := fun p => Accounted p ∧ Served p)
      ⟨accounted_empty, fun o op v hop => by cases hop⟩ ?_ h
    rintro r e r' hkept hstep hmeets hprotocol ⟨haccounted, hserved⟩
    refine ⟨hprotocol.accounted haccounted, ?_⟩
    rcases hstep.effect_cases hmeets with ⟨m, out, rfl, rfl, hexec, -, hsettles⟩ | hsame
      | ⟨config, rfl⟩
    · rw [hexec.action_eq] at hprotocol
      exact hprotocol.served haccounted (settlesDoomed_of_request hkept.coherent hexec hsettles)
        hserved
    · rw [abs_eq_of_records hsame]
      exact hserved
    · refine hprotocol.served haccounted ⟨?_, ?_, ?_, ?_⟩ hserved
      all_goals simp [Event.action]
  have hfit := hserved o operation.view replica.view (abs_operations recorded)
    (OperationRecord.not_terminal live) (abs_replicas destination)
  exact ⟨fun hl => hfit (.inl hl), fun hl => hfit (.inr (.inl hl)), fun hl => hfit (.inr (.inr hl))⟩

theorem no_orphaned_operation_of_received :
    ∃ operation replica, (reach received).plane.operations[(⟨24⟩ : OperationId)]? = some operation
      ∧ operation.isTerminal = false
      ∧ (reach received).plane.replicas[operation.destinationReplica]? = some replica
      ∧ replica.lifecycle ≠ .retired ∧ replica.lifecycle ≠ .abandoned
      ∧ replica.lifecycle ≠ .corrupt := by
  have hlive : ((reach received).plane.operations[(⟨24⟩ : OperationId)]?.any fun operation =>
      !operation.isTerminal
        && (reach received).plane.replicas[operation.destinationReplica]?.isSome) = true := by
    decide +kernel
  obtain ⟨operation, hoperation, hlive⟩ := (Option.any_eq_true _ _).mp hlive
  rw [Bool.and_eq_true, Bool.not_eq_true'] at hlive
  obtain ⟨replica, hreplica⟩ := Option.isSome_iff_exists.mp hlive.2
  exact ⟨operation, replica, hoperation, hlive.1, hreplica,
    no_orphaned_operation (reachable_of_complies (by decide +kernel)) hoperation hlive.1 hreplica⟩

/-- A completion that finds a mismatch leaves the operation it names in flight, into a CORRUPT
replica. -/
theorem orphaned_operation_of_replicating :
    ReachableRuntime (reach (replicating
        ++ [.recordTransferCompletion (completionReport 28 ⟨24⟩ otherContent)]))
      ∧ ((reach (replicating ++ [.recordTransferCompletion
          (completionReport 28 ⟨24⟩ otherContent)])).plane.operations[(⟨24⟩ : OperationId)]?.any
        fun operation => !operation.isTerminal
          && (reach (replicating ++ [.recordTransferCompletion
            (completionReport 28 ⟨24⟩ otherContent)])).plane.replicas[
              operation.destinationReplica]?.any (·.lifecycle == .corrupt)) = true :=
  ⟨reachable _, by decide +kernel⟩

end StateFabric
