import StateFabric.Guarantees.Fencing
import StateFabric.Refinement.Reuse

/-!
# Recovery

What a restart leaves: no operation in flight, the counting copies and the ownership records as
they were, and no copy reusable before it is verified or revalidated again (`RecoveryContract`).
The coordinator epoch moves on as long as a 64-bit epoch is left.

Reuse is answered from an assessment of each copy; `evaluateReuse_permits` says what a copy that
a reuse evaluation permits has to be.
-/

namespace StateFabric

open Protocol Transition ControlPlane OrderedMap ReuseSearch Scenario

variable {r : Runtime} {replica : ReplicaRecord} {p : ControlPlane} {k : ReplicaId}

/-! ## What a permitted reuse says -/

/-- The evaluation permits the reuse of a replica. -/
def ReuseEvaluation.Permits (e : ReuseEvaluation) (k : ReplicaId) : Prop :=
  e.code = .ok ∧ e.replica = k

/-- What an assessment requires of a replica it grants reuse of. -/
structure Reusable (replica : ReplicaRecord) : Prop where
  validated : replica.evidence.revalidationRequired = false
  present : replica.availability ≠ .absent
  established : replica.lifecycle = .authoritative ∨ replica.lifecycle = .degraded
  intact : replica.integrity ≠ .mismatch

theorem reusable_of_granted {context : AuthorityContext}
    (h : (assessReplicaAuthority replica context).authoritativeForReuse = true) :
    Reusable replica := by
  have hdenials := authoritativeForReuse_iff.mp h
  simp only [authorityDenials, List.forall_mem_cons, authorityEvidence] at hdenials
  constructor
  · simp_all
  · simp_all
  · have hlast := hdenials.2.2.2.2.2.2.2.2.2.2.2.2.2.2.2.2.2.2.2.2.1
    by_contra hnot
    simp_all
  · simp_all

theorem evaluateReuse_permits {config : FabricConfig} {key : StateKey} {clusterId : ClusterId}
    (coherent : Coherent p) (h : (evaluateReuse p config key clusterId).Permits k) :
    ∃ replica, p.replicas[k]? = some replica ∧ Reusable replica := by
  obtain ⟨hcode, hreplica⟩ := h
  cases hknown : p.asksKnown key clusterId with
  | false => exact absurd hcode (evaluateReuse_unknown config hknown).2.1
  | true =>
    cases hbest : lowestPermitted (p.reuseContext config key clusterId)
        (p.hosted key clusterId) with
    | none => exact absurd hcode (evaluateReuse_refused_code hknown hbest)
    | some best =>
      obtain ⟨hmem, hpermits⟩ := mem_of_lowestPermitted hbest
      have hrecorded := (coherent.mem_replicasOfState.mp (List.mem_of_mem_filter hmem)).1
      rw [← (evaluateReuse_permitted hknown hbest).2.2.1, hreplica] at hrecorded
      exact ⟨best, hrecorded, reusable_of_granted (Bool.and_eq_true_iff.mp hpermits).1⟩

/-! ## Validation -/

/-- The replica a request verifies or revalidates. -/
def Mutation.validated : Mutation → Option ReplicaId
  | .verifyReplica report => some report.replicaId
  | .revalidateReplica transition => some transition.replicaId
  | _ => none

/-- The event is a successful verification or revalidation of a replica. -/
def Validates (r : Runtime) (e : Event) (k : ReplicaId) : Prop :=
  match e with
  | .mutation m => m.validated = some k ∧ (r.answer m).isOk = true
  | .persist | .shutdown | .reopen _ => False

instance Validates.decidable (r : Runtime) (e : Event) (k : ReplicaId) :
    Decidable (Validates r e k) :=
  match e with
  | .mutation m => inferInstanceAs (Decidable (m.validated = some k ∧ (r.answer m).isOk = true))
  | .persist | .shutdown | .reopen _ => inferInstanceAs (Decidable False)

theorem Executes.revalidated {transition : ReplicaTransition} {out : Outcome Response}
    (h : Executes r (.revalidateReplica transition) out) :
    (r.answer (.revalidateReplica transition)).isOk = true := by
  obtain ⟨inner, hinner, -, hstatus⟩ := map_outcome_eq_ok h.body
  simp only [revalidateReplica, ↓rejectIf_bind_eq_ok, ↓found_bind_eq_ok] at hinner
  obtain ⟨replica, -, -, -, -, cluster, -, -, -, -, -, -, state, -, -, hcommit⟩ := hinner
  obtain ⟨-, hok⟩ := MutationInputs.commit_ok hcommit
  rw [h.answer_eq, hstatus, hok]
  rfl

theorem validates_of_action {e : Event}
    (act : (∃ o, e.action r = .verify k o true) ∨ e.action r = .revalidate k) :
    Validates r e k := by
  cases e with
  | mutation m =>
    rcases r.after_cases m with ⟨out, hexec⟩ | ⟨-, -, hidle⟩
    · rw [hexec.action_eq] at act
      cases m with
      | verifyReplica =>
        obtain ⟨o, hact⟩ | hact := act
        · obtain ⟨rfl, -, hok⟩ := Action.verify.inj hact
          exact ⟨rfl, hok⟩
        · cases hact
      | revalidateReplica =>
        obtain ⟨o, hact⟩ | hact := act
        · cases hact
        · obtain rfl := Action.revalidate.inj hact
          exact ⟨rfl, hexec.revalidated⟩
      | _ => simp [Mutation.act] at act
    · simp [hidle] at act
  | _ => simp [Event.action] at act

/-! ## The contract -/

/-- The replica counts toward the replication factor. -/
def ControlPlane.Counts (p : ControlPlane) (k : ReplicaId) : Prop :=
  ∃ replica, p.replicas[k]? = some replica ∧ replicaCountsTowardReplicationFactor replica = true

/-- What a restart makes of a runtime, apart from the epoch. -/
structure RecoveryContract (r r' : Runtime) : Prop where
  /-- The counting replicas are those from before. -/
  counting : ∀ k, r'.plane.Counts k ↔ r.plane.Counts k
  ownership : r'.plane.ownership = r.plane.ownership
  /-- No operation is left in flight. -/
  settled : ∀ (o : OperationId) (op : OperationRecord), r.plane.operations[o]? = some op →
    op.isTerminal = false → ∃ op', r'.plane.operations[o]? = some op'
      ∧ (op'.state = .abandoned ∨ op'.state = .complete ∨ op'.state = .outcomeUnknown)
  /-- The uncommitted destination of an abandoned operation is abandoned. -/
  abandoned : ∀ (o : OperationId) (op op' : OperationRecord) (replica : ReplicaRecord),
    r.plane.operations[o]? = some op → op.isTerminal = false →
    r'.plane.operations[o]? = some op' → op'.state = .abandoned →
    r.plane.replicas[op.destinationReplica]? = some replica → replica.commitRecorded = false →
    r'.plane.replicas[op.destinationReplica]?.map (·.lifecycle) = some .abandoned
  /-- The uncommitted destination of an operation with unknown outcome is quarantined. -/
  quarantined : ∀ (o : OperationId) (op op' : OperationRecord) (replica : ReplicaRecord),
    r.plane.operations[o]? = some op → op.isTerminal = false →
    r'.plane.operations[o]? = some op' → op'.state = .outcomeUnknown →
    r.plane.replicas[op.destinationReplica]? = some replica → replica.commitRecorded = false →
    replica.isTerminal = false →
    r'.plane.replicas[op.destinationReplica]?.map (·.lifecycle) = some .quarantined
  /-- No replica is reusable before it is verified or revalidated again. -/
  withheld : ∀ (k : ReplicaId) (r₂ : Runtime),
    Runs (Restrict Step fun s e => ¬ Validates s e k) r' r₂ →
    ∀ config key clusterId, ¬ (evaluateReuse r₂.plane config key clusterId).Permits k

/-- What a destination becomes when the operation it belongs to is the only one. -/
theorem recover_destination (accounted : Accounted p.abs) {o : OperationId} {op : OperationRecord}
    (hop : p.operations[o]? = some op)
    (hreplica : p.replicas[op.destinationReplica]? = some replica) :
    p.recover.replicas[op.destinationReplica]?
      = some (settledCopy (op.abandons op.destinationReplica) (op.suspends op.destinationReplica)
        (recoveredReplica replica)) := by
  -- Destinations are minted per operation, so two operations with one destination are one.
  have hsole : ∀ f : OperationRecord → Bool,
      (∀ op', f op' = true → op'.destinationReplica = op.destinationReplica) →
      p.operationList.any f = f op := by
    intro f hf
    rw [Bool.eq_iff_iff, any_operationList]
    refine ⟨?_, fun hop' => ⟨o, op, hop, hop'⟩⟩
    rintro ⟨o', op', hop', hmeets⟩
    obtain rfl : o' = o :=
      accounted.eq_of_destination (abs_operations hop') (abs_operations hop) (hf op' hmeets)
    obtain rfl := some_unique hop' hop
    exact hmeets
  rw [getElem?_recover_replicas, hreplica, Option.map_some, abandonsCopy, suspendsCopy,
    hsole _ fun op' => by simp +contextual [OperationRecord.abandons],
    hsole _ fun op' => by simp +contextual [OperationRecord.suspends]]

theorem withheld_of_restart {r' r₂ : Runtime} {restarted : FabricConfig}
    (reachable : ReachableRuntime r) (reopened : Step r (.reopen restarted) r')
    (run : Runs (Restrict Step fun s e => ¬ Validates s e k) r' r₂) :
    ∀ v, r₂.plane.abs.replicas k = some v → Withheld v := by
  obtain ⟨hkept, hdeparted⟩ : WellKept r ∧ Departed r.plane.abs :=
    reachable.invariant (fun k v hv => by cases hv) fun hstep => hstep.departed
  have hprotocol := (hkept.step reopened).2
  refine run.invariant_under (I := fun s => ∀ v, s.plane.abs.replicas k = some v → Withheld v)
    (J := ReachableRuntime) (fun s e s' hstep hs => hs.tail hstep.1) ?_ (reachable.tail reopened)
    fun v hv => hprotocol.withheld_of_reopen hdeparted rfl hv
  rintro s e s' ⟨hstep, hnot⟩ hs hwithheld
  obtain ⟨hkept, -⟩ := hs.accounted
  exact (hkept.step hstep).2.withheld (fun o act => hnot (validates_of_action (.inl ⟨o, act⟩)))
    (fun act => hnot (validates_of_action (.inr act))) hwithheld

theorem Reusable.not_withheld (h : Reusable replica) : ¬ Withheld replica.view := by
  rintro (hrevalidation | ⟨habsent, -⟩ | ⟨⟨hauthoritative, hdegraded, -⟩, -⟩)
  · rw [show replica.view.revalidation = false from h.validated] at hrevalidation
    cases hrevalidation
  · exact h.present habsent
  · rcases h.established with hlifecycle | hlifecycle
    · exact hauthoritative hlifecycle
    · exact hdegraded hlifecycle

theorem le_configure_coordinatorEpoch (p : ControlPlane) (config : FabricConfig) :
    p.coordinatorEpoch.value ≤ (p.configure config).coordinatorEpoch.value := by
  generalize hepoch : (if p.coordinatorEpoch < config.epochStart then config.epochStart
    else p.coordinatorEpoch) = epoch
  have hstart : p.coordinatorEpoch.value ≤ epoch.value := by
    rw [← hepoch]
    split
    · rename_i hlt
      exact UInt64.le_of_lt hlt
    · exact UInt64.le_refl _
  simp only [configure, hepoch]
  by_cases hvalid : epoch.valid = true
  · rwa [if_pos hvalid]
  · have hzero : epoch.value = 0 := by simpa [StrongId.valid] using hvalid
    rw [if_neg hvalid]
    rw [hzero] at hstart
    exact UInt64.le_trans hstart (by decide)

/-- The epoch of a configured plane is decided by the epoch it was loaded with. -/
theorem configure_coordinatorEpoch_congr {q : ControlPlane} (config : FabricConfig)
    (h : p.coordinatorEpoch = q.coordinatorEpoch) :
    (p.configure config).coordinatorEpoch = (q.configure config).coordinatorEpoch := by
  simp only [configure, h]

theorem lt_next_iff {a b : CoordinatorEpoch} (h : a.value ≤ b.value) :
    a < b.next ↔ b.value ≠ lastIdentity := by
  have hlt : a < b.next ↔ a.value.toNat < (b.value.toNat + 1) % 18446744073709551616 := by
    change a.value < b.value + 1 ↔ _
    rw [UInt64.lt_iff_toNat_lt, UInt64.toNat_add]
    rfl
  have hlast : b.value = lastIdentity ↔ b.value.toNat = 18446744073709551615 :=
    UInt64.toNat_inj.symm
  have hbound := b.value.toNat_lt
  rw [UInt64.le_iff_toNat_le] at h
  rw [hlt, ne_eq, hlast]
  omega

theorem WellKept.reopened_coordinatorEpoch {r' : Runtime} (h : WellKept r) {config : FabricConfig}
    (hstep : Step r (.reopen config) r') :
    r'.plane.coordinatorEpoch = (r.plane.configure config).coordinatorEpoch.next := by
  obtain ⟨loaded, hloaded, hrecovered⟩ := h.reopened_records hstep
  rw [coordinatorEpoch_eq_of_records hrecovered, recover_coordinatorEpoch,
    configure_coordinatorEpoch_congr config (coordinatorEpoch_eq_of_records hloaded)]

/-- A restart makes good on its contract, and moves the epoch on unless the epoch it starts from
is the last. -/
theorem recovery_contract {r r' : Runtime} {restarted : FabricConfig}
    (reachable : ReachableRuntime r) (reopened : Step r (.reopen restarted) r') :
    RecoveryContract r r'
      ∧ (r.plane.coordinatorEpoch < r'.plane.coordinatorEpoch
        ↔ (r.plane.configure restarted).coordinatorEpoch.value ≠ lastIdentity) := by
  obtain ⟨hkept, haccounted⟩ := reachable.accounted
  obtain ⟨loaded, hloaded, hrecovered⟩ := hkept.reopened_records reopened
  set q := loaded.configure restarted with hq
  have hcoherent : Coherent q := (hkept.coherent.of_records hloaded).configure restarted
  have hreplicas : r.plane.replicas = q.replicas := (replicas_eq_of_records hloaded).symm
  have hoperations : r.plane.operations = q.operations := (operations_eq_of_records hloaded).symm
  have hownership : r.plane.ownership = q.ownership := (ownership_eq_of_records hloaded).symm
  have hreplicas' : r'.plane.replicas = q.recover.replicas := replicas_eq_of_records hrecovered
  have hoperations' : r'.plane.operations = q.recover.operations :=
    operations_eq_of_records hrecovered
  have hqaccounted : Accounted q.abs := by
    have habs : q.abs = r.plane.abs := by
      rw [← abs_eq_of_records hloaded]
      simp only [hq, ControlPlane.abs, configure]
    exact habs ▸ haccounted
  -- The state of an operation that was in flight is its classification.
  have hstate : ∀ (o : OperationId) (op op' : OperationRecord), q.operations[o]? = some op →
      op.isTerminal = false → q.recover.operations[o]? = some op' →
      op'.state = (classifyRecovery op.state).state := by
    intro o op op' hop hlive hop'
    obtain ⟨tick, htick⟩ := hcoherent.recover_operation hop hlive
    obtain rfl := some_unique htick hop'
    exact congrArg OperationView.state (recoveredOperation_view ..)
  have huncommitted' : ∀ replica : ReplicaRecord, replica.commitRecorded = false →
      (recoveredReplica replica).commitRecorded = false := fun replica huncommitted =>
    ((recovered_recoveredReplica q.abs replica.replicaId replica).committed_eq :).trans
      huncommitted
  refine ⟨⟨?_, ?_, ?_, ?_, ?_, ?_⟩, ?_⟩
  · intro k
    unfold ControlPlane.Counts
    rw [hreplicas, hreplicas']
    cases hr : q.replicas[k]? with
    | none => simp [getElem?_recover_replicas, hr]
    | some =>
      obtain ⟨replica', hr', hrecovered, -⟩ := recover_replica hr
      simp only [hr', Option.some.injEq, exists_eq_left', counting_iff]
      exact hrecovered.counting_iff
  · calc r'.plane.ownership = q.recover.ownership := ownership_eq_of_records hrecovered
      _ = q.ownership := recover_ownership q
      _ = r.plane.ownership := hownership.symm
  · intro o op hop hlive
    rw [hoperations] at hop
    obtain ⟨tick, htick⟩ := hcoherent.recover_operation hop hlive
    refine ⟨_, by rw [hoperations', htick], ?_⟩
    rw [hstate o op _ hop hlive htick]
    rcases classifyRecovery_outcome hlive with ⟨-, h⟩ | ⟨-, h⟩
    · exact .inl h
    · exact .inr h
  · intro o op op' replica hop hlive hop' habandoned hreplica huncommitted
    rw [hoperations] at hop
    rw [hoperations'] at hop'
    rw [hreplicas] at hreplica
    rw [hstate o op op' hop hlive hop'] at habandoned
    rw [hreplicas', recover_destination hqaccounted hop hreplica,
      op.abandons_of_abandoned hlive habandoned, settledCopy, huncommitted' replica huncommitted]
    rfl
  · intro o op op' replica hop hlive hop' hunknown hreplica huncommitted halive
    rw [hoperations] at hop
    rw [hoperations'] at hop'
    rw [hreplicas] at hreplica
    rw [hstate o op op' hop hlive hop'] at hunknown
    have hstill : (recoveredReplica replica).isTerminal = false := by
      simp only [recoveredReplica, halive, Bool.false_eq_true, if_false]
      exact halive
    obtain ⟨hsuspends, habandons⟩ := op.suspends_of_unknown hlive hunknown
    rw [hreplicas', recover_destination hqaccounted hop hreplica, hsuspends, habandons,
      settledCopy, huncommitted' replica huncommitted, hstill]
    rfl
  · intro k r₂ run config key clusterId hpermits
    obtain ⟨hkept₂, -⟩ := ReachableRuntime.accounted
      ((reachable.tail reopened).runs run.of_restrict)
    obtain ⟨replica, hreplica, hreusable⟩ := evaluateReuse_permits hkept₂.coherent hpermits
    exact hreusable.not_withheld
      (withheld_of_restart reachable reopened run _ (abs_replicas hreplica))
  · rw [hkept.reopened_coordinatorEpoch reopened]
    exact lt_next_iff (le_configure_coordinatorEpoch r.plane restarted)

theorem recovery_contract_of_received :
    RecoveryContract (reach received) (restart (reach received))
      ∧ (reach received).plane.coordinatorEpoch
        < (restart (reach received)).plane.coordinatorEpoch := by
  have hcontract := recovery_contract (reachable received) (step_restart (by decide +kernel))
  exact ⟨hcontract.1, hcontract.2.mpr (by decide +kernel)⟩

/-- A configuration that starts from the last epoch. -/
def Scenario.lastEpoch : FabricConfig := { config with epochStart := ⟨18446744073709551615⟩ }

/-- A restart at the last epoch goes back to epoch zero. -/
theorem epoch_wraps_of_lastEpoch :
    ∃ r r', ReachableRuntime r ∧ Step r (.reopen lastEpoch) r'
      ∧ ¬ r.plane.coordinatorEpoch < r'.plane.coordinatorEpoch :=
  ⟨_, _, reachable [], step_reopen (by decide +kernel) (by decide +kernel), by decide +kernel⟩

end StateFabric
