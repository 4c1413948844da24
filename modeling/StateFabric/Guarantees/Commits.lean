import StateFabric.Guarantees.Refusal
import StateFabric.Refinement.Charter

/-!
# Commits happen once

A replica and an operation record the identity they were committed under.  A commit of a committed
replica or of a terminal operation has no effect: under the recorded identity it is acknowledged,
under another one it is refused.  What is committed stays committed along a run that lasts, so an
acknowledged commit can be repeated at any later time.

Three requests write a commit identity.  `commit_replica` and `transfer_ownership` require it to be
valid; `commit_operation` does not, and completes an operation under the identity zero.
-/

namespace StateFabric

open Fallible Protocol Transition ControlPlane OrderedMap Scenario

variable {r r' : Runtime} {e : Event} {m : Mutation} {out : Outcome Response}

/-! ## Commits of what is committed -/

/-- In a run that lasts an acknowledged request is executed and leaves the records it leaves when
its writes succeed. -/
theorem Lasting.acknowledged {ok : Runtime → Event → Prop} {faults : Faults} {response : Response}
    (lasts : Lasting ok r (.mutation m faults)) (acknowledged : r.answerFaults m faults = .ok response) :
    (∃ out, Executes r m out) ∧ (r.afterFaults m faults).plane.records = (r.after m).plane.records := by
  rcases lasts.answer_cases with ⟨-, e, herror⟩ | hanswer
  · rw [herror] at acknowledged
    cases acknowledged
  · refine ⟨?_, ?_⟩
    · rcases r.after_cases m with hexec | ⟨-, ⟨e, herror⟩, -⟩
      · exact hexec
      · simp [← hanswer, acknowledged] at herror
    · rcases r.afterFaults_cases m faults with ⟨hfails, hdurable, -⟩ | hrecords
      · obtain ⟨-, e, herror⟩ := Runtime.refused_of_fails hfails hdurable
        rw [herror] at acknowledged
        cases acknowledged
      · exact hrecords

/-- The event is no operation commit without a valid commit identity. -/
def Event.namesCommit : Event → Bool
  | .mutation (.commitOperation commit) => commit.commitId.valid
  | _ => true

/-- Operation commits carry a valid commit identity, and authorizations reserve unused replica
identities. -/
def CommitsByName (r : Runtime) (e : Event) : Prop := MintsUnused r e ∧ e.namesCommit = true

instance CommitsByName.decidable (r : Runtime) (e : Event) : Decidable (CommitsByName r e) :=
  inferInstanceAs (Decidable (_ ∧ _))

/-- An executed request that writes a commit identity carries a valid one, unless it commits an
operation. -/
theorem Executes.commitIdentity_valid (h : Executes r m out)
    (named : (Event.mutation m).namesCommit = true) {id : CommitId}
    (writes : some id = m.commitIdentity) : id.valid = true := by
  cases m with
  | commitReplica =>
    obtain rfl := Option.some.inj writes
    obtain ⟨inner, hbody, -⟩ := map_outcome_eq_ok h.body
    simp only [commitReplica, rejectIf_bind_eq_ok] at hbody
    simpa using hbody.1
  | commitOperation =>
    obtain rfl := Option.some.inj writes
    exact named
  | transferOwnership request =>
    obtain rfl := Option.some.inj writes
    obtain ⟨inner, hbody, -⟩ := map_outcome_eq_ok h.body
    simp only [transferOwnership, rejectIf_bind_eq_ok, found_bind_eq_ok] at hbody
    obtain ⟨state, -, -, -, ownership, -, -, hbody⟩ := hbody
    split at hbody
    · rename_i hrepeats
      simp only [Bool.and_eq_true] at hrepeats
      exact hrepeats.1.1
    · simp only [↓rejectIf_bind_eq_ok, ↓found_bind_eq_ok] at hbody
      obtain ⟨-, newOwner, -, -, -, -, -, cluster, -, -, -, -, hvalid, -⟩ := hbody
      simpa using hvalid
  | _ => cases writes

/-- The commit of every committed replica and of every completed operation has a valid identity. -/
structure NamedCommits (p : ControlPlane) : Prop where
  replicas : ∀ (k : ReplicaId) (replica : ReplicaRecord), p.replicas[k]? = some replica →
    replica.commitRecorded = true → replica.commitId.valid = true
  operations : ∀ (o : OperationId) (op : OperationRecord), p.operations[o]? = some op →
    op.state.concluded = true → op.commitId.valid = true

theorem settledCopy_commit (abandoned suspended : Bool) (replica : ReplicaRecord) :
    (settledCopy abandoned suspended (recoveredReplica replica)).commitRecorded
        = replica.commitRecorded
      ∧ (settledCopy abandoned suspended (recoveredReplica replica)).commitId
        = replica.commitId := by
  unfold settledCopy recoveredReplica
  split_ifs <;> exact ⟨rfl, rfl⟩

/-- A restart concludes no operation that was not concluded, and keeps commit identities. -/
theorem restartedOperation_commit (op : OperationRecord) (epoch : CoordinatorEpoch) (tick : Tick) :
    (restartedOperation op epoch tick).commitId = op.commitId
      ∧ ((restartedOperation op epoch tick).state.concluded = true →
        op.state.concluded = true) := by
  unfold restartedOperation
  split
  · exact ⟨rfl, id⟩
  · refine ⟨OperationRecord.note_commitId _ _, fun hconcluded => ?_⟩
    have hstate : (recoveredOperation op epoch tick).state = (classifyRecovery op.state).state :=
      congrArg OperationView.state (recoveredOperation_view op epoch tick)
    rw [hstate] at hconcluded
    cases hs : op.state <;> simp_all [classifyRecovery, OperationState.concluded]

theorem NamedCommits.of_records {p q : ControlPlane} (same : q.records = p.records)
    (h : NamedCommits p) : NamedCommits q where
  replicas k replica hreplica := h.replicas k replica (replicas_eq_of_records same ▸ hreplica)
  operations o op hop := h.operations o op (operations_eq_of_records same ▸ hop)

theorem NamedCommits.step (h : NamedCommits r.plane) (kept : WellKept r) (hstep : Step r e r')
    (named : e.namesCommit = true) : NamedCommits r'.plane where
  replicas k replica hreplica committed := by
    rcases kept.replica_cases hstep k with hsame | ⟨m, out, w, rfl, hexec, hput, rfl, hw⟩
      | ⟨abandoned, suspended, hrestarted⟩
    · exact h.replicas k replica (hsame ▸ hreplica) committed
    · obtain rfl := some_unique hw hreplica
      cases hexec.puts kept.coherent _ hput with
      | shared kind => exact kind.elim
      | @replica k old _ recorded revised _ =>
        rcases revised.commit with ⟨hcommitted, hid⟩ | hwritten
        · rw [hid]
          exact h.replicas k old recorded (hcommitted ▸ committed)
        · exact hexec.commitIdentity_valid named hwritten
      | newReplica _ _ _ _ uncommitted => simp [uncommitted] at committed
      | planned _ _ put _ =>
        obtain rfl := (TransferPlan.batch _ r.inputs).eq_of_mem_putReplica put
        cases committed
    · obtain ⟨old, hold, rfl⟩ := Option.map_eq_some_iff.mp (hrestarted.symm.trans hreplica)
      obtain ⟨hcommitted, hid⟩ := settledCopy_commit abandoned suspended old
      rw [hid]
      exact h.replicas k old hold (hcommitted ▸ committed)
  operations o op hop concluded := by
    rcases kept.operation_cases hstep o with hsame | ⟨m, out, w, rfl, hexec, hput, rfl, hw⟩
      | ⟨epoch, tick, hrestarted⟩
    · exact h.operations o op (hsame ▸ hop) concluded
    · obtain rfl := some_unique hw hop
      cases hexec.puts kept.coherent _ hput with
      | shared kind => exact kind.elim
      | @operation o old _ recorded _ _ commit =>
        rcases commit with ⟨hid, hconcluded⟩ | hwritten
        · rw [hid]
          exact h.operations o old recorded (hconcluded concluded)
        · exact hexec.commitIdentity_valid named hwritten
      | planned _ _ put =>
        simp only [TransferPlan.effects, bumpReplicaSetEffect, List.mem_cons, reduceCtorEq,
          Effect.putOperation.injEq, List.not_mem_nil, or_false] at put
        rw [put] at concluded
        cases concluded
    · obtain ⟨old, hold, rfl⟩ := Option.map_eq_some_iff.mp (hrestarted.symm.trans hop)
      obtain ⟨hid, hconcluded⟩ := restartedOperation_commit old epoch tick
      rw [hid]
      exact h.operations o old hold (hconcluded concluded)

/-! ## Exactly one commit -/

/-- An authorized copy whose operation is committed under the identity zero. -/
def Scenario.unnamed : List Mutation :=
  [cluster 1, cluster 2, state 1 1 .immutable, stateCommit 1 1 5] ++ copy 20 1 1 1 7 false
    ++ [replication 1 1 2, completion 28, verification 28, operationCommit 24 0]

end StateFabric
