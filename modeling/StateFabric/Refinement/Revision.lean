import StateFabric.Refinement.Charter

/-!
# No copy is ahead of the coordinator

Every request that rewrites a copy stamps it with the coordinator epoch, except for fencing, which
flags the copy for revalidation instead (`Executes.stamped`).  So no copy is ahead of the
coordinator epoch unless it has to be revalidated (`InStep`): the epoch never falls while a
coordinator runs, and a restart, after which it may be lower, flags every copy that is not
terminal.
-/

namespace StateFabric

open Protocol Transition OrderedMap MutationInputs ControlPlane

theorem Executes.stamped {r : Runtime} {m : Mutation} {out : Outcome Response}
    (h : Executes r m out) (coherent : Coherent r.plane) {w : ReplicaRecord}
    (put : .putReplica w ∈ out.effects) : w.Stamped r.plane.coordinatorEpoch := by
  cases h.puts coherent _ put with
  | shared kind => exact kind.elim
  | replica _ revised => exact revised.stamped
  | newReplica _ _ _ stamped => exact stamped
  | planned _ _ put _ =>
    obtain rfl := (TransferPlan.batch _ r.inputs).eq_of_mem_putReplica put
    exact .inl rfl

/-- No copy is ahead of the coordinator epoch, unless it is terminal or has to be revalidated. -/
def InStep (p : ControlPlane) : Prop :=
  ∀ (k : ReplicaId) (r : ReplicaRecord), p.replicas[k]? = some r → r.isTerminal = true
    ∨ r.evidence.revalidationRequired = true ∨ r.lastEpoch.value ≤ p.coordinatorEpoch.value

theorem InStep.of_records {p q : ControlPlane} (h : InStep p) (eq : q.records = p.records) :
    InStep q := by
  intro k r hr
  rw [replicas_eq_of_records eq] at hr
  rw [coordinatorEpoch_eq_of_records eq]
  exact h k r hr

theorem InStep.applyAll {p : ControlPlane} {es : List Effect} (h : InStep p)
    (stamped : ∀ w, .putReplica w ∈ es → w.Stamped p.coordinatorEpoch) :
    InStep (p.applyAll es) := by
  intro k r hr
  have hge := applyAll_coordinatorEpoch_ge p es
  rcases p.replicas_applyAll_cases es k with hsame | ⟨w, ⟨hmem, -⟩, hput⟩
  · rw [hsame] at hr
    rcases h k r hr with hterminal | hflagged | hle
    · exact .inl hterminal
    · exact .inr (.inl hflagged)
    · exact .inr (.inr (UInt64.le_trans hle hge))
  · obtain rfl := some_unique hput hr
    rcases stamped w hmem with hepoch | hflagged
    · exact .inr (.inr (hepoch ▸ hge))
    · exact .inr (.inl hflagged)

theorem inStep_recover (p : ControlPlane) : InStep p.recover := by
  intro k r hr
  rw [getElem?_recover_replicas] at hr
  obtain ⟨old, -, rfl⟩ := Option.map_eq_some_iff.mp hr
  rcases (withdrawn_recoveredReplica old).settledCopy _ _ with hterminal | ⟨hflagged, -⟩
  · exact .inl hterminal
  · exact .inr (.inl hflagged)

theorem InStep.step {r r' : Runtime} {e : Event} (h : InStep r.plane) (kept : WellKept r)
    (hstep : Step r e r') : InStep r'.plane := by
  rcases kept.records_cases hstep with hsame | ⟨m, out, rfl, rfl, hexec⟩
    | ⟨config, loaded, -, -, -, hrecords⟩
  · exact h.of_records hsame
  · exact (h.applyAll fun w hw => hexec.stamped kept.coherent hw).of_records hexec.records_eq
  · exact (inStep_recover _).of_records hrecords

theorem ReachableRuntime.inStep {r : Runtime} (h : ReachableRuntime r) : InStep r.plane := by
  have hreachable : Reachable Opened (Restrict Step fun _ _ => True) r :=
    Reachable.restrict (fun _ _ => trivial) h
  refine (records_invariant (I := InStep) ?_ ?_ hreachable).2.2
  · intro p _ hempty k replica hreplica
    have hview := abs_replicas hreplica
    rw [hempty] at hview
    cases hview
  · exact fun r e r' hkept _ hstep _ hin => hin.step hkept hstep

end StateFabric
