import StateFabric.Refinement.Faults
import StateFabric.Refinement.Membership
import StateFabric.Refinement.Request

/-!
# What no request rewrites

A replica keeps its generation and the replica set it was enrolled in, a replica set its identity
and its requirements, an operation the policy it was authorized under and what it reserved.  These
are the charters of the records.  Only registrations, the publication of a staged generation and
authorizations write a charter (`Mutation.charters`); every other request, and a restart, leaves
all of them as they are (`Executes.sameCharters`, `Coherent.sameCharters_recover`).
-/

namespace StateFabric

open Protocol Transition OrderedMap MutationInputs ControlPlane

variable {s : ControlPlane} {K : StateKey} {spec : StateGenerationSpec} {o : OperationId}

variable {r r' : Runtime} {p q : ControlPlane} {m : Mutation} {e : Event}

/-! ## Charters -/

/-- An effect that puts a record over one with the same charter; a replica set with the count of
authoritative members it had or the one its members give. -/
def Effect.Conserves (p : ControlPlane) : Effect → Prop
  | .putState s =>
    p.states[s.key]?.map (·.replicationRequirements) = some s.replicationRequirements
  | .putReplica r => p.replicas[r.replicaId]?.map (·.charter) = some r.charter
  | .putReplicaSet s => ∃ set, p.replicaSets[s.key]? = some set ∧ s.charter = set.charter
    ∧ (s.authoritativeCount = set.authoritativeCount
      ∨ s.authoritativeCount = (p.rebuildReplicaSet set).authoritativeCount)
  | .putOperation o => p.operations[o.operationId]?.map (·.charter) = some o.charter
  | _ => True

/-- Two planes with the same generations and replica sets, as far as requirements and identities
go. -/
structure SameSets (p p' : ControlPlane) : Prop where
  states (K : StateKey) : p'.states[K]?.map (·.replicationRequirements)
    = p.states[K]?.map (·.replicationRequirements)
  replicaSets (K : StateKey) :
    p'.replicaSets[K]?.map (·.charter) = p.replicaSets[K]?.map (·.charter)

/-- Two planes with the same charters. -/
structure SameCharters (p p' : ControlPlane) : Prop extends SameSets p p' where
  replicas (k : ReplicaId) : p'.replicas[k]?.map (·.charter) = p.replicas[k]?.map (·.charter)
  operations (o : OperationId) :
    p'.operations[o]?.map (·.charter) = p.operations[o]?.map (·.charter)

theorem SameSets.trans (h : SameSets p q) (h' : SameSets q s) :
    SameSets p s where
  states K := (h'.states K).trans (h.states K)
  replicaSets K := (h'.replicaSets K).trans (h.replicaSets K)

theorem SameCharters.of_records (eq : q.records = p.records) :
    SameCharters p q where
  states K := by rw [states_eq_of_records eq]
  replicas k := by rw [replicas_eq_of_records eq]
  replicaSets K := by rw [replicaSets_eq_of_records eq]
  operations o := by rw [operations_eq_of_records eq]

theorem SameCharters.trans (h : SameCharters p q) (h' : SameCharters q s) :
    SameCharters p s where
  toSameSets := h.toSameSets.trans h'.toSameSets
  replicas k := (h'.replicas k).trans (h.replicas k)
  operations o := (h'.operations o).trans (h.operations o)

section Batches

variable {p : ControlPlane} {es : List Effect}

theorem sameSets_applyAll
    (states : ∀ s, .putState s ∈ es → (Effect.putState s).Conserves p)
    (sets : ∀ s, .putReplicaSet s ∈ es → (Effect.putReplicaSet s).Conserves p) :
    SameSets p (p.applyAll es) where
  states K := by
    rw [applyAll_states]
    refine map_getElem?_insertAll (fun K s hs => ?_) K
    obtain ⟨hput, rfl⟩ := mem_statePuts.mp hs
    exact states s hput
  replicaSets K := by
    rw [applyAll_replicaSets]
    refine map_getElem?_insertAll (fun K s hs => ?_) K
    obtain ⟨hput, rfl⟩ := mem_replicaSetPuts.mp hs
    obtain ⟨set, hset, hcharter, -⟩ := sets s hput
    rw [hset, Option.map_some, hcharter]

theorem sameCharters_applyAll (h : ∀ e ∈ es, e.Conserves p) : SameCharters p (p.applyAll es) where
  toSameSets := sameSets_applyAll (fun _ hs => h _ hs) fun _ hs => h _ hs
  replicas k := by
    rw [applyAll_replicas]
    refine map_getElem?_insertAll (fun k r hr => ?_) k
    obtain ⟨hput, rfl⟩ := mem_replicaPuts.mp hr
    exact h _ hput
  operations o := by
    rw [applyAll_operations]
    refine map_getElem?_insertAll (fun o r hr => ?_) o
    obtain ⟨hput, rfl⟩ := mem_operationPuts.mp hr
    exact h _ hput

end Batches

/-! ## Puts that conserve -/

section Puts

variable {p : ControlPlane} {inputs : MutationInputs}

@[simp] theorem recomputeReplicaSet_charter (s : ReplicaSetRecord) :
    (recomputeReplicaSet s).charter = s.charter := by
  simp only [recomputeReplicaSet]
  split <;> rfl

@[simp] theorem rebuildReplicaSet_charter (s : ReplicaSetRecord) :
    (p.rebuildReplicaSet s).charter = s.charter := recomputeReplicaSet_charter _

theorem Coherent.conserves_putReplica (coherent : Coherent p) {k : ReplicaId}
    {old r : ReplicaRecord} (recorded : p.replicas[k]? = some old)
    (id : r.replicaId = old.replicaId) (charter : r.charter = old.charter) :
    (Effect.putReplica r).Conserves p := by
  simp only [Effect.Conserves, id, (coherent.replicas recorded).1, recorded, charter,
    Option.map_some]

theorem Coherent.conserves_putOperation (coherent : Coherent p) {k : OperationId}
    {old o : OperationRecord} (recorded : p.operations[k]? = some old)
    (id : o.operationId = old.operationId) (charter : o.charter = old.charter) :
    (Effect.putOperation o).Conserves p := by
  simp only [Effect.Conserves, id, (coherent.operations recorded).1, recorded, charter,
    Option.map_some]

theorem Coherent.conserves_putReplicaSet (coherent : Coherent p) {old s : ReplicaSetRecord}
    (recorded : p.replicaSets[K]? = some old) (key : s.key = old.key)
    (charter : s.charter = old.charter) (count : s.authoritativeCount = old.authoritativeCount
      ∨ s.authoritativeCount = (p.rebuildReplicaSet old).authoritativeCount) :
    (Effect.putReplicaSet s).Conserves p := by
  refine ⟨old, ?_, charter, count⟩
  rw [key, (coherent.replicaSets recorded).1]
  exact recorded

/-- The set put of a registered generation conserves: such a generation has its set. -/
theorem Coherent.conserves_bumped (coherent : Coherent inputs.plane)
    (covered : inputs.plane.abs.Covered) (registered : inputs.plane.states[K]?.isSome) (adv : Bool) :
    (Effect.putReplicaSet (inputs.bumped K adv)).Conserves inputs.plane := by
  obtain ⟨set, hset⟩ := Option.isSome_iff_exists.mp (isSome_set covered registered)
  have hcharter : (inputs.bumped K adv).charter = set.charter := by
    simp only [bumped, bumpedReplicaSet, hset]
    exact rebuildReplicaSet_charter set
  refine coherent.conserves_putReplicaSet hset ?_ hcharter (.inr ?_)
  · rw [coherent.bumped_key, (coherent.replicaSets hset).1]
  · simp only [bumped, bumpedReplicaSet, hset]

theorem Put.conserves {about : StateId → Prop} {e : Effect} (h : Put inputs m about e)
    (coherent : Coherent inputs.plane) (covered : inputs.plane.abs.Covered)
    (plain : m.charters = false) : e.Conserves inputs.plane := by
  have hdeclares : m.declares ≠ true := by
    cases m <;> simp_all [Mutation.declares, Mutation.charters]
  cases h with
  | counters | next | epoch | ownership => trivial
  | shared kind => cases e <;> first | exact kind.elim | trivial
  | state recorded key requirements =>
    simp only [Effect.Conserves, key, coherent.states recorded, recorded, requirements,
      Option.map_some]
  | replica recorded revised =>
    exact coherent.conserves_putReplica recorded revised.id revised.charter
  | bump registered _ adv => exact coherent.conserves_bumped covered registered adv
  | set recorded key charter count =>
    exact coherent.conserves_putReplicaSet recorded key charter (.inl count)
  | operation recorded id terms =>
    exact coherent.conserves_putOperation recorded id (OperationRecord.charter_eq_of_terms terms)
  | newState declares _ | newSet declares _ _ => exact absurd declares hdeclares
  | newReplica charters => simp [plain] at charters
  | planned asks =>
    have hcharters := Mutation.charters_of_transfer asks
    simp [plain] at hcharters

/-- What a request puts over a generation conserves unless the request declares it. -/
theorem Put.conserves_state {about : StateId → Prop} {s : StateGenerationRecord}
    (h : Put inputs m about (.putState s)) (coherent : Coherent inputs.plane)
    (plain : m.declares = false) : (Effect.putState s).Conserves inputs.plane := by
  cases h with
  | shared kind => exact kind.elim
  | state recorded key requirements =>
    simp only [Effect.Conserves, key, coherent.states recorded, recorded, requirements,
      Option.map_some]
  | newState declares => simp [plain] at declares
  | planned _ _ put => simp [TransferPlan.effects, bumpReplicaSetEffect] at put

/-- Every set a request puts conserves, or is the empty set of a new generation. -/
theorem Put.conserves_set {about : StateId → Prop} {s : ReplicaSetRecord}
    (h : Put inputs m about (.putReplicaSet s)) (coherent : Coherent inputs.plane)
    (covered : inputs.plane.abs.Covered) :
    (Effect.putReplicaSet s).Conserves inputs.plane
      ∨ (m.declares = true ∧ s.authoritativeCount = 0) := by
  cases h with
  | shared kind => exact kind.elim
  | bump registered _ adv => exact .inl (coherent.conserves_bumped covered registered adv)
  | set recorded key charter count =>
    exact .inl (coherent.conserves_putReplicaSet recorded key charter (.inl count))
  | newSet declares _ empty => exact .inr ⟨declares, empty⟩
  | planned _ made put _ =>
    have derived := planTransfer_derived made
    simp only [TransferPlan.effects, bumpReplicaSetEffect, List.mem_cons, reduceCtorEq,
      Effect.putReplicaSet.injEq, List.not_mem_nil, or_false, false_or] at put
    refine .inl (put ▸ coherent.conserves_bumped covered ?_ false)
    exact Option.isSome_of_eq_some (derived.key ▸ derived.state)

end Puts

section Requests

variable {r : Runtime} {m : Mutation} {out : Outcome Response} (h : Executes r m out)
  (coherent : Coherent r.plane) (covered : r.plane.abs.Covered)

include h coherent covered

theorem Executes.sameCharters (plain : m.charters = false) :
    SameCharters r.plane (r.after m).plane :=
  (sameCharters_applyAll fun e he =>
    (h.puts coherent e he).conserves coherent covered plain).trans (.of_records h.records_eq)

/-- What a request that writes no requirements puts leaves those of the generations and the
charters of their sets alone. -/
theorem Executes.sameSets_effects (plain : m.declares = false) :
    SameSets r.plane (r.plane.applyAll out.effects) := by
  refine sameSets_applyAll (fun s hs => ?_) fun s hs => ?_
  · exact (h.puts coherent _ hs).conserves_state coherent plain
  · rcases (h.puts coherent _ hs).conserves_set coherent covered with hconserves | ⟨hdeclares, -⟩
    · exact hconserves
    · simp [plain] at hdeclares

theorem Executes.sameSets (plain : m.declares = false) : SameSets r.plane (r.after m).plane :=
  (h.sameSets_effects coherent covered plain).trans (SameCharters.of_records h.records_eq).toSameSets

end Requests

/-! ## The requests that write a charter -/

section Creators

variable {inputs : MutationInputs}

/-- An authorization enrols its destination in the set of the generation. -/
theorem authorizeTransaction_charters {request : TransferRequest}
    {out : Outcome TransferAuthorization} (h : authorizeTransaction request inputs = .ok out) :
    ∃ r ops set, ReplicaBatch inputs r false ops out.effects
      ∧ inputs.plane.states[r.key]?.isSome ∧ inputs.plane.replicaSets[r.key]? = some set
      ∧ r.replicaSetId = set.replicaSetId := by
  obtain ⟨plan, derived, heffects, -⟩ := authorizeTransaction_planned h
  obtain ⟨stored, hstored, hset⟩ := derived.set
  have hcharter : plan.set.charter = stored.charter := hset ▸ rebuildReplicaSet_charter stored
  rw [← derived.key] at hstored
  exact ⟨plan.destination inputs, [plan.operation inputs], stored,
    heffects ▸ plan.batch inputs, Option.isSome_of_eq_some (derived.key ▸ derived.state),
    hstored, congrArg Prod.fst hcharter⟩

end Creators

/-! ## Restarts -/

theorem restartedOperation_charter (operation : OperationRecord) (epoch : CoordinatorEpoch)
    (tick : Tick) : (restartedOperation operation epoch tick).charter = operation.charter := by
  unfold restartedOperation
  split
  · rfl
  · exact OperationRecord.note_charter _ _

theorem Coherent.sameCharters_recover (h : Coherent p) :
    SameCharters p p.recover where
  states K := by rw [recover_states]
  replicas k := by
    cases hr : p.replicas[k]? with
    | none => rw [getElem?_recover_replicas, hr, Option.map_none]
    | some =>
      obtain ⟨r', hr', -, -, hkey, -, hset, -⟩ := recover_replica hr
      rw [hr', Option.map_some, Option.map_some, ReplicaRecord.charter, hkey, hset]
      rfl
  replicaSets K := by
    rw [getElem?_recover_replicaSets, Option.map_map]
    cases p.replicaSets[K]? with
    | none => rfl
    | some => exact congrArg some (rebuildReplicaSet_charter _)
  operations o := by
    obtain ⟨tick, htick⟩ := h.getElem?_recover_operations o
    rw [htick, Option.map_map]
    exact congrArg (Option.map · _) (funext fun _ => restartedOperation_charter ..)

theorem WellKept.sameCharters (h : WellKept r) (covered : r.plane.abs.Covered) (hstep : Step r e r')
    (plain : ∀ m, e = .mutation m → m.charters = false) : SameCharters r.plane r'.plane := by
  rcases h.records_cases hstep with hsame | ⟨m, out, rfl, rfl, hexec⟩
    | ⟨config, loaded, rfl, hloaded, hcoherent, hrecords⟩
  · exact .of_records hsame
  · exact hexec.sameCharters h.coherent covered (plain m rfl)
  · have hconfigured : SameCharters loaded (loaded.configure config) :=
      ⟨⟨fun _ => rfl, fun _ => rfl⟩, fun _ => rfl, fun _ => rfl⟩
    exact (SameCharters.of_records hloaded).trans
      (hconfigured.trans (hcoherent.sameCharters_recover.trans (.of_records hrecords)))

/-- A step that is no request that writes requirements leaves those of the generations and the
charters of their sets alone. -/
theorem WellKept.sameSets (h : WellKept r) (covered : r.plane.abs.Covered) (hstep : Step r e r')
    (plain : ∀ m, e = .mutation m → m.declares = false) : SameSets r.plane r'.plane := by
  rcases h.records_cases hstep with hsame | ⟨m, out, rfl, rfl, hexec⟩ | ⟨config, -, rfl, -⟩
  · exact (SameCharters.of_records hsame).toSameSets
  · exact hexec.sameSets h.coherent covered (plain m rfl)
  · exact (h.sameCharters covered hstep (by simp)).toSameSets

/-! ## Operations -/

/-- An operation a request puts keeps the terms of the recorded one, or is authorized by it. -/
theorem Put.operation_cases {inputs : MutationInputs} {about : StateId → Prop} {w : OperationRecord}
    (h : Put inputs m about (.putOperation w)) (coherent : Coherent inputs.plane) :
    inputs.plane.operations[w.operationId]?.map (·.terms) = some w.terms
      ∨ (m.isAuthorization = true ∧ w.operationId.value = inputs.plane.nextId) := by
  cases h with
  | shared kind => exact kind.elim
  | operation recorded id terms =>
    left
    rw [id, (coherent.operations recorded).1, recorded, Option.map_some, terms]
  | planned asks _ put _ =>
    refine .inr ⟨Mutation.isAuthorization_of_transfer asks, ?_⟩
    simp only [TransferPlan.effects, bumpReplicaSetEffect, List.mem_cons, reduceCtorEq,
      Effect.putOperation.injEq, List.not_mem_nil, or_false] at put
    rw [put]
    rfl

theorem restartedOperation_terms (o : OperationRecord) (epoch : CoordinatorEpoch) (tick : Tick) :
    (restartedOperation o epoch tick).terms = o.terms := by
  unfold restartedOperation
  split
  · rfl
  · exact OperationRecord.note_terms _ _

/-- An operation keeps its terms through every step that does not authorize it anew. -/
theorem WellKept.operation_terms (h : WellKept r) (hstep : Step r e r')
    (anew : ∀ m, e = .mutation m → m.isAuthorization = true → r.plane.nextId ≠ o.value) :
    r'.plane.operations[o]?.map (·.terms) = r.plane.operations[o]?.map (·.terms) := by
  rcases h.operation_cases hstep o with hsame | ⟨m, out, w, rfl, hexec, hput, rfl, hw⟩
    | ⟨epoch, tick, hrestarted⟩
  · rw [hsame]
  · rcases (hexec.puts h.coherent _ hput).operation_cases h.coherent with
      hterms | ⟨hauthorizes, hid⟩
    · rw [hw, Option.map_some]
      exact hterms.symm
    · exact absurd hid.symm (anew m rfl hauthorizes)
  · rw [hrestarted, Option.map_map]
    exact congrArg (Option.map · _) (funext fun _ => restartedOperation_terms ..)

theorem WellKept.operation_charter (h : WellKept r) (hstep : Step r e r')
    (anew : ∀ m, e = .mutation m → m.isAuthorization = true → r.plane.nextId ≠ o.value) :
    r'.plane.operations[o]?.map (·.charter) = r.plane.operations[o]?.map (·.charter) := by
  have hterms := congrArg (Option.map OperationRecord.charter) (h.operation_terms hstep anew)
  simp only [Option.map_map] at hterms
  exact hterms

/-! ## Invariants of the records -/

/-- An invariant of the records that every step meeting a condition keeps holds in every runtime
such steps reach; the plane is well kept and every generation has its set. -/
theorem records_invariant {ok : Runtime → Event → Prop} {I : ControlPlane → Prop}
    (start : ∀ p : ControlPlane, Coherent p → p.abs = Plane.empty → I p)
    (keep : ∀ r e r', WellKept r → r.plane.abs.Covered → Step r e r' → ok r e →
      I r.plane → I r'.plane) (h : Reachable Opened (Restrict Step ok) r) :
    WellKept r ∧ r.plane.abs.Covered ∧ I r.plane := by
  refine h.invariant (I := fun r => WellKept r ∧ r.plane.abs.Covered ∧ I r.plane) ?_ ?_
  · intro r hr
    obtain ⟨hkept, hempty⟩ := hr.start
    exact ⟨hkept, hempty ▸ (fun _ _ hs => by cases hs), start _ hkept.coherent hempty⟩
  · rintro r e r' ⟨hstep, hok⟩ ⟨hkept, hcovered, hI⟩
    obtain ⟨hkept', hprotocol⟩ := hkept.step hstep
    exact ⟨hkept', hprotocol.covered hcovered, keep r e r' hkept hcovered hstep hok hI⟩

end StateFabric
