import StateFabric.Refinement.Coherent

/-!
# Batches about one replica

Most mutations write one replica, the set of its generation, perhaps an operation, and
bookkeeping.  `ReplicaBatch` is that shape; it reduces the lawfulness of such a mutation to
one move of the replica and one of each operation.
-/

namespace StateFabric

open Protocol ControlPlane OrderedMap

variable {o : OperationRecord} {p' : Plane} {ops : List OperationRecord} {id : OperationId}
  {next : OperationState}

variable {a : Action} {inputs : MutationInputs} {p : ControlPlane} {es silent : List Effect}

/-- A batch whose puts are moves and are grounded. -/
structure Admissible (a : Action) (p : ControlPlane) (es : List Effect) : Prop where
  lawful : Lawful a p es
  grounded : Grounded p es

/-- Effects that put none of the records authority depends on. -/
def Effect.Silent : Effect → Prop
  | .putState _ | .putCluster _ | .putReplica _ | .putReplicaSet _ | .putOperation _
  | .putOwnership _ => False
  | _ => True

theorem admissible_of_silent (silent : ∀ e ∈ es, e.Silent) : Admissible a p es where
  lawful := by constructor <;> exact fun _ h => (silent _ h).elim
  grounded := by constructor <;> exact fun _ h => (silent _ h).elim

/-- The set put of `bump_replica_set_effect`, in the terms of the inputs. -/
def MutationInputs.bumped (inputs : MutationInputs) (K : StateKey) (adv : Bool) :
    ReplicaSetRecord :=
  bumpedReplicaSet inputs.plane K inputs.tick inputs.plane.coordinatorEpoch adv

theorem Coherent.bumped_key (coherent : Coherent inputs.plane) (K : StateKey) (adv : Bool) :
    (inputs.bumped K adv).key = K :=
  coherent.bumpedReplicaSet_key ..

theorem Coherent.bumped_generation (coherent : Coherent inputs.plane) {K : StateKey}
    {set : ReplicaSetRecord}
    (hset : inputs.plane.replicaSets[(inputs.bumped K true).key]? = some set) :
    (inputs.bumped K true).generation.value = set.generation.value + 1 := by
  rw [coherent.bumped_key] at hset
  exact bumpedReplicaSet_advances _ _ hset

/-- Operation puts, one replica put, the put of its set, and bookkeeping. -/
structure ReplicaBatch (inputs : MutationInputs) (r : ReplicaRecord) (adv : Bool)
    (ops : List OperationRecord) (es : List Effect) : Prop where
  shape : ∀ e ∈ es, (∃ o ∈ ops, e = .putOperation o) ∨ e = .putReplica r
    ∨ e = .putReplicaSet (inputs.bumped r.key adv) ∨ e.Silent
  replica : .putReplica r ∈ es
  set : .putReplicaSet (inputs.bumped r.key adv) ∈ es
  operations : ∀ o ∈ ops, .putOperation o ∈ es

namespace ReplicaBatch

variable {inputs : MutationInputs} {r : ReplicaRecord} {adv : Bool} {ops : List OperationRecord}
  {es : List Effect}

section

variable (b : ReplicaBatch inputs r adv ops es)
include b

theorem not_mem_putState (s : StateGenerationRecord) : .putState s ∉ es := fun h => by
  simpa [Effect.Silent] using b.shape _ h

theorem not_mem_putCluster (c : ClusterRecord) : .putCluster c ∉ es := fun h => by
  simpa [Effect.Silent] using b.shape _ h

theorem not_mem_putOwnership (o : OwnershipRecord) : .putOwnership o ∉ es := fun h => by
  simpa [Effect.Silent] using b.shape _ h

theorem eq_of_mem_putReplica {w : ReplicaRecord} (h : .putReplica w ∈ es) : w = r := by
  simpa [Effect.Silent] using b.shape _ h

theorem eq_of_mem_putReplicaSet {s : ReplicaSetRecord} (h : .putReplicaSet s ∈ es) :
    s = inputs.bumped r.key adv := by
  simpa [Effect.Silent] using b.shape _ h

theorem mem_of_mem_putOperation (h : .putOperation o ∈ es) : o ∈ ops := by
  simpa [Effect.Silent] using b.shape _ h

/-! ## The plane after the batch -/

theorem clusters_applyAll : (inputs.plane.applyAll es).clusters = inputs.plane.clusters :=
  clusters_applyAll_of_not_mem b.not_mem_putCluster

theorem replicas_applyAll :
    (inputs.plane.applyAll es).replicas = inputs.plane.replicas.insert r.replicaId r :=
  replicas_applyAll_of_put b.replica fun _ => b.eq_of_mem_putReplica

theorem hosts {v : ReplicaView} (h : inputs.plane.abs.Hosts v) :
    (inputs.plane.applyAll es).abs.Hosts v := by
  rwa [Plane.Hosts, ControlPlane.abs, b.clusters_applyAll]

theorem ownership_eq : (inputs.plane.applyAll es).abs.ownership = inputs.plane.abs.ownership := by
  simp only [ControlPlane.abs, ownership_applyAll_of_not_mem b.not_mem_putOwnership]

theorem replica_eq : (inputs.plane.applyAll es).abs.replicas r.replicaId = some r.view :=
  abs_replicas_applyAll b.replica fun w hw _ => by rw [b.eq_of_mem_putReplica hw]

end

theorem advances (b : ReplicaBatch inputs r true ops es) (coherent : Coherent inputs.plane) :
    inputs.plane.abs.Advances (inputs.plane.applyAll es).abs r.key := by
  have adv : Advancing inputs.plane es := by
    intro s hs set hset
    obtain rfl := b.eq_of_mem_putReplicaSet hs
    exact coherent.bumped_generation hset
  exact adv.advances fun _ _ => ⟨_, b.set, coherent.bumped_key ..⟩

/-! ## Admissibility -/

theorem lawful (b : ReplicaBatch inputs r adv ops es) (coherent : Coherent inputs.plane)
    (replica : ReplicaMove a inputs.plane.abs (inputs.plane.applyAll es).abs r.replicaId
      (inputs.plane.replicas[r.replicaId]?.map (·.view)) r.view)
    (operations : ∀ o ∈ ops, OperationMove a inputs.plane.abs (inputs.plane.applyAll es).abs
      o.operationId (inputs.plane.operations[o.operationId]?.map (·.view)) o.view) :
    Lawful a inputs.plane es where
  states s hs := absurd hs (b.not_mem_putState s)
  clusters c hc := absurd hc (b.not_mem_putCluster c)
  replicas w hw := by
    obtain rfl := b.eq_of_mem_putReplica hw
    exact replica
  sets s hs := by
    obtain rfl := b.eq_of_mem_putReplicaSet hs
    exact coherent.bumpedReplicaSet_setMove ..
  operations o ho := operations o (b.mem_of_mem_putOperation ho)
  ownership o ho := absurd ho (b.not_mem_putOwnership o)

/-- The batch is grounded when its replica and its operations are; it puts the set itself. -/
theorem grounded (b : ReplicaBatch inputs r adv ops es) (coherent : Coherent inputs.plane)
    (state : inputs.plane.states[r.key]?.isSome)
    (cluster : inputs.plane.clusters[r.location.clusterId]?.isSome)
    (operations : ∀ o ∈ ops, inputs.plane.states[o.key]?.isSome) : Grounded inputs.plane es where
  replicas w hw := by
    obtain rfl := b.eq_of_mem_putReplica hw
    have hset := isSome_replicaSets_of_put (p := inputs.plane) b.set
    rw [coherent.bumped_key] at hset
    exact ⟨isSome_states_applyAll es state, isSome_clusters_applyAll es cluster, fun _ => hset⟩
  replicaSets s hs := by
    obtain rfl := b.eq_of_mem_putReplicaSet hs
    exact replicaSet_groundedIn_applyAll es (coherent.bumpedReplicaSet_grounded _ _ _ state)
  operations o ho := isSome_states_applyAll es (operations o (b.mem_of_mem_putOperation ho))
  ownership o ho := absurd ho (b.not_mem_putOwnership o)

theorem of_list (inputs : MutationInputs) (r : ReplicaRecord) (adv : Bool)
    (ops : List OperationRecord) (hsilent : ∀ e ∈ silent, e.Silent) :
    ReplicaBatch inputs r adv ops
      (ops.map .putOperation ++ .putReplica r :: bumpReplicaSetEffect inputs r.key adv :: silent)
    where
  shape e he := by
    rcases List.mem_append.mp he with he | he
    · obtain ⟨o, ho, rfl⟩ := List.mem_map.mp he
      exact .inl ⟨o, ho, rfl⟩
    · rcases List.mem_cons.mp he with rfl | he
      · exact .inr (.inl rfl)
      · rcases List.mem_cons.mp he with rfl | he
        · exact .inr (.inr (.inl rfl))
        · exact .inr (.inr (.inr (hsilent e he)))
  replica := List.mem_append_right _ List.mem_cons_self
  set := List.mem_append_right _ (List.mem_cons_of_mem _ List.mem_cons_self)
  operations o ho := List.mem_append_left _ (List.mem_map_of_mem ho)

theorem of_effects (r : ReplicaRecord) (adv : Bool) (ops : List OperationRecord)
    (effects : es = ops.map .putOperation
      ++ .putReplica r :: bumpReplicaSetEffect inputs r.key adv :: silent)
    (hsilent : ∀ e ∈ silent, e.Silent) : ReplicaBatch inputs r adv ops es :=
  effects ▸ of_list inputs r adv ops hsilent

/-- The batch is admissible when its replica and its operations make moves and are grounded. -/
theorem admissible (b : ReplicaBatch inputs r adv ops es) (coherent : Coherent inputs.plane)
    (state : inputs.plane.states[r.key]?.isSome)
    (cluster : inputs.plane.clusters[r.location.clusterId]?.isSome)
    (replica : ReplicaMove a inputs.plane.abs (inputs.plane.applyAll es).abs r.replicaId
      (inputs.plane.replicas[r.replicaId]?.map (·.view)) r.view)
    (operations : ∀ o ∈ ops, OperationMove a inputs.plane.abs (inputs.plane.applyAll es).abs
        o.operationId (inputs.plane.operations[o.operationId]?.map (·.view)) o.view
      ∧ inputs.plane.states[o.key]?.isSome) : Admissible a inputs.plane es :=
  ⟨b.lawful coherent replica fun o ho => (operations o ho).1,
    b.grounded coherent state cluster fun o ho => (operations o ho).2⟩

end ReplicaBatch

/-! ## Operations a report moves on -/

/-- An operation put that moves the live operation of an identity to a given state. -/
structure Advanced (p : ControlPlane) (id : OperationId) (next : OperationState)
    (o : OperationRecord) : Prop where
  id_eq : o.operationId = id
  moved : ∃ old, p.operations[id]? = some old ∧ old.isTerminal = false
    ∧ o.view = { old.view with state := next }

namespace Advanced

variable {p : ControlPlane} {id : OperationId} {next : OperationState} {o : OperationRecord}

theorem move (h : Advanced p id next o) (act : a.MovesOn id next) (incomplete : next ≠ .complete) :
    OperationMove a p.abs p' o.operationId (p.operations[o.operationId]?.map (·.view)) o.view := by
  obtain ⟨old, hold, hlive, hview⟩ := h.moved
  rw [h.id_eq, hold, hview]
  exact .advance old.view next act (OperationRecord.not_terminal hlive) incomplete

theorem view_of_recorded (h : Advanced p id next o) {old : OperationRecord}
    (hold : p.operations[id]? = some old) : o.view = { old.view with state := next } := by
  obtain ⟨old', hold', -, hview⟩ := h.moved
  rw [hview, some_unique hold' hold]

theorem registered (h : Advanced p id next o) (coherent : Coherent p) :
    p.states[o.key]?.isSome := by
  obtain ⟨old, hold, -, hview⟩ := h.moved
  have hkey : o.key = old.key := congrArg OperationView.key hview
  rw [hkey]
  exact (coherent.operations hold).2

end Advanced

/-- An operation that a batch moves on to a terminal state, or leaves terminal, is terminal after
it. -/
theorem ReplicaBatch.terminal_of_advanced {r : ReplicaRecord} {adv : Bool}
    (b : ReplicaBatch inputs r adv ops es) (hops : ∀ o ∈ ops, Advanced inputs.plane id next o)
    (ends : ∀ op : OperationView, ({ op with state := next } : OperationView).Terminal)
    (terminal : ops = [] →
      ∀ o, inputs.plane.operations[id]? = some o → o.isTerminal = true) {op : OperationView}
    (hop : (inputs.plane.applyAll es).abs.operations id = some op) : op.Terminal := by
  obtain ⟨o, ho, rfl⟩ := abs_operations_eq_some.mp hop
  cases ops with
  | nil =>
    rcases inputs.plane.operations_applyAll_cases es id with hsame | ⟨w, ⟨hw, -⟩, -⟩
    · exact (o.isTerminal_iff).mp (terminal rfl o (hsame ▸ ho))
    · simpa using b.mem_of_mem_putOperation hw
  | cons w =>
    rw [applyAll_operations] at ho
    have hw := mem_operationPuts.mpr ⟨b.operations w List.mem_cons_self, (hops w (by simp)).id_eq⟩
    obtain ⟨o', ho', hterminal⟩ := OrderedMap.exists_getElem?_insertAll
      (m := inputs.plane.operations) (P := fun o => o.view.Terminal) hw fun o' hmem => by
        have hput := b.mem_of_mem_putOperation (mem_operationPuts.mp hmem).1
        obtain ⟨old, -, -, hview⟩ := (hops o' hput).moved
        exact hview ▸ ends old.view
    exact some_unique ho' ho ▸ hterminal

/-- Operations a report moves on make moves, and their generations stay registered. -/
theorem advanced_operations (coherent : Coherent p) (hops : ∀ o ∈ ops, Advanced p id next o)
    (act : a.MovesOn id next) (incomplete : next ≠ .complete) :
    ∀ o ∈ ops, OperationMove a p.abs p' o.operationId
        (p.operations[o.operationId]?.map (·.view)) o.view
      ∧ p.states[o.key]?.isSome :=
  fun o ho => ⟨(hops o ho).move act incomplete, (hops o ho).registered coherent⟩

/-- `advance_operation` moves at most the named operation on, and only while it is live. -/
theorem advanceOperation_spec (coherent : Coherent inputs.plane) (operationId : OperationId)
    (generation : OperationGeneration) (next : OperationState) (note : Text) :
    ∃ ops : List OperationRecord,
      advanceOperation inputs operationId generation next note = ops.map .putOperation
        ∧ ops.length ≤ 1 ∧ ∀ o ∈ ops, Advanced inputs.plane operationId next o := by
  unfold advanceOperation
  cases hop : inputs.plane.operations[operationId]? with
  | none => exact ⟨[], rfl, by simp, by simp⟩
  | some old =>
    have hid := (coherent.operations hop).1
    cases hlive : old.isTerminal with
    | true => exact ⟨[], by simp [hlive], by simp, by simp⟩
    | false =>
      by_cases hgen : (generation.valid && old.operationGeneration != generation) = true
      · exact ⟨[], by simp [hlive, hgen], by simp, by simp⟩
      · refine ⟨[_], by simp only [hlive, hgen]; rfl, le_rfl, ?_⟩
        intro o ho
        obtain rfl := List.mem_singleton.mp ho
        refine ⟨?_, old, hop, hlive, ?_⟩
        · rw [OperationRecord.note_operationId]
          exact hid
        · rw [OperationRecord.note_view]
          rfl

theorem admissible_of_operation (effects : es = .putOperation o :: silent)
    (hsilent : ∀ e ∈ silent, e.Silent) (move : ∀ p', OperationMove a p.abs p' o.operationId
      (p.operations[o.operationId]?.map (·.view)) o.view) (registered : p.states[o.key]?.isSome) :
    Admissible a p es := by
  have kinds : ∀ e ∈ es, e = .putOperation o ∨ e.Silent := by
    intro e he
    rw [effects] at he
    exact (List.mem_cons.mp he).imp_right (hsilent e)
  have operation : ∀ r, .putOperation r ∈ es → r = o := fun r hr =>
    (kinds _ hr).elim Effect.putOperation.inj False.elim
  refine ⟨⟨?_, ?_, ?_, ?_, fun r hr => operation r hr ▸ move _, ?_⟩,
    ⟨?_, ?_, fun r hr => operation r hr ▸ isSome_states_applyAll es registered, ?_⟩⟩
  all_goals exact fun _ hr => absurd (kinds _ hr) (by simp [Effect.Silent])

end StateFabric
