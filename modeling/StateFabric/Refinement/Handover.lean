import StateFabric.Refinement.Replica
import StateFabric.Fabric.Operation

/-!
# Batches that make a copy authoritative

A replica commit, an operation commit and an ownership handoff write the new authoritative
copy and, as the case may be, demote the previous owner, record the new one, retire a source
and complete an operation.  One batch may put the same replica twice: the previous owner that
a destructive move demotes is usually the source it then retires.
-/

namespace StateFabric

open Protocol ControlPlane MutationInputs

variable {o : OwnershipRecord} {d : ReplicaRecord} {a : Action} {p : ControlPlane} {K : StateKey}
  {k : ReplicaId}

variable {inputs : MutationInputs}

/-- What such a batch contains. -/
structure Handover where
  /-- The copy that becomes authoritative, as it is put. -/
  target : ReplicaRecord
  /-- The previous owner, as it was. -/
  demoted : Option ReplicaRecord := none
  demotion : Text := []
  /-- The source of a destructive move, as it was. -/
  retired : Option ReplicaRecord := none
  ownership : Option OwnershipRecord := none
  operation : Option OperationRecord := none
  bookkeeping : List Effect := []

/-- The reason recorded for a retired source. -/
def retirement : Text := text "retired after a legal destination commit"

/-- A batch with the contents of a handover, in some order. -/
structure HandoverBatch (inputs : MutationInputs) (h : Handover) (es : List Effect) : Prop where
  mem : ∀ e, e ∈ es ↔ (∃ d ∈ h.demoted, e = .putReplica (demotedReplica inputs d h.demotion))
    ∨ e = .putReplica h.target ∨ e = .putReplicaSet (inputs.bumped h.target.key true)
    ∨ (∃ o ∈ h.ownership, e = .putOwnership o)
    ∨ (∃ s ∈ h.retired, e = .putReplica (retiredReplica inputs s retirement)
      ∨ e = .putReplicaSet (inputs.bumped s.key true))
    ∨ (∃ o ∈ h.operation, e = .putOperation o) ∨ e ∈ h.bookkeeping
  silent : ∀ e ∈ h.bookkeeping, e.Silent
  demoted : ∀ d ∈ h.demoted, inputs.plane.replicas[d.replicaId]? = some d
    ∧ d.isTerminal = false ∧ d.replicaId ≠ h.target.replicaId
  retired : ∀ s ∈ h.retired, inputs.plane.replicas[s.replicaId]? = some s
    ∧ s.isTerminal = false ∧ s.replicaId ≠ h.target.replicaId

namespace HandoverBatch

variable {h : Handover} {es : List Effect}

section

variable (b : HandoverBatch inputs h es)
include b

theorem not_mem_putState (s : StateGenerationRecord) : .putState s ∉ es := by
  intro hs
  have hsilent := b.silent (.putState s)
  simp only [b.mem] at hs
  simp_all [Effect.Silent]

theorem not_mem_putCluster (c : ClusterRecord) : .putCluster c ∉ es := by
  intro hc
  have hsilent := b.silent (.putCluster c)
  simp only [b.mem] at hc
  simp_all [Effect.Silent]

theorem mem_putReplica {w : ReplicaRecord} :
    .putReplica w ∈ es ↔ (∃ d ∈ h.demoted, w = demotedReplica inputs d h.demotion)
      ∨ w = h.target ∨ ∃ s ∈ h.retired, w = retiredReplica inputs s retirement := by
  have hsilent : .putReplica w ∉ h.bookkeeping := fun hw => b.silent _ hw
  simp [b.mem, hsilent]

theorem mem_putReplicaSet {s : ReplicaSetRecord} :
    .putReplicaSet s ∈ es ↔ s = inputs.bumped h.target.key true
      ∨ ∃ r ∈ h.retired, s = inputs.bumped r.key true := by
  have hsilent : .putReplicaSet s ∉ h.bookkeeping := fun hs => b.silent _ hs
  simp [b.mem, hsilent]

theorem mem_putOwnership : .putOwnership o ∈ es ↔ h.ownership = some o := by
  have hsilent : .putOwnership o ∉ h.bookkeeping := fun ho => b.silent _ ho
  simp [b.mem, hsilent]

theorem mem_putOperation {o : OperationRecord} : .putOperation o ∈ es ↔ h.operation = some o := by
  have hsilent : .putOperation o ∉ h.bookkeeping := fun ho => b.silent _ ho
  simp [b.mem, hsilent]

/-! ## The plane after the batch -/

theorem hosts {v : ReplicaView} (hv : inputs.plane.abs.Hosts v) :
    (inputs.plane.applyAll es).abs.Hosts v := by
  unfold Plane.Hosts
  simp only [ControlPlane.abs, clusters_applyAll_of_not_mem b.not_mem_putCluster]
  exact hv

theorem target_eq :
    (inputs.plane.applyAll es).abs.replicas h.target.replicaId = some h.target.view := by
  refine abs_replicas_applyAll (b.mem_putReplica.mpr (.inr (.inl rfl))) ?_
  intro w hw hid
  rcases b.mem_putReplica.mp hw with ⟨d, hd, rfl⟩ | rfl | ⟨s, hs, rfl⟩
  · exact absurd hid (b.demoted d hd).2.2
  · rfl
  · exact absurd hid (b.retired s hs).2.2

/-- The demoted owner, retired or not, no longer has owner authority. -/
theorem yields (hd : d ∈ h.demoted) :
    ∃ v, (inputs.plane.applyAll es).abs.replicas d.replicaId = some v
      ∧ v.authority ≠ .authoritativeOwner := by
  have hput : .putReplica (demotedReplica inputs d h.demotion) ∈ es :=
    b.mem_putReplica.mpr (.inl ⟨d, hd, rfl⟩)
  refine exists_abs_replicas_applyAll (r := demotedReplica inputs d h.demotion) hput ?_
  intro w hw hid
  rcases b.mem_putReplica.mp hw with ⟨d', -, rfl⟩ | rfl | ⟨s, -, rfl⟩
  · simp [ReplicaRecord.view, demotedReplica]
  · exact absurd hid.symm (b.demoted d hd).2.2
  · simp [ReplicaRecord.view, retiredReplica]

theorem owns (ho : h.ownership = some o) :
    (inputs.plane.applyAll es).abs.ownership o.key = some o.view := by
  refine abs_ownership_applyAll (b.mem_putOwnership.mpr ho) ?_
  intro w hw
  rw [b.mem_putOwnership.mp hw] at ho
  exact Option.some.inj ho

variable (coherent : Coherent inputs.plane)
include coherent

theorem advancing : Advancing inputs.plane es := by
  intro s hs set hset
  rcases b.mem_putReplicaSet.mp hs with rfl | ⟨r, -, rfl⟩
  · exact coherent.bumped_generation hset
  · exact coherent.bumped_generation hset

theorem advances_target :
    inputs.plane.abs.Advances (inputs.plane.applyAll es).abs h.target.key :=
  (b.advancing coherent).advances fun _ _ =>
    ⟨_, b.mem_putReplicaSet.mpr (.inl rfl), coherent.bumped_key ..⟩

theorem advances_retired {s : ReplicaRecord} (hs : s ∈ h.retired) :
    inputs.plane.abs.Advances (inputs.plane.applyAll es).abs s.key :=
  (b.advancing coherent).advances fun _ _ =>
    ⟨_, b.mem_putReplicaSet.mpr (.inr ⟨s, hs, rfl⟩), coherent.bumped_key ..⟩

/-! ## Admissibility -/

theorem lawful
    (target : ReplicaMove a inputs.plane.abs (inputs.plane.applyAll es).abs h.target.replicaId
      (inputs.plane.replicas[h.target.replicaId]?.map (·.view)) h.target.view)
    (demotes : ∀ d ∈ h.demoted, inputs.plane.abs.Owns h.target.key d.replicaId
      ∧ ((∃ o op w, a = .complete o ∧ inputs.plane.abs.operations o = some op
        ∧ inputs.plane.abs.replicas op.destination = some w ∧ w.key = h.target.key)
        ∨ ∃ n, a = .handoff h.target.key n)) (retires : ∀ s ∈ h.retired, ∃ o op w, a = .complete o
      ∧ inputs.plane.abs.operations o = some op ∧ op.destructive = true ∧ op.source = s.replicaId
      ∧ op.destination ≠ s.replicaId ∧ inputs.plane.abs.replicas op.destination = some w
      ∧ (op.kind = .migration →
        (inputs.plane.applyAll es).abs.Owns w.key op.destination))
    (ownership : ∀ o ∈ h.ownership, OwnershipMove a inputs.plane.abs
      (inputs.plane.applyAll es).abs o.key (inputs.plane.ownership[o.key]?.map (·.view)) o.view)
    (operation : ∀ o ∈ h.operation, OperationMove a inputs.plane.abs
      (inputs.plane.applyAll es).abs o.operationId
      (inputs.plane.operations[o.operationId]?.map (·.view)) o.view) :
    Lawful a inputs.plane es where
  states s hs := absurd hs (b.not_mem_putState s)
  clusters c hc := absurd hc (b.not_mem_putCluster c)
  replicas w hw := by
    rcases b.mem_putReplica.mp hw with ⟨d, hd, rfl⟩ | rfl | ⟨s, hs, rfl⟩
    · obtain ⟨hrecorded, hlive, -⟩ := b.demoted d hd
      obtain ⟨howns, hact⟩ := demotes d hd
      change ReplicaMove _ _ _ d.replicaId (inputs.plane.replicas[d.replicaId]?.map _) _
      rw [hrecorded]
      exact .demote d.view h.target.key hact (ReplicaRecord.not_terminal hlive) howns
        (b.advances_target coherent)
    · exact target
    · obtain ⟨hrecorded, hlive, -⟩ := b.retired s hs
      change ReplicaMove _ _ _ s.replicaId (inputs.plane.replicas[s.replicaId]?.map _) _
      rw [hrecorded]
      exact .retire s.view (.inr (retires s hs)) (ReplicaRecord.not_terminal hlive)
        (b.advances_retired coherent hs)
  sets s hs := by
    rcases b.mem_putReplicaSet.mp hs with rfl | ⟨r, -, rfl⟩
    · exact coherent.bumpedReplicaSet_setMove ..
    · exact coherent.bumpedReplicaSet_setMove ..
  operations o ho := operation o (b.mem_putOperation.mp ho)
  ownership o ho := ownership o (b.mem_putOwnership.mp ho)

theorem grounded
    (state : inputs.plane.states[h.target.key]?.isSome)
    (cluster : inputs.plane.clusters[h.target.location.clusterId]?.isSome)
    (ownership : ∀ o ∈ h.ownership, o.key = h.target.key)
    (operation : ∀ o ∈ h.operation, inputs.plane.states[o.key]?.isSome) :
    Grounded inputs.plane es where
  replicas w hw := by
    rcases b.mem_putReplica.mp hw with ⟨d, hd, rfl⟩ | rfl | ⟨s, hs, rfl⟩
    · exact replica_groundedIn_applyAll es
        (coherent.grounded_of_same (b.demoted d hd).1 rfl rfl rfl)
    · have hset := isSome_replicaSets_of_put (p := inputs.plane)
        (b.mem_putReplicaSet.mpr (.inl rfl))
      rw [coherent.bumped_key] at hset
      exact ⟨isSome_states_applyAll es state, isSome_clusters_applyAll es cluster, fun _ => hset⟩
    · exact replica_groundedIn_applyAll es
        (coherent.grounded_of_same (b.retired s hs).1 rfl rfl rfl)
  replicaSets s hs := by
    rcases b.mem_putReplicaSet.mp hs with rfl | ⟨r, hr, rfl⟩
    · exact replicaSet_groundedIn_applyAll es (coherent.bumpedReplicaSet_grounded _ _ _ state)
    · exact replicaSet_groundedIn_applyAll es (coherent.bumpedReplicaSet_grounded _ _ _
        (coherent.replicas (b.retired r hr).1).2.state)
  operations o ho := isSome_states_applyAll es (operation o (b.mem_putOperation.mp ho))
  ownership o ho := by
    rw [ownership o (b.mem_putOwnership.mp ho)]
    exact isSome_states_applyAll es state

end

end HandoverBatch

/-! ## The previous owner -/

theorem mem_demoteOwner {owner : Option ReplicaRecord} {reason : Text} {e : Effect} :
    e ∈ demoteOwner inputs owner reason ↔ ∃ d, (owner = some d ∧ d.isTerminal = false)
      ∧ e = .putReplica (demotedReplica inputs d reason) := by
  unfold demoteOwner
  cases owner with
  | none => simp
  | some d => cases hd : d.isTerminal <;> simp [hd]

/-- The owner a commit or handoff to `k` demotes: the live recorded owner, unless it is `k`. -/
def ControlPlane.ownerToDemote (p : ControlPlane) (K : StateKey) (k : ReplicaId) :
    Option ReplicaRecord :=
  match p.ownership[K]? with
  | some o =>
    if o.active && o.ownerReplica != k then
      p.replicas[o.ownerReplica]?.filter (!·.isTerminal)
    else none
  | none => none

theorem Coherent.mem_ownerToDemote (coherent : Coherent p) :
    d ∈ p.ownerToDemote K k ↔ p.replicas[d.replicaId]? = some d ∧ d.isTerminal = false
      ∧ d.replicaId ≠ k ∧ p.abs.Owns K d.replicaId := by
  simp only [ownerToDemote, Plane.Owns, ControlPlane.abs]
  cases hown : p.ownership[K]? with
  | none => simp
  | some o =>
    simp only [Option.map_some, Option.some.injEq, OwnershipRecord.view, OwnershipView.mk.injEq]
    constructor
    · intro hd
      split at hd
      · rename_i hother
        simp only [Bool.and_eq_true, bne_iff_ne] at hother
        obtain ⟨hrecorded, hlive⟩ := Option.mem_filter_iff.mp hd
        have hid := (coherent.replicas hrecorded).1
        rw [hid]
        exact ⟨hrecorded, by simpa using hlive, hother.2, rfl, hother.1⟩
      · simp at hd
    · rintro ⟨hrecorded, hlive, hne, hid, hactive⟩
      rw [hid, hactive]
      simp [hne, hrecorded, hlive, Option.filter]

theorem Coherent.mem_ownerToDemote_iff (coherent : Coherent p) {m : ReplicaId}
    (owns : p.abs.Owns K m) :
    d ∈ p.ownerToDemote K k ↔
      p.replicas[m]?.filter (·.replicaId != k) = some d ∧ d.isTerminal = false := by
  rw [coherent.mem_ownerToDemote, Option.filter_eq_some_iff, bne_iff_ne]
  constructor
  · rintro ⟨hd, hterminal, hne, hdown⟩
    have hdid := (OwnershipView.mk.inj (OrderedMap.some_unique hdown owns)).1
    exact ⟨⟨hdid ▸ hd, hne⟩, hterminal⟩
  · rintro ⟨⟨hd, hne⟩, hterminal⟩
    have hdid := (coherent.replicas hd).1
    rw [← hdid] at hd owns
    exact ⟨hd, hterminal, hne, owns⟩

/-- The new owner claims the ownership record, and the live previous owner has yielded. -/
theorem HandoverBatch.claim {h : Handover} {es : List Effect} (b : HandoverBatch inputs h es)
    (coherent : Coherent inputs.plane) (key : o.key = h.target.key)
    (owner : o.view = ⟨h.target.replicaId, true⟩)
    (demoted : h.demoted = inputs.plane.ownerToDemote h.target.key h.target.replicaId)
    (committed : h.target.commitRecorded = true) (lifecycle : h.target.lifecycle = .authoritative)
    (act : a = .commitReplica h.target.replicaId
      ∨ (∃ o op, a = .complete o ∧ inputs.plane.abs.operations o = some op
        ∧ op.destination = h.target.replicaId)
      ∨ a = .handoff h.target.key h.target.replicaId) :
    OwnershipMove a inputs.plane.abs (inputs.plane.applyAll es).abs o.key
      (inputs.plane.ownership[o.key]?.map (·.view)) o.view := by
  rw [key, owner]
  refine .claim _ _ h.target.view act b.target_eq rfl committed lifecycle ?_
  intro m w howner hne hw hlive
  obtain ⟨d, hd, rfl⟩ := abs_replicas_eq_some.mp hw
  have hid := (coherent.replicas hd).1
  rw [← hid] at hd hne howner ⊢
  refine b.yields ?_
  rw [demoted, coherent.mem_ownerToDemote]
  exact ⟨hd, ReplicaRecord.isTerminal_eq_false_iff.mpr hlive, hne, howner⟩

end StateFabric
