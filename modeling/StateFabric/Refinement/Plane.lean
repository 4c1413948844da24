import StateFabric.Fabric.Mutation
import StateFabric.Protocol.Basic

/-!
# The control plane as a protocol plane

`ControlPlane.abs` keeps of every record what authority depends on.  A batch of effects is
`Lawful` for an action when each of its puts is a move of the protocol; `Lawful.step` turns
such a batch into one protocol step.

A move speaks about the plane after the batch as well as before it, and a batch may put the
same record twice.  The lookup lemmas below therefore say what holds of a record after a batch
from what all the puts under its key have in common.
-/

namespace StateFabric

open OrderedMap Protocol

variable {K : StateKey} {r : ReplicaRecord} {o : OperationId} {k : ReplicaId}

/-! ## Views of records -/

def StateGenerationRecord.view (r : StateGenerationRecord) : StateView :=
  { lineage := r.lineage
    branch := r.branch
    lifecycle := r.lifecycle
    contentDigest := r.contentDigest }

def ClusterRecord.view (r : ClusterRecord) : ClusterView :=
  { live := r.liveAuthority, incarnation := r.incarnation }

def ReplicaRecord.view (r : ReplicaRecord) : ReplicaView :=
  { key := r.key
    cluster := r.location.clusterId
    incarnation := r.location.clusterIncarnation
    lifecycle := r.lifecycle
    integrity := r.integrity
    compatibility := r.compatibility
    availability := r.availability
    authority := r.authority
    measured := r.measuredDigest
    revalidation := r.evidence.revalidationRequired
    committed := r.commitRecorded
    counts := r.countsTowardFactor }

def ReplicaSetRecord.view (r : ReplicaSetRecord) : UInt64 := r.generation.value

def OperationRecord.view (r : OperationRecord) : OperationView :=
  { key := r.key
    kind := r.kind
    state := r.state
    source := r.sourceReplica
    destination := r.destinationReplica
    sourceGeneration := r.sourceReplicaSetGeneration.value
    destructive := r.destructiveMove }

def OwnershipRecord.view (r : OwnershipRecord) : OwnershipView :=
  { owner := r.ownerReplica, active := r.active }

/-- The control plane, as far as authority depends on it. -/
def ControlPlane.abs (p : ControlPlane) : Plane where
  states K := p.states[K]?.map (·.view)
  clusters c := p.clusters[c]?.map (·.view)
  replicas k := p.replicas[k]?.map (·.view)
  setGeneration K := p.replicaSets[K]?.map (·.view)
  operations o := p.operations[o]?.map (·.view)
  ownership K := p.ownership[K]?.map (·.view)

theorem ReplicaRecord.isTerminal_iff (r : ReplicaRecord) :
    r.isTerminal = true ↔ r.view.Terminal := by
  simp [ReplicaRecord.isTerminal, ReplicaView.Terminal, ReplicaRecord.view]

theorem ReplicaRecord.isTerminal_eq_false_iff : r.isTerminal = false ↔ ¬ r.view.Terminal := by
  rw [← r.isTerminal_iff, Bool.not_eq_true]

theorem ReplicaRecord.not_terminal (h : r.isTerminal = false) :
    ¬ r.view.Terminal := ReplicaRecord.isTerminal_eq_false_iff.mp h

theorem OperationRecord.isTerminal_iff (o : OperationRecord) :
    o.isTerminal = true ↔ o.view.Terminal := by
  unfold OperationRecord.isTerminal OperationView.Terminal OperationRecord.view
  cases o.state <;> simp

theorem OperationRecord.not_terminal {o : OperationRecord} (h : o.isTerminal = false) :
    ¬ o.view.Terminal := by
  rw [← o.isTerminal_iff, h]
  simp

theorem counting_iff (r : ReplicaRecord) :
    replicaCountsTowardReplicationFactor r = true ↔ r.view.Counting := by
  unfold replicaCountsTowardReplicationFactor ReplicaView.Counting ReplicaRecord.view
  cases r.commitRecorded <;> cases r.countsTowardFactor <;> cases r.integrity <;>
    cases r.compatibility <;> cases r.lifecycle <;> simp

@[simp] theorem OperationRecord.note_view (o : OperationRecord) (line : Text) :
    (o.note line).view = o.view := by
  unfold OperationRecord.note
  split <;> rfl

@[simp] theorem OperationRecord.note_operationId (o : OperationRecord) (line : Text) :
    (o.note line).operationId = o.operationId := by
  unfold OperationRecord.note
  split <;> rfl

@[simp] theorem OperationRecord.note_updatedAt (o : OperationRecord) (line : Text) :
    (o.note line).updatedAt = o.updatedAt := by
  unfold OperationRecord.note
  split <;> rfl

namespace ControlPlane

variable {p : ControlPlane}

/-! ## Lookups in the abstraction -/

theorem abs_states {r : StateGenerationRecord} (h : p.states[K]? = some r) :
    p.abs.states K = some r.view := congrArg (Option.map _) h

theorem abs_clusters {c : ClusterId} {r : ClusterRecord} (h : p.clusters[c]? = some r) :
    p.abs.clusters c = some r.view := congrArg (Option.map _) h

theorem abs_replicas (h : p.replicas[k]? = some r) :
    p.abs.replicas k = some r.view := congrArg (Option.map _) h

theorem abs_setGeneration {r : ReplicaSetRecord} (h : p.replicaSets[K]? = some r) :
    p.abs.setGeneration K = some r.generation.value := congrArg (Option.map _) h

theorem abs_operations {r : OperationRecord} (h : p.operations[o]? = some r) :
    p.abs.operations o = some r.view := congrArg (Option.map _) h

theorem abs_ownership {r : OwnershipRecord} (h : p.ownership[K]? = some r) :
    p.abs.ownership K = some r.view := congrArg (Option.map _) h

theorem abs_replicas_eq_some {v : ReplicaView} :
    p.abs.replicas k = some v ↔ ∃ r, p.replicas[k]? = some r ∧ r.view = v :=
  Option.map_eq_some_iff

theorem abs_states_eq_some {v : StateView} :
    p.abs.states K = some v ↔ ∃ r, p.states[K]? = some r ∧ r.view = v :=
  Option.map_eq_some_iff

theorem abs_operations_eq_some {v : OperationView} :
    p.abs.operations o = some v ↔ ∃ r, p.operations[o]? = some r ∧ r.view = v :=
  Option.map_eq_some_iff

/-! ## Lookups after a batch -/

section Batches

variable {es : List Effect}

/-- The puts of a batch on one map, when `put` recognises exactly the effects `mk` makes. -/
theorem mem_puts {κ α : Type} {put : Effect → Option (κ × α)} {mk : α → Effect} {key : α → κ}
    (recognises : ∀ e k r, put e = some (k, r) ↔ mk r = e ∧ key r = k) {k : κ} {r : α} :
    (k, r) ∈ es.filterMap put ↔ mk r ∈ es ∧ key r = k := by
  rw [List.mem_filterMap]
  constructor
  · rintro ⟨e, he, hput⟩
    obtain ⟨rfl, hkey⟩ := (recognises e k r).mp hput
    exact ⟨he, hkey⟩
  · rintro ⟨he, hkey⟩
    exact ⟨mk r, he, (recognises _ k r).mpr ⟨rfl, hkey⟩⟩

theorem mem_statePuts {r : StateGenerationRecord} :
    (K, r) ∈ es.filterMap Effect.state? ↔ .putState r ∈ es ∧ r.key = K :=
  mem_puts fun e k r => by cases e <;> simp [Effect.state?]; grind

theorem mem_clusterPuts {c : ClusterId} {r : ClusterRecord} :
    (c, r) ∈ es.filterMap Effect.cluster? ↔ .putCluster r ∈ es ∧ r.clusterId = c :=
  mem_puts fun e k r => by cases e <;> simp [Effect.cluster?]; grind

theorem mem_replicaPuts :
    (k, r) ∈ es.filterMap Effect.replica? ↔ .putReplica r ∈ es ∧ r.replicaId = k :=
  mem_puts fun e k r => by cases e <;> simp [Effect.replica?]; grind

theorem mem_replicaSetPuts {r : ReplicaSetRecord} :
    (K, r) ∈ es.filterMap Effect.replicaSet? ↔ .putReplicaSet r ∈ es ∧ r.key = K :=
  mem_puts fun e k r => by cases e <;> simp [Effect.replicaSet?]; grind

theorem mem_operationPuts {r : OperationRecord} :
    (o, r) ∈ es.filterMap Effect.operation? ↔ .putOperation r ∈ es ∧ r.operationId = o :=
  mem_puts fun e k r => by cases e <;> simp [Effect.operation?]; grind

theorem mem_authorizationPuts {r : TransferAuthorization} :
    (o, r) ∈ es.filterMap Effect.authorization? ↔ .putAuthorization r ∈ es ∧ r.operationId = o :=
  mem_puts fun e k r => by cases e <;> simp [Effect.authorization?]; grind

theorem mem_ownershipPuts {r : OwnershipRecord} :
    (K, r) ∈ es.filterMap Effect.ownership? ↔ .putOwnership r ∈ es ∧ r.key = K :=
  mem_puts fun e k r => by cases e <;> simp [Effect.ownership?]; grind

/-- What every put of a replica has, the replica has after the batch. -/
theorem exists_abs_replicas_applyAll {P : ReplicaView → Prop} (put : .putReplica r ∈ es)
    (all : ∀ w, .putReplica w ∈ es → w.replicaId = r.replicaId → P w.view) :
    ∃ v, (p.applyAll es).abs.replicas r.replicaId = some v ∧ P v := by
  obtain ⟨w, hw, hP⟩ := exists_getElem?_insertAll (m := p.replicas)
    (mem_replicaPuts.mpr ⟨put, rfl⟩)
    (fun w hw => all w (mem_replicaPuts.mp hw).1 (mem_replicaPuts.mp hw).2)
  rw [← applyAll_replicas] at hw
  exact ⟨w.view, abs_replicas hw, hP⟩

theorem abs_replicas_applyAll (put : .putReplica r ∈ es)
    (all : ∀ w, .putReplica w ∈ es → w.replicaId = r.replicaId → w.view = r.view) :
    (p.applyAll es).abs.replicas r.replicaId = some r.view := by
  obtain ⟨v, hv, rfl⟩ := exists_abs_replicas_applyAll (P := (· = r.view)) put all
  exact hv

theorem abs_states_applyAll {r : StateGenerationRecord} (put : .putState r ∈ es)
    (all : ∀ w, .putState w ∈ es → w.key = r.key → w.view = r.view) :
    (p.applyAll es).abs.states r.key = some r.view := by
  obtain ⟨w, hw, hview⟩ := exists_getElem?_insertAll (m := p.states)
    (P := fun w => w.view = r.view) (mem_statePuts.mpr ⟨put, rfl⟩)
    (fun w hw => all w (mem_statePuts.mp hw).1 (mem_statePuts.mp hw).2)
  rw [← applyAll_states] at hw
  rw [← hview]
  exact abs_states hw

theorem abs_operations_applyAll {r : OperationRecord} (put : .putOperation r ∈ es)
    (all : ∀ w, .putOperation w ∈ es → w = r) :
    (p.applyAll es).abs.operations r.operationId = some r.view := by
  obtain ⟨w, hw, rfl⟩ := exists_getElem?_insertAll (m := p.operations) (P := (· = r))
    (mem_operationPuts.mpr ⟨put, rfl⟩) (fun w hw => all w (mem_operationPuts.mp hw).1)
  rw [← applyAll_operations] at hw
  exact abs_operations hw

theorem abs_ownership_applyAll {r : OwnershipRecord} (put : .putOwnership r ∈ es)
    (all : ∀ w, .putOwnership w ∈ es → w = r) :
    (p.applyAll es).abs.ownership r.key = some r.view := by
  obtain ⟨w, hw, rfl⟩ := exists_getElem?_insertAll (m := p.ownership) (P := (· = r))
    (mem_ownershipPuts.mpr ⟨put, rfl⟩) (fun w hw => all w (mem_ownershipPuts.mp hw).1)
  rw [← applyAll_ownership] at hw
  exact abs_ownership hw

/-! ## What a batch leaves under a key -/

theorem states_applyAll_cases (p : ControlPlane) (es : List Effect) (K : StateKey) :
    (p.applyAll es).states[K]? = p.states[K]?
    ∨ ∃ w, (.putState w ∈ es ∧ w.key = K) ∧ (p.applyAll es).states[K]? = some w := by
  rw [applyAll_states]
  exact insertAll_cases mem_statePuts.mp

theorem clusters_applyAll_cases (p : ControlPlane) (es : List Effect) (c : ClusterId) :
    (p.applyAll es).clusters[c]? = p.clusters[c]?
    ∨ ∃ w, (.putCluster w ∈ es ∧ w.clusterId = c) ∧ (p.applyAll es).clusters[c]? = some w := by
  rw [applyAll_clusters]
  exact insertAll_cases mem_clusterPuts.mp

theorem replicas_applyAll_cases (p : ControlPlane) (es : List Effect) (k : ReplicaId) :
    (p.applyAll es).replicas[k]? = p.replicas[k]?
    ∨ ∃ w, (.putReplica w ∈ es ∧ w.replicaId = k) ∧ (p.applyAll es).replicas[k]? = some w := by
  rw [applyAll_replicas]
  exact insertAll_cases mem_replicaPuts.mp

theorem replicaSets_applyAll_cases (p : ControlPlane) (es : List Effect) (K : StateKey) :
    (p.applyAll es).replicaSets[K]? = p.replicaSets[K]?
    ∨ ∃ w, (.putReplicaSet w ∈ es ∧ w.key = K) ∧ (p.applyAll es).replicaSets[K]? = some w := by
  rw [applyAll_replicaSets]
  exact insertAll_cases mem_replicaSetPuts.mp

theorem operations_applyAll_cases (p : ControlPlane) (es : List Effect) (o : OperationId) :
    (p.applyAll es).operations[o]? = p.operations[o]?
    ∨ ∃ w, (.putOperation w ∈ es ∧ w.operationId = o) ∧ (p.applyAll es).operations[o]? = some w := by
  rw [applyAll_operations]
  exact insertAll_cases mem_operationPuts.mp

theorem authorizations_applyAll_cases (p : ControlPlane) (es : List Effect) (o : OperationId) :
    (p.applyAll es).authorizations[o]? = p.authorizations[o]?
    ∨ ∃ w, (.putAuthorization w ∈ es ∧ w.operationId = o)
      ∧ (p.applyAll es).authorizations[o]? = some w := by
  rw [applyAll_authorizations]
  exact insertAll_cases mem_authorizationPuts.mp

theorem ownership_applyAll_cases (p : ControlPlane) (es : List Effect) (K : StateKey) :
    (p.applyAll es).ownership[K]? = p.ownership[K]?
    ∨ ∃ w, (.putOwnership w ∈ es ∧ w.key = K) ∧ (p.applyAll es).ownership[K]? = some w := by
  rw [applyAll_ownership]
  exact insertAll_cases mem_ownershipPuts.mp

theorem clusters_applyAll_of_not_mem (none : ∀ r, .putCluster r ∉ es) :
    (p.applyAll es).clusters = p.clusters :=
  Std.ExtTreeMap.ext_getElem? fun k =>
    (p.clusters_applyAll_cases es k).resolve_right fun ⟨w, ⟨hput, _⟩, _⟩ => none w hput

theorem replicas_applyAll_of_not_mem (none : ∀ r, .putReplica r ∉ es) :
    (p.applyAll es).replicas = p.replicas :=
  Std.ExtTreeMap.ext_getElem? fun k =>
    (p.replicas_applyAll_cases es k).resolve_right fun ⟨w, ⟨hput, _⟩, _⟩ => none w hput

theorem ownership_applyAll_of_not_mem (none : ∀ r, .putOwnership r ∉ es) :
    (p.applyAll es).ownership = p.ownership :=
  Std.ExtTreeMap.ext_getElem? fun k =>
    (p.ownership_applyAll_cases es k).resolve_right fun ⟨w, ⟨hput, _⟩, _⟩ => none w hput

theorem states_applyAll_of_not_mem (none : ∀ r, .putState r ∉ es) :
    (p.applyAll es).states = p.states :=
  Std.ExtTreeMap.ext_getElem? fun k =>
    (p.states_applyAll_cases es k).resolve_right fun ⟨w, ⟨hput, _⟩, _⟩ => none w hput

theorem authorizations_applyAll_of_not_mem (none : ∀ r, .putAuthorization r ∉ es) :
    (p.applyAll es).authorizations = p.authorizations :=
  Std.ExtTreeMap.ext_getElem? fun k =>
    (p.authorizations_applyAll_cases es k).resolve_right fun ⟨w, ⟨hput, _⟩, _⟩ => none w hput

theorem clusters_applyAll_of_put {c : ClusterRecord} (put : .putCluster c ∈ es)
    (only : ∀ w, .putCluster w ∈ es → w = c) :
    (p.applyAll es).clusters = p.clusters.insert c.clusterId c := by
  rw [applyAll_clusters]
  refine insertAll_eq_insert _ (mem_clusterPuts.mpr ⟨put, rfl⟩) ?_
  rintro ⟨k, w⟩ hput
  obtain ⟨hw, rfl⟩ := mem_clusterPuts.mp hput
  rw [only w hw]

theorem replicas_applyAll_of_put (put : .putReplica r ∈ es) (only : ∀ w, .putReplica w ∈ es → w = r) :
    (p.applyAll es).replicas = p.replicas.insert r.replicaId r := by
  rw [applyAll_replicas]
  refine insertAll_eq_insert _ (mem_replicaPuts.mpr ⟨put, rfl⟩) ?_
  rintro ⟨k, w⟩ hput
  obtain ⟨hw, rfl⟩ := mem_replicaPuts.mp hput
  rw [only w hw]

/-- Every put of a replica set in the batch moves the set on by one. -/
def Advancing (p : ControlPlane) (es : List Effect) : Prop :=
  ∀ s, .putReplicaSet s ∈ es → ∀ set, p.replicaSets[s.key]? = some set →
    s.generation.value = set.generation.value + 1

theorem Advancing.advances (adv : Advancing p es)
    (put : ∀ set, p.replicaSets[K]? = some set → ∃ s, .putReplicaSet s ∈ es ∧ s.key = K) :
    p.abs.Advances (p.applyAll es).abs K := by
  intro g hg
  obtain ⟨set, hset, rfl⟩ := Option.map_eq_some_iff.mp hg
  obtain ⟨s, hs, hkey⟩ := put set hset
  obtain ⟨w, hw, hgen⟩ := exists_getElem?_insertAll (m := p.replicaSets)
    (P := fun w => w.generation.value = set.generation.value + 1)
    (mem_replicaSetPuts.mpr ⟨hs, hkey⟩) (fun w hw => by
      obtain ⟨hmem, hwkey⟩ := mem_replicaSetPuts.mp hw
      exact adv w hmem set (hwkey ▸ hset))
  rw [← applyAll_replicaSets] at hw
  rw [abs_setGeneration hw, hgen]
  rfl

end Batches

end ControlPlane

/-! ## Keys -/

section Keys

variable {κ α : Type} [Ord κ] [Std.TransOrd κ] {key : α → κ} {m m' : Std.ExtTreeMap κ α}

/-- Every record of a map is stored under its own key. -/
def KeyedBy (key : α → κ) (m : Std.ExtTreeMap κ α) : Prop :=
  ∀ ⦃k : κ⦄ ⦃r : α⦄, m[k]? = some r → key r = k

theorem keyedBy_empty (key : α → κ) : KeyedBy key (∅ : Std.ExtTreeMap κ α) := by
  intro k r h
  simp at h

/-- A batch puts records under their own keys. -/
theorem KeyedBy.puts [Std.LawfulEqOrd κ] [DecidableEq κ] (h : KeyedBy key m)
    {put : Effect → Option (κ × α)} {es : List Effect}
    (applied : m' = insertAll m (es.filterMap put))
    (own : ∀ e k r, put e = some (k, r) → key r = k := by
      intro e k r h; cases e <;> cases h <;> rfl) :
    KeyedBy key m' := by
  intro k r hr
  rw [applied] at hr
  rcases insertAll_cases (m := m) (k := k) (l := es.filterMap put) id with hk | ⟨w, hw, hk⟩
  · exact h (hk.symm.trans hr)
  · obtain rfl := some_unique hk hr
    obtain ⟨e, -, hput⟩ := List.mem_filterMap.mp hw
    exact own e k w hput

end Keys

/-! ## Lawful batches -/

/-- Every put of the batch is a move the action allows. -/
structure Lawful (a : Action) (p : ControlPlane) (es : List Effect) : Prop where
  states : ∀ r, .putState r ∈ es →
    StateMove a p.abs (p.applyAll es).abs r.key (p.states[r.key]?.map (·.view)) r.view
  clusters : ∀ r, .putCluster r ∈ es →
    ClusterMove a p.abs (p.applyAll es).abs r.clusterId
      (p.clusters[r.clusterId]?.map (·.view)) r.view
  replicas : ∀ r, .putReplica r ∈ es →
    ReplicaMove a p.abs (p.applyAll es).abs r.replicaId
      (p.replicas[r.replicaId]?.map (·.view)) r.view
  sets : ∀ r, .putReplicaSet r ∈ es → SetMove (p.replicaSets[r.key]?.map (·.view)) r.view
  operations : ∀ r, .putOperation r ∈ es →
    OperationMove a p.abs (p.applyAll es).abs r.operationId
      (p.operations[r.operationId]?.map (·.view)) r.view
  ownership : ∀ r, .putOwnership r ∈ es →
    OwnershipMove a p.abs (p.applyAll es).abs r.key (p.ownership[r.key]?.map (·.view)) r.view

open ControlPlane in
/-- The puts of a batch on one map are moves when each of them is. -/
theorem evolves_puts {κ α β : Type} [Ord κ] [Std.TransOrd κ] [Std.LawfulEqOrd κ] [DecidableEq κ]
    {m m' : Std.ExtTreeMap κ α} {puts : List (κ × α)} {es : List Effect} {mk : α → Effect}
    {key : α → κ} {view : α → β} {Move : κ → Option β → β → Prop} (applied : m' = insertAll m puts)
    (mem : ∀ {k r}, (k, r) ∈ puts ↔ mk r ∈ es ∧ key r = k)
    (moves : ∀ r, mk r ∈ es → Move (key r) (m[key r]?.map view) (view r)) :
    Evolves Move (fun k => m[k]?.map view) (fun k => m'[k]?.map view) := by
  subst applied
  refine evolves_insertAll Move view m puts fun k r hr => ?_
  obtain ⟨hmem, rfl⟩ := mem.mp hr
  exact moves r hmem

open ControlPlane in
/-- A lawful batch is one step of the protocol. -/
theorem Lawful.step {a : Action} {p : ControlPlane} {es : List Effect} (h : Lawful a p es)
    (live : a ≠ .reopen) : Protocol.Step a p.abs (p.applyAll es).abs where
  states := evolves_puts (applyAll_states p es) mem_statePuts h.states
  clusters := evolves_puts (applyAll_clusters p es) mem_clusterPuts h.clusters
  replicas := evolves_puts (applyAll_replicas p es) mem_replicaPuts h.replicas
  sets := evolves_puts (applyAll_replicaSets p es) mem_replicaSetPuts h.sets
  operations := evolves_puts (applyAll_operations p es) mem_operationPuts h.operations
  ownership := evolves_puts (applyAll_ownership p es) mem_ownershipPuts h.ownership
  settles reopen := absurd reopen live
  withholds reopen := absurd reopen live

end StateFabric
