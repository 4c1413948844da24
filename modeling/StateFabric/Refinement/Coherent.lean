import StateFabric.Refinement.Plane

/-!
# Coherence of the record maps

The structural invariant `validate` checks after a load, together with the keys the maps use:
every record is stored under its own identity, and what it refers to is registered.  Records
are never removed, so a batch keeps it when the records it puts are grounded in the plane it
leaves (`Coherent.applyAll`).
-/

namespace StateFabric

open OrderedMap

variable {K : StateKey} {s : ReplicaSetRecord} {r : ReplicaRecord}

/-- What a replica refers to is registered. -/
structure ReplicaRecord.GroundedIn (r : ReplicaRecord) (p : ControlPlane) : Prop where
  state : p.states[r.key]?.isSome
  cluster : p.clusters[r.location.clusterId]?.isSome
  set : r.replicaSetId.valid = true → p.replicaSets[r.key]?.isSome

/-- What a replica set refers to is registered. -/
structure ReplicaSetRecord.GroundedIn (s : ReplicaSetRecord) (p : ControlPlane) : Prop where
  state : p.states[s.key]?.isSome
  members : ∀ m ∈ s.authoritativeMembers ++ s.degradedMembers, p.replicas[m.replicaId]?.isSome

/-- Every record is stored under its own identity and refers to registered records. -/
structure Coherent (p : ControlPlane) : Prop where
  states {K : StateKey} {r : StateGenerationRecord} : p.states[K]? = some r → r.key = K
  clusters {c : ClusterId} {r : ClusterRecord} : p.clusters[c]? = some r → r.clusterId = c
  replicas {k : ReplicaId} {r : ReplicaRecord} : p.replicas[k]? = some r →
    r.replicaId = k ∧ r.GroundedIn p
  replicaSets {K : StateKey} {s : ReplicaSetRecord} : p.replicaSets[K]? = some s →
    s.key = K ∧ s.GroundedIn p
  operations {o : OperationId} {r : OperationRecord} : p.operations[o]? = some r →
    r.operationId = o ∧ p.states[r.key]?.isSome
  ownership {K : StateKey} {r : OwnershipRecord} : p.ownership[K]? = some r →
    r.key = K ∧ p.states[r.key]?.isSome

/-- Every record that others may refer to is stored under its own identity. -/
structure ControlPlane.Filed (p : ControlPlane) : Prop where
  states : KeyedBy StateGenerationRecord.key p.states
  clusters : KeyedBy ClusterRecord.clusterId p.clusters
  replicas : KeyedBy ReplicaRecord.replicaId p.replicas
  replicaSets : KeyedBy ReplicaSetRecord.key p.replicaSets
  operations : KeyedBy OperationRecord.operationId p.operations
  ownership : KeyedBy OwnershipRecord.key p.ownership

theorem Coherent.filed {p : ControlPlane} (h : Coherent p) : p.Filed where
  states _ _ hr := h.states hr
  clusters _ _ hr := h.clusters hr
  replicas _ _ hr := (h.replicas hr).1
  replicaSets _ _ hs := (h.replicaSets hs).1
  operations _ _ hr := (h.operations hr).1
  ownership _ _ hr := (h.ownership hr).1

/-- Effects put records under their own identities. -/
theorem ControlPlane.Filed.applyAll {p : ControlPlane} (h : p.Filed) (es : List Effect) :
    (p.applyAll es).Filed where
  states := h.states.puts (p.applyAll_states es)
  clusters := h.clusters.puts (p.applyAll_clusters es)
  replicas := h.replicas.puts (p.applyAll_replicas es)
  replicaSets := h.replicaSets.puts (p.applyAll_replicaSets es)
  operations := h.operations.puts (p.applyAll_operations es)
  ownership := h.ownership.puts (p.applyAll_ownership es)

/-- The records a batch puts refer to records registered after it. -/
structure Grounded (p : ControlPlane) (es : List Effect) : Prop where
  replicas : ∀ r, .putReplica r ∈ es → r.GroundedIn (p.applyAll es)
  replicaSets : ∀ s, .putReplicaSet s ∈ es → s.GroundedIn (p.applyAll es)
  operations : ∀ r, .putOperation r ∈ es → (p.applyAll es).states[r.key]?.isSome
  ownership : ∀ r, .putOwnership r ∈ es → (p.applyAll es).states[r.key]?.isSome

namespace ControlPlane

variable {p : ControlPlane}

/-! ## Nothing is removed -/

section Growth

variable (es : List Effect)

theorem isSome_states_applyAll (h : p.states[K]?.isSome) : (p.applyAll es).states[K]?.isSome := by
  rw [applyAll_states]
  exact isSome_getElem?_insertAll _ h

theorem isSome_clusters_applyAll {c : ClusterId} (h : p.clusters[c]?.isSome) :
    (p.applyAll es).clusters[c]?.isSome := by
  rw [applyAll_clusters]
  exact isSome_getElem?_insertAll _ h

theorem isSome_replicas_applyAll {k : ReplicaId} (h : p.replicas[k]?.isSome) :
    (p.applyAll es).replicas[k]?.isSome := by
  rw [applyAll_replicas]
  exact isSome_getElem?_insertAll _ h

theorem isSome_replicaSets_applyAll (h : p.replicaSets[K]?.isSome) :
    (p.applyAll es).replicaSets[K]?.isSome := by
  rw [applyAll_replicaSets]
  exact isSome_getElem?_insertAll _ h

variable {es} in
theorem isSome_states_of_put {r : StateGenerationRecord} (put : .putState r ∈ es) :
    (p.applyAll es).states[r.key]?.isSome := by
  obtain ⟨w, hw, -⟩ := exists_getElem?_insertAll (m := p.states) (P := fun _ => True)
    (mem_statePuts.mpr ⟨put, rfl⟩) (fun _ _ => trivial)
  rw [← applyAll_states] at hw
  exact Option.isSome_of_eq_some hw

variable {es} in
theorem isSome_replicaSets_of_put (put : .putReplicaSet s ∈ es) :
    (p.applyAll es).replicaSets[s.key]?.isSome := by
  obtain ⟨w, hw, -⟩ := exists_getElem?_insertAll (m := p.replicaSets) (P := fun _ => True)
    (mem_replicaSetPuts.mpr ⟨put, rfl⟩) (fun _ _ => trivial)
  rw [← applyAll_replicaSets] at hw
  exact Option.isSome_of_eq_some hw

theorem replica_groundedIn_applyAll (h : r.GroundedIn p) :
    r.GroundedIn (p.applyAll es) where
  state := isSome_states_applyAll es h.state
  cluster := isSome_clusters_applyAll es h.cluster
  set valid := isSome_replicaSets_applyAll es (h.set valid)

theorem replicaSet_groundedIn_applyAll (h : s.GroundedIn p) :
    s.GroundedIn (p.applyAll es) where
  state := isSome_states_applyAll es h.state
  members m hm := isSome_replicas_applyAll es (h.members m hm)

end Growth

end ControlPlane

open ControlPlane in
/-- A plane whose records are filed and that passes the checks of a load is coherent. -/
theorem ControlPlane.Filed.coherent {p : ControlPlane} (h : p.Filed) (valid : p.validate = none) :
    Coherent p := by
  simp only [validate, Option.or_eq_none_iff, List.findSome?_eq_none_iff] at valid
  obtain ⟨hreplicas, hsets, hoperations, hownership, -⟩ := valid
  refine ⟨fun hr => h.states hr, fun hr => h.clusters hr, fun {k r} hr => ⟨h.replicas hr, ?_⟩,
    fun {K s} hs => ⟨h.replicaSets hs, ?_⟩, fun {o r} hr => ⟨h.operations hr, ?_⟩,
    fun {K r} hr => ⟨h.ownership hr, ?_⟩⟩
  · have hproblem := hreplicas (k, r) (mem_toList_iff.mpr hr)
    simp only [replicaProblem, h.replicas hr, ne_eq, not_true_eq_false, if_false] at hproblem
    split_ifs at hproblem with hstate hcluster hset
    exact ⟨by simpa using hstate, by simpa using hcluster,
      fun hvalid => by simpa [hvalid] using hset⟩
  · have hproblem := hsets (K, s) (mem_toList_iff.mpr hs)
    simp only [replicaSetProblem] at hproblem
    split_ifs at hproblem with hstate
    simp only [Option.or_eq_none_iff, List.findSome?_eq_none_iff] at hproblem
    refine ⟨by rw [h.replicaSets hs]; simpa using hstate, fun m hm => ?_⟩
    rcases List.mem_append.mp hm with hauthoritative | hdegraded
    · simpa using hproblem.1 m hauthoritative
    · simpa using hproblem.2 m hdegraded
  · simpa [operationProblem] using hoperations (o, r) (mem_toList_iff.mpr hr)
  · rw [h.ownership hr]
    simpa [ownershipProblem] using hownership (K, r) (mem_toList_iff.mpr hr)

namespace Coherent

open ControlPlane

variable {p : ControlPlane}

theorem applyAll {es : List Effect} (h : Coherent p) (grounded : Grounded p es) :
    Coherent (p.applyAll es) where
  states hr := (h.filed.applyAll es).states hr
  clusters hr := (h.filed.applyAll es).clusters hr
  replicas {k r} hr := by
    rcases p.replicas_applyAll_cases es k with hk | ⟨w, ⟨hmem, hkey⟩, hk⟩
    · obtain ⟨hkey, hground⟩ := h.replicas (hk.symm.trans hr)
      exact ⟨hkey, replica_groundedIn_applyAll es hground⟩
    · obtain rfl := some_unique hk hr
      exact ⟨hkey, grounded.replicas w hmem⟩
  replicaSets {K s} hs := by
    rcases p.replicaSets_applyAll_cases es K with hk | ⟨w, ⟨hmem, hkey⟩, hk⟩
    · obtain ⟨hkey, hground⟩ := h.replicaSets (hk.symm.trans hs)
      exact ⟨hkey, replicaSet_groundedIn_applyAll es hground⟩
    · obtain rfl := some_unique hk hs
      exact ⟨hkey, grounded.replicaSets w hmem⟩
  operations {o r} hr := by
    rcases p.operations_applyAll_cases es o with hk | ⟨w, ⟨hmem, hkey⟩, hk⟩
    · obtain ⟨hkey, hstate⟩ := h.operations (hk.symm.trans hr)
      exact ⟨hkey, isSome_states_applyAll es hstate⟩
    · obtain rfl := some_unique hk hr
      exact ⟨hkey, grounded.operations w hmem⟩
  ownership {K r} hr := by
    rcases p.ownership_applyAll_cases es K with hk | ⟨w, ⟨hmem, hkey⟩, hk⟩
    · obtain ⟨hkey, hstate⟩ := h.ownership (hk.symm.trans hr)
      exact ⟨hkey, isSome_states_applyAll es hstate⟩
    · obtain rfl := some_unique hk hr
      exact ⟨hkey, grounded.ownership w hmem⟩

/-! ## The checks after a load -/

theorem validate_eq_none (h : Coherent p) : p.validate = none := by
  simp only [validate, Option.or_eq_none_iff, List.findSome?_eq_none_iff]
  refine ⟨?_, ?_, ?_, ?_, ?_⟩
  · rintro ⟨k, r⟩ hr
    obtain ⟨hkey, hground⟩ := h.replicas (mem_toList_iff.mp hr)
    have hset := hground.set
    simp only [replicaProblem, hkey, ne_eq, not_true_eq_false, if_false,
      Option.isNone_eq_false_iff.mpr hground.state,
      Option.isNone_eq_false_iff.mpr hground.cluster]
    cases hvalid : r.replicaSetId.valid with
    | false => simp
    | true => simp [Option.isNone_eq_false_iff.mpr (hset hvalid)]
  · rintro ⟨K, s⟩ hs
    obtain ⟨rfl, hground⟩ := h.replicaSets (mem_toList_iff.mp hs)
    have hmembers := hground.members
    simp only [replicaSetProblem, Option.isNone_eq_false_iff.mpr hground.state,
      Bool.false_eq_true, if_false, Option.or_eq_none_iff, List.findSome?_eq_none_iff]
    constructor
    · intro m hm
      simp [Option.isNone_eq_false_iff.mpr (hmembers m (List.mem_append_left _ hm))]
    · intro m hm
      simp [Option.isNone_eq_false_iff.mpr (hmembers m (List.mem_append_right _ hm))]
  · rintro ⟨o, r⟩ hr
    simp [operationProblem,
      Option.isNone_eq_false_iff.mpr (h.operations (mem_toList_iff.mp hr)).2]
  · rintro ⟨K, r⟩ hr
    obtain ⟨rfl, hstate⟩ := h.ownership (mem_toList_iff.mp hr)
    simp [ownershipProblem, Option.isNone_eq_false_iff.mpr hstate]
  · rintro ⟨K, r⟩ hr
    simp [stateProblem, h.states (mem_toList_iff.mp hr)]

/-! ## Replicas by list -/

theorem mem_replicaList (h : Coherent p) :
    r ∈ p.replicaList ↔ p.replicas[r.replicaId]? = some r := by
  rw [replicaList, List.mem_map]
  constructor
  · rintro ⟨⟨k, r'⟩, hmem, rfl⟩
    have hr := mem_toList_iff.mp hmem
    rwa [(h.replicas hr).1]
  · intro hr
    exact ⟨(r.replicaId, r), mem_toList_iff.mpr hr, rfl⟩

theorem mem_replicasOfState (h : Coherent p) :
    r ∈ p.replicasOfState K ↔ p.replicas[r.replicaId]? = some r ∧ r.key = K := by
  simp [replicasOfState, h.mem_replicaList]

/-- A replica that kept its identity, generation, cluster and set is grounded as before. -/
theorem grounded_of_same (h : Coherent p) {k : ReplicaId} {r' : ReplicaRecord}
    (hr : p.replicas[k]? = some r) (key : r'.key = r.key)
    (cluster : r'.location.clusterId = r.location.clusterId)
    (set : r'.replicaSetId = r.replicaSetId) : r'.GroundedIn p where
  state := key ▸ (h.replicas hr).2.state
  cluster := cluster ▸ (h.replicas hr).2.cluster
  set valid := key ▸ (h.replicas hr).2.set (set ▸ valid)

end Coherent

/-! ## The rebuilt replica set -/

section Rebuilt

variable {p : ControlPlane}

@[simp] theorem recomputeReplicaSet_key (s : ReplicaSetRecord) :
    (recomputeReplicaSet s).key = s.key := by
  simp only [recomputeReplicaSet]
  split <;> rfl

@[simp] theorem recomputeReplicaSet_generation (s : ReplicaSetRecord) :
    (recomputeReplicaSet s).generation = s.generation := by
  simp only [recomputeReplicaSet]
  split <;> rfl

@[simp] theorem recomputeReplicaSet_authoritativeMembers (s : ReplicaSetRecord) :
    (recomputeReplicaSet s).authoritativeMembers = s.authoritativeMembers := by
  simp only [recomputeReplicaSet]
  split <;> rfl

@[simp] theorem recomputeReplicaSet_degradedMembers (s : ReplicaSetRecord) :
    (recomputeReplicaSet s).degradedMembers = s.degradedMembers := by
  simp only [recomputeReplicaSet]
  split <;> rfl

@[simp] theorem rebuildReplicaSet_key (s : ReplicaSetRecord) :
    (p.rebuildReplicaSet s).key = s.key := recomputeReplicaSet_key _

@[simp] theorem rebuildReplicaSet_generation (s : ReplicaSetRecord) :
    (p.rebuildReplicaSet s).generation = s.generation := recomputeReplicaSet_generation _

theorem isSome_of_mem_rebuildReplicaSet
    (keyed : ∀ {k : ReplicaId} {r : ReplicaRecord}, p.replicas[k]? = some r → r.replicaId = k)
    {m : ReplicaSetMember} (hm : m ∈ (p.rebuildReplicaSet s).authoritativeMembers
      ++ (p.rebuildReplicaSet s).degradedMembers) : p.replicas[m.replicaId]?.isSome := by
  have hmem : ∃ r ∈ p.replicaList, makeMember r = m := by
    simp only [ControlPlane.rebuildReplicaSet, recomputeReplicaSet_authoritativeMembers,
      recomputeReplicaSet_degradedMembers, ControlPlane.replicasOfState, List.mem_append,
      List.mem_map, List.mem_filter] at hm
    rcases hm with ⟨r, ⟨⟨⟨hr, -⟩, -⟩, -⟩, rfl⟩ | ⟨r, ⟨⟨⟨hr, -⟩, -⟩, -⟩, rfl⟩ <;>
      exact ⟨r, hr, rfl⟩
  obtain ⟨r, hr, rfl⟩ := hmem
  obtain ⟨⟨k, r⟩, hentry, rfl⟩ := List.mem_map.mp hr
  have hk := mem_toList_iff.mp hentry
  simp [makeMember, keyed hk, hk]

theorem bumpedReplicaSet_advances (tick : Tick) (epoch : CoordinatorEpoch)
    (hs : p.replicaSets[K]? = some s) :
    (bumpedReplicaSet p K tick epoch true).generation.value = s.generation.value + 1 := by
  simp only [bumpedReplicaSet, hs, rebuildReplicaSet_generation, if_true]
  cases hv : s.generation.valid with
  | true => rfl
  | false =>
    have hzero : s.generation.value = 0 := by simpa [StrongId.valid] using hv
    simp [hzero]

end Rebuilt

namespace Coherent

open ControlPlane

variable {p : ControlPlane}

theorem rebuildReplicaSet_members (h : Coherent p) (s : ReplicaSetRecord) (m : ReplicaSetMember)
    (hm : m ∈ (p.rebuildReplicaSet s).authoritativeMembers
      ++ (p.rebuildReplicaSet s).degradedMembers) : p.replicas[m.replicaId]?.isSome :=
  isSome_of_mem_rebuildReplicaSet (fun hr => (h.replicas hr).1) hm

theorem bumpedReplicaSet_key (h : Coherent p) (K : StateKey) (tick : Tick)
    (epoch : CoordinatorEpoch) (adv : Bool) : (bumpedReplicaSet p K tick epoch adv).key = K := by
  unfold bumpedReplicaSet
  cases hs : p.replicaSets[K]? with
  | none => rfl
  | some s => exact (rebuildReplicaSet_key s).trans (h.replicaSets hs).1

theorem bumpedReplicaSet_grounded (h : Coherent p) (tick : Tick) (epoch : CoordinatorEpoch)
    (adv : Bool) (registered : p.states[K]?.isSome) :
    (bumpedReplicaSet p K tick epoch adv).GroundedIn p where
  state := by rwa [h.bumpedReplicaSet_key]
  members := by
    unfold bumpedReplicaSet
    cases hs : p.replicaSets[K]? with
    | none => simp
    | some s => exact h.rebuildReplicaSet_members s

theorem bumpedReplicaSet_setMove (h : Coherent p) (K : StateKey) (tick : Tick)
    (epoch : CoordinatorEpoch) (adv : Bool) :
    Protocol.SetMove (p.replicaSets[(bumpedReplicaSet p K tick epoch adv).key]?.map (·.view))
      (bumpedReplicaSet p K tick epoch adv).view := by
  rw [h.bumpedReplicaSet_key]
  cases hs : p.replicaSets[K]? with
  | none =>
    have hgen : (bumpedReplicaSet p K tick epoch adv).view = 1 := by
      cases adv <;> simp [bumpedReplicaSet, hs, ReplicaSetRecord.view, StrongId.valid]
    rw [hgen]
    exact .create
  | some s =>
    cases adv with
    | true =>
      have hgen := bumpedReplicaSet_advances tick epoch hs
      rw [ReplicaSetRecord.view, hgen]
      exact .advance _
    | false =>
      simp only [bumpedReplicaSet, hs, rebuildReplicaSet_generation, ReplicaSetRecord.view,
        Option.map_some, Bool.false_eq_true, if_false]
      cases hv : s.generation.valid with
      | true => exact .keep _
      | false =>
        have hzero : s.generation.value = 0 := by simpa [StrongId.valid] using hv
        simp only [hzero, Bool.not_false, if_true]
        exact .advance 0

end Coherent

end StateFabric
