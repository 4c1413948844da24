import StateFabric.Guarantees.Scenario
import StateFabric.Refinement.Identity

/-!
# Single ownership

In every run that wraps no counter, a copy with owner authority is the one the active ownership
record of its generation names, and that record names a committed copy of the generation that is
neither RETIRED nor ABANDONED.
-/

namespace StateFabric

open Protocol Transition ControlPlane Scenario

/-- Ownership records and owner authority agree. -/
structure SingleOwnership (p : ControlPlane) : Prop where
  /-- A replica with owner authority is the recorded owner of its generation. -/
  recorded : ∀ (k : ReplicaId) (replica : ReplicaRecord), p.replicas[k]? = some replica →
    replica.authority = .authoritativeOwner →
    ∃ ownership, p.ownership[replica.key]? = some ownership ∧ ownership.active = true
      ∧ ownership.ownerReplica = k
  /-- At most one replica of a generation has owner authority. -/
  unique : ∀ (k k' : ReplicaId) (replica replica' : ReplicaRecord),
    p.replicas[k]? = some replica → p.replicas[k']? = some replica' →
    replica.authority = .authoritativeOwner → replica'.authority = .authoritativeOwner →
    replica.key = replica'.key → k = k'
  /-- The owner an active record names is a committed live replica of the generation. -/
  held : ∀ (K : StateKey) (ownership : OwnershipRecord), p.ownership[K]? = some ownership →
    ownership.active = true →
    ∃ replica, p.replicas[ownership.ownerReplica]? = some replica ∧ replica.key = K
      ∧ replica.commitRecorded = true ∧ replica.lifecycle ≠ .retired
      ∧ replica.lifecycle ≠ .abandoned

theorem owned_empty : Owned Plane.empty where
  owner _ _ h := by cases h
  held _ _ h := by cases h
  staged _ _ h := by cases h
  source _ _ h := by cases h
  destination _ _ h := by cases h
  destructive _ _ h := by cases h

/-- The protocol invariant, in the terms of the records. -/
theorem SingleOwnership.of_owned {p : ControlPlane} (h : Owned p.abs) : SingleOwnership p := by
  have hrecorded : ∀ (k : ReplicaId) (replica : ReplicaRecord), p.replicas[k]? = some replica →
      replica.authority = .authoritativeOwner →
      ∃ ownership, p.ownership[replica.key]? = some ownership ∧ ownership.active = true
        ∧ ownership.ownerReplica = k := by
    intro k replica hreplica howner
    have howns := h.owner k replica.view (abs_replicas hreplica) howner
    obtain ⟨ownership, hownership, hview⟩ := Option.map_eq_some_iff.mp howns
    exact ⟨ownership, hownership, congrArg OwnershipView.active hview,
      congrArg OwnershipView.owner hview⟩
  refine ⟨hrecorded, ?_, ?_⟩
  · intro k k' replica replica' hreplica hreplica' howner howner' hkey
    obtain ⟨ownership, hownership, -, hk⟩ := hrecorded k replica hreplica howner
    obtain ⟨ownership', hownership', -, hk'⟩ := hrecorded k' replica' hreplica' howner'
    rw [← hkey, hownership] at hownership'
    rw [← hk, ← hk', Option.some.inj hownership']
  · intro K ownership hownership hactive
    have howns : p.abs.Owns K ownership.ownerReplica := by
      unfold Plane.Owns
      rw [abs_ownership hownership, OwnershipRecord.view, hactive]
    obtain ⟨v, hv, hkey, hcommitted, hlive⟩ := h.held K _ howns
    obtain ⟨replica, hreplica, rfl⟩ := abs_replicas_eq_some.mp hv
    exact ⟨replica, hreplica, hkey, hcommitted, fun hl => hlive (.inl hl),
      fun hl => hlive (.inr hl)⟩

theorem single_ownership {r : Runtime} (h : Reachable Opened (Restrict Step NoWrap) r) :
    SingleOwnership r.plane :=
  .of_owned (bounded_invariant owned_empty
    (fun _ _ _ _ _ hmints hstep hI => hstep.owned hmints hI) h).2.2

/-- The owner of a single-writer generation hands over to a second copy, then retires. -/
def Scenario.handedOver : List Mutation :=
  cluster 1 :: state 1 1 .singleWriter :: copy 20 1 1 1 7 true
    ++ [replica 21 1 1 1, completion 21, verification 21, handoff 1 1 20 21 1 8, retirement 20]

theorem single_ownership_of_handedOver :
    SingleOwnership (reach handedOver).plane
      ∧ (reach handedOver).plane.replicas[(⟨21⟩ : ReplicaId)]?.map (·.authority)
        = some .authoritativeOwner
      ∧ (reach handedOver).plane.replicas[(⟨20⟩ : ReplicaId)]?.map (·.lifecycle)
        = some .retired :=
  ⟨single_ownership (reachable_of_complies (by decide +kernel)), by decide +kernel,
    by decide +kernel⟩

end StateFabric
