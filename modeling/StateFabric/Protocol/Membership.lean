import StateFabric.Protocol.Fencing

/-!
# Membership and the generation of a replica set

Operations are fenced by the generation of their replica set, so the generation has to move on
when the counting copies change and ought to stay when nothing changed.

* `Step.moved_of_membership`: a step that changes the counting copies of a generation moves its set
  on, unless it verifies a copy again or reserves a copy under an identity in use (`Overwrites`).
* `Impact` says which sets a step moves on.  `Impact.undisturbed_iff`: a step moves no set on
  without need exactly when the standing of every set it moves on has changed.
-/

namespace StateFabric

namespace Protocol

open Plane OrderedMap

variable {K : StateKey} {k : ReplicaId} {v : ReplicaView}

variable {a : Action} {p p' : Plane}

namespace Plane

variable (p p' : Plane) (K : StateKey)

/-- The replica is a counting copy of a generation. -/
def Member (k : ReplicaId) : Prop := ∃ v, p.replicas k = some v ∧ v.key = K ∧ v.Counting

/-- The counting copies of a generation are the same. -/
def SameMembers : Prop := ∀ k, p.Member K k ↔ p'.Member K k

/-- The generation is the current one. -/
def Current : Prop := ∃ s, p.states K = some s ∧ s.lifecycle = .current

/-- The counting copies of a generation, its active owner and whether it is current are the
same. -/
structure SameStanding : Prop where
  members : p.SameMembers p' K
  owner : ∀ k, p.Owns K k ↔ p'.Owns K k
  current : p.Current K ↔ p'.Current K

/-- The replica set of a generation has the next generation. -/
def Moved : Prop := ∃ g, p.setGeneration K = some g ∧ p'.setGeneration K = some (g + 1)

/-- The replica set of a generation has the same generation. -/
def Unmoved : Prop := ∀ g, p.setGeneration K = some g → p'.setGeneration K = some g

/-- Every registered generation has a replica set. -/
def Covered : Prop := ∀ K s, p.states K = some s → ∃ g, p.setGeneration K = some g

end Plane

theorem Plane.Advances.moved {g : UInt64} (h : p.Advances p' K) (hg : p.setGeneration K = some g) :
    p.Moved p' K :=
  ⟨g, hg, h g hg⟩

/-- A set that stayed did not move on: the next generation is another one, wrapped or not. -/
theorem Plane.Unmoved.not_moved (h : p.Unmoved p' K) : ¬ p.Moved p' K := by
  rintro ⟨g, hg, hnext⟩
  have heq : g = g + 1 := some_unique (h g hg) hnext
  simp at heq

/-- With the owner and the generation as they were, the standing is the membership. -/
theorem Plane.sameStanding_iff (ownership : p'.ownership K = p.ownership K)
    (states : p'.states K = p.states K) : p.SameStanding p' K ↔ p.SameMembers p' K := by
  refine ⟨SameStanding.members, fun hmembers => ⟨hmembers, fun k => ?_, ?_⟩⟩
  · rw [Owns, Owns, ownership]
  · rw [Current, Current, states]

/-! ## Sets are registered with their generations -/

theorem Step.covered (h : Step a p p') (hp : p.Covered) : p'.Covered := by
  have kept : ∀ {K s}, p.states K = some s → ∃ g, p'.setGeneration K = some g := by
    intro K s hs
    obtain ⟨g, hg⟩ := hp K s hs
    exact h.set_isSome hg
  intro K s' hs'
  rcases h.states K with hk | ⟨s, -, hm⟩
  · exact kept (hk ▸ hs')
  · generalize hold : p.states K = old at hm
    cases hm with
    | register _ _ _ set => exact set
    | publish | commit | supersede => exact kept hold

/-! ## A changed membership moves the set on -/

/-- The action rewrites a copy without moving its set on: it verifies the copy, or reserves a copy
under its identity. -/
def Action.Overwrites (a : Action) (k : ReplicaId) : Prop :=
  (∃ o accepted, a = .verify k o accepted) ∨ ∃ o, a = .authorize o ∧ k = destinationOf o

/-- A copy that no longer counts was overwritten, or its set moved on. -/
theorem ReplicaMove.uncounted {v' : ReplicaView} (h : ReplicaMove a p p' k (some v) v')
    (counted : v.Counting) (lost : ¬ (v'.key = v.key ∧ v'.Counting)) :
    a.Overwrites k ∨ p.Advances p' v.key := by
  have hcommitted := counted.1
  have hlifecycle := counted.2.2.2.2
  cases h with
  | reserve _ _ o act destination => exact .inl (.inr ⟨o, act, destination⟩)
  | refuse _ _ o act | verify _ _ o act => exact .inl (.inl ⟨o, _, act⟩)
  | progress _ o act staging =>
    -- A counting copy is out of its staging phase and takes no transfer reports.
    rcases hlifecycle with hl | hl <;> simp [hl, ReplicaLifecycle.isStagingPhase] at staging
  | receive _ _ o act accepted =>
    rcases hlifecycle with hl | hl <;> simp [hl, ReplicaLifecycle.acceptsCompletion] at accepted
  | abandon _ _ allowed =>
    rcases allowed with ⟨o, -, staging, -⟩ | ⟨o, op, -, -, -, huncommitted, -⟩
      | ⟨o, op, -, -, -, -, huncommitted⟩
    · rcases hlifecycle with hl | hl <;> simp [hl, ReplicaLifecycle.isStagingPhase] at staging
    · simp [huncommitted] at hcommitted
    · simp [huncommitted] at hcommitted
  | suspend _ act uncommitted => simp [uncommitted] at hcommitted
  | demote | recover => exact absurd ⟨rfl, counted⟩ lost
  | commit _ _ _ _ _ _ advances | promote _ _ _ _ _ _ advances
  | retire _ _ _ advances | quarantine _ _ _ advances
  | revalidate _ _ _ _ _ _ _ advances | supersede _ _ _ advances | fence _ _ _ _ _ _ _ advances =>
    exact .inr advances

theorem ReplicaMove.not_counting_of_overwrites {old : Option ReplicaView}
    (h : ReplicaMove a p p' k old v) (overwrites : a.Overwrites k) : ¬ v.Counting := by
  intro counting
  have hact : (∃ o accepted, a = .verify k o accepted) ∨ ∃ o, a = .authorize o :=
    overwrites.imp_right fun ⟨o, act, _⟩ => ⟨o, act⟩
  cases h with
  | register v act fresh | reserve old v o act destination fresh =>
    simp [ReplicaView.Counting, fresh.uncommitted] at counting
  | receive v v' o act accepted integrity => exact integrity counting.2.2.1
  | refuse v v' o act accepted lifecycle =>
    obtain ⟨-, -, -, -, hl⟩ := counting
    rcases lifecycle with h' | h' | h' | h' <;> simp [h'] at hl
  | supersede => exact ReplicaView.not_counting_superseded counting
  | fence => exact ReplicaView.not_counting_fenced counting
  | progress | abandon | verify | retire | quarantine | suspend =>
    simp [ReplicaView.Counting] at counting
  -- What remains leaves a copy counting and belongs to other actions.
  | commit v authority act => rcases hact with ⟨o, b, rfl⟩ | ⟨o, rfl⟩ <;> simp at act
  | promote v act => rcases hact with ⟨o, b, rfl⟩ | ⟨o, rfl⟩ <;> cases act
  | demote v K act => rcases hact with ⟨o, b, rfl⟩ | ⟨o, rfl⟩ <;> simp at act
  | revalidate v incarnation authority act =>
    rcases hact with ⟨o, b, rfl⟩ | ⟨o, rfl⟩ <;> cases act
  | recover v act => rcases hact with ⟨o, b, rfl⟩ | ⟨o, rfl⟩ <;> cases act

/-- A step that overwrites no counting copy moves on every set whose members it changes. -/
theorem Step.moved_of_membership (h : Step a p p')
    (set : ∀ k v, p.replicas k = some v → v.key = K → ∃ g, p.setGeneration K = some g)
    (spares : ∀ k, a.Overwrites k → ¬ p.Member K k) (changed : ¬ p.SameMembers p' K) :
    p.Moved p' K := by
  obtain ⟨k, hk⟩ := not_forall.mp changed
  by_cases hmember : p.Member K k
  · -- The copy was lost.
    have hlost : ¬ p'.Member K k := fun h' => hk (iff_of_true hmember h')
    obtain ⟨v, hv, rfl, hcounting⟩ := hmember
    obtain ⟨g, hg⟩ := set k v hv rfl
    rcases h.replicas k with hsame | ⟨v', hv', hm⟩
    · exact absurd ⟨v, hsame.trans hv, rfl, hcounting⟩ hlost
    · rw [hv] at hm
      rcases hm.uncounted hcounting (fun hkept => hlost ⟨v', hv', hkept⟩) with hover | hadv
      · exact absurd ⟨v, hv, rfl, hcounting⟩ (spares k hover)
      · exact hadv.moved hg
  · -- The copy was gained.
    have hgained : p'.Member K k := by
      by_contra h'
      exact hk (iff_of_false hmember h')
    obtain ⟨v', hv', rfl, hcounting⟩ := hgained
    rcases h.replicas k with hsame | ⟨w, hw, hm⟩
    · exact absurd ⟨v', hsame ▸ hv', rfl, hcounting⟩ hmember
    · obtain rfl : w = v' := some_unique hw hv'
      obtain ⟨v, hv, hkey, ⟨hcounted, -⟩ | ⟨-, -, hadv⟩⟩ := hm.counting_cases hcounting
      · exact absurd ⟨v, hv, hkey, hcounted⟩ hmember
      · obtain ⟨g, hg⟩ := set k v hv hkey
        exact (hkey ▸ hadv).moved hg

/-! ## Which sets a step moves on -/

/-- The step moves on the sets of the given generations, which exist, and no others. -/
structure Impact (p p' : Plane) (advanced : StateKey → Prop) : Prop where
  registered : ∀ K, advanced K → ∃ g, p.setGeneration K = some g
  advances : ∀ K, advanced K → p.Advances p' K
  unmoved : ∀ K, ¬ advanced K → p.Unmoved p' K

/-- No set moves on while its standing is the same. -/
def Undisturbed (p p' : Plane) : Prop := ∀ K, p.SameStanding p' K → p.Unmoved p' K

theorem Impact.undisturbed_iff {advanced : StateKey → Prop} (h : Impact p p' advanced) :
    Undisturbed p p' ↔ ∀ K, advanced K → ¬ p.SameStanding p' K := by
  constructor
  · intro hu K hadv hsame
    obtain ⟨g, hg⟩ := h.registered K hadv
    exact (hu K hsame).not_moved ((h.advances K hadv).moved hg)
  · intro hchanged K hsame
    by_cases hadv : advanced K
    · exact absurd hsame (hchanged K hadv)
    · exact h.unmoved K hadv

/-- Every set stays exactly when the step moves none on. -/
theorem Impact.unmoved_iff {advanced : StateKey → Prop} (h : Impact p p' advanced) :
    (∀ K, p.Unmoved p' K) ↔ ∀ K, ¬ advanced K := by
  constructor
  · intro hall K hadv
    obtain ⟨g, hg⟩ := h.registered K hadv
    exact (hall K).not_moved ((h.advances K hadv).moved hg)
  · exact fun hnone K => h.unmoved K (hnone K)

theorem Impact.undisturbed (h : Impact p p' fun _ => False) : Undisturbed p p' :=
  h.undisturbed_iff.mpr fun _ hadv => hadv.elim

end Protocol

end StateFabric
