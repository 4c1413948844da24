import StateFabric.Protocol.Basic

/-!
# Invariants of the authority protocol

Each invariant is shown kept by one step from the moves the step can contain.  Where it needs
more than the step, the extra condition is a hypothesis of the step lemma: a reservation that
mints an identity already in use, say, or a verification against a generation without a
content digest.
-/

namespace StateFabric

namespace Protocol

open Plane OrderedMap

variable {v v' : ReplicaView} {K : StateKey} {k : ReplicaId}

variable {a : Action} {p p' : Plane}

/-! ## One current trunk -/

/-- On every lineage of a state at most one generation that is not a branch is current. -/
def Trunk (p : Plane) : Prop :=
  ∀ K K' s s', p.states K = some s → p.states K' = some s' → K.stateId = K'.stateId →
    s.lineage = s'.lineage → s.branch = false → s'.branch = false →
    s.lifecycle = .current → s'.lifecycle = .current → K = K'

/-- A generation is current after a step because it was, or because the step committed it. -/
theorem Step.current_cases (h : Step a p p') {s' : StateView} (hs' : p'.states K = some s')
    (current : s'.lifecycle = .current) :
    p.states K = some s' ∨
      (a = .commitState K ∧ (s'.branch = false → ∀ K' t, K' ≠ K → K'.stateId = K.stateId →
        p.states K' = some t → t.lifecycle = .current → t.lineage = s'.lineage →
        p'.states K' = some { t with lifecycle := .historical })) := by
  rcases h.states.of_some hs' with hk | hm
  · exact .inl hk
  · generalize hold : p.states K = old at hm
    cases hm with
    | register s act staged => simp [staged] at current
    | publish s s' act staged staged' => simp [staged'] at current
    | commit s act notCurrent supersedes => exact .inr ⟨act, supersedes⟩
    | supersede => simp at current

theorem Step.trunk (h : Step a p p') (hp : Trunk p) : Trunk p' := by
  intro K K' s s' hs hs' hid hlineage hb hb' hc hc'
  rcases h.current_cases hs hc with hold | ⟨hact, hsup⟩
  · rcases h.current_cases hs' hc' with hold' | ⟨hact', hsup'⟩
    · exact hp K K' s s' hold hold' hid hlineage hb hb' hc hc'
    · by_contra hne
      have hhist := hsup' hb' K s hne hid hold hc hlineage
      rw [some_unique hs hhist] at hc
      simp at hc
  · by_contra hne
    rcases h.current_cases hs' hc' with hold' | ⟨hact', -⟩
    · have hhist := hsup hb K' s' (Ne.symm hne) hid.symm hold' hc' hlineage.symm
      rw [some_unique hs' hhist] at hc'
      simp at hc'
    · rw [hact] at hact'
      exact hne (Action.commitState.inj hact')

/-- A generation that was committed at some time: it is current or was superseded. -/
def Committed (p : Plane) (K : StateKey) : Prop :=
  ∃ s, p.states K = some s ∧ (s.lifecycle = .current ∨ s.lifecycle = .historical)

theorem Step.committed (h : Step a p p') (hp : Committed p K) : Committed p' K := by
  obtain ⟨s, hs, hlifecycle⟩ := hp
  rcases h.states K with hk | ⟨s', hk, hm⟩
  · exact ⟨s, hk.trans hs, hlifecycle⟩
  · rw [hs] at hm
    cases hm with
    | publish s s' act staged => simp [staged] at hlifecycle
    | commit => exact ⟨_, hk, .inl rfl⟩
    | supersede => exact ⟨_, hk, .inr rfl⟩

/-! ## No counting behind a fence -/

/-- Every counting replica is hosted by a live incarnation of its cluster. -/
def Hosting (p : Plane) : Prop := ∀ k v, p.replicas k = some v → v.Counting → p.Hosts v

theorem ReplicaView.not_counting_fenced {availability lifecycle} :
    ¬ (v.fenced availability lifecycle).Counting := by
  rintro ⟨-, hcounts, -⟩
  simp [ReplicaView.fenced] at hcounts

theorem ReplicaView.not_counting_superseded : ¬ v.superseded.Counting := by
  rintro ⟨-, hcounts, -⟩
  simp [ReplicaView.superseded] at hcounts

theorem ReplicaView.Counting.not_terminal (h : v.Counting) : ¬ v.Terminal := by
  obtain ⟨-, -, -, -, hl | hl⟩ := h <;> simp [ReplicaView.Terminal, hl]

/-- The action may put a copy of a generation into authority. -/
def Action.Establishes (a : Action) (p : Plane) (K : StateKey) (k : ReplicaId) : Prop :=
  a = .commitReplica k ∨ a = .revalidate k ∨ a = .handoff K k
    ∨ ∃ o op, a = .complete o ∧ p.Completable o op ∧ op.destination = k

/-- A replica that counts after a move counted before, at the same place, or was put into
authority by the move, at a live place and with its set moved on. -/
theorem ReplicaMove.counting_cases {old : Option ReplicaView} (h : ReplicaMove a p p' k old v')
    (counting : v'.Counting) :
    ∃ v, old = some v ∧ v.key = v'.key ∧
      ((v.Counting ∧ v.cluster = v'.cluster ∧ v.incarnation = v'.incarnation)
        ∨ (p'.Hosts v' ∧ a.Establishes p v.key k ∧ p.Advances p' v.key)) := by
  cases h with
  | register v act fresh | reserve old v o act destination fresh =>
    simp [ReplicaView.Counting, fresh.uncommitted] at counting
  | progress | abandon | verify | retire | quarantine | suspend =>
    simp [ReplicaView.Counting] at counting
  | receive v v' o act accepted integrity => exact absurd counting.2.2.1 integrity
  | refuse v v' o act accepted lifecycle =>
    obtain ⟨-, -, -, -, hl⟩ := counting
    rcases lifecycle with h' | h' | h' | h' <;> simp [h'] at hl
  | commit v authority act lifecycle validated hosted advances =>
    refine ⟨v, rfl, rfl, .inr ⟨hosted, ?_, advances⟩⟩
    rcases act with ⟨hact, -⟩ | ⟨o, op, hact, hc, hdest, -⟩
    · exact .inl hact
    · exact .inr (.inr (.inr ⟨o, op, hact, hc, hdest⟩))
  | promote v act integrity compatibility prepared hosted advances =>
    exact ⟨v, rfl, rfl, .inr ⟨hosted, .inr (.inr (.inl act)), advances⟩⟩
  | demote v | recover v => exact ⟨v, rfl, rfl, .inl ⟨counting, rfl, rfl⟩⟩
  | revalidate v incarnation authority act live integrity hosted advances =>
    exact ⟨v, rfl, rfl, .inr ⟨hosted, .inr (.inl act), advances⟩⟩
  | supersede => exact absurd counting ReplicaView.not_counting_superseded
  | fence => exact absurd counting ReplicaView.not_counting_fenced

theorem Step.hosts_of_counting (h : Step a p p') (hv : p.replicas k = some v)
    (counting : v.Counting) (hosted : p.Hosts v) (hv' : p'.replicas k = some v')
    (counting' : v'.Counting) : p'.Hosts v := by
  have not_fenced : ∀ availability lifecycle,
      p'.replicas k ≠ some (v.fenced availability lifecycle) := by
    intro availability lifecycle heq
    rw [some_unique hv' heq] at counting'
    exact ReplicaView.not_counting_fenced counting'
  obtain ⟨c, hc, hlive, hinc⟩ := hosted
  rcases h.clusters v.cluster with hk | ⟨c', hk, hm⟩
  · exact ⟨c, hk.trans hc, hlive, hinc⟩
  · rw [hc] at hm
    cases hm with
    | refresh => exact ⟨_, hk, rfl, hinc⟩
    | lose c act fences =>
      obtain ⟨availability, lifecycle, -, heq⟩ :=
        fences k v hv rfl hinc.symm counting.not_terminal
      exact absurd heq (not_fenced availability lifecycle)
    | reincarnate c incarnation act fences =>
      by_cases hsame : v.incarnation = incarnation
      · exact ⟨_, hk, rfl, hsame.symm⟩
      · obtain ⟨availability, lifecycle, -, heq⟩ :=
          fences k v hv rfl hsame counting.not_terminal
        exact absurd heq (not_fenced availability lifecycle)

theorem Step.hosting (h : Step a p p') (hp : Hosting p) : Hosting p' := by
  intro k v' hv' counting'
  rcases h.replicas.of_some hv' with hk | hm
  · have hv : p.replicas k = some v' := hk
    exact h.hosts_of_counting hv counting' (hp k v' hv counting') hv' counting'
  · obtain ⟨v, hv, -, ⟨counting, hcluster, hinc⟩ | ⟨hosted, -⟩⟩ := hm.counting_cases counting'
    · obtain ⟨c, hc, hlive, hc'⟩ :=
        h.hosts_of_counting hv counting (hp k v hv counting) hv' counting'
      exact ⟨c, hcluster ▸ hc, hlive, hc'.trans hinc⟩
    · exact hosted

end Protocol

end StateFabric
