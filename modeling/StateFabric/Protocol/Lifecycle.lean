import StateFabric.Protocol.Evidence
import StateFabric.Protocol.Ownership

/-!
# Lifecycles that end, and authority that is taken away

A RETIRED or ABANDONED copy is meant to stay so.  Three moves write such a copy all the same: a
reservation of an identity in use, a handoff, which asks for evidence but not for the lifecycle,
and a restart, which abandons the uncommitted copy of an early operation.  `SparesTerminal` says
of a step that it does none of this.

A `Disarmed` copy regains authority by new evidence, or as a side effect: a commit of a copy that
was prepared before it was fenced, and a handover, which promotes one copy and demotes another
whatever their authority was.  `SparesDisarmed` rules the side effects out.
-/

namespace StateFabric

namespace Protocol

open Plane OrderedMap

variable {a : Action} {p p' : Plane} {k : ReplicaId} {v v' : ReplicaView}

/-! ## Terminal copies -/

/-- The step does not write a terminal copy anew. -/
structure SparesTerminal (a : Action) (p : Plane) (k : ReplicaId) (v : ReplicaView) : Prop where
  unreserved : ∀ o, a = .authorize o → k ≠ destinationOf o
  unpromoted : a ≠ .handoff v.key k
  settled : a = .reopen → ∀ o op, p.operations o = some op → op.Early → op.destination = k →
    v.committed = false → v.lifecycle = .abandoned

theorem ReplicaView.Terminal.not_staging (h : v.Terminal) : v.lifecycle.isStagingPhase = false := by
  rcases h with h | h <;> simp [h, ReplicaLifecycle.isStagingPhase]

theorem ReplicaView.Terminal.superseded (h : v.Terminal) :
    v.superseded.lifecycle = v.lifecycle := by
  rcases h with h | h <;> simp [ReplicaView.superseded, h]

/-- A terminal copy keeps its lifecycle. -/
theorem ReplicaMove.terminal (h : ReplicaMove a p p' k (some v) v') (terminal : v.Terminal)
    (spares : SparesTerminal a p k v) : v'.lifecycle = v.lifecycle := by
  have hstaging := terminal.not_staging
  cases h with
  | reserve old w o act destination => exact absurd destination (spares.unreserved o act)
  | progress w o act staging =>
    simp [hstaging] at staging
  | abandon w revalidation allowed =>
    rcases allowed with ⟨o, -, staging, -⟩ | ⟨o, op, -, -, -, -, live, -⟩
      | ⟨o, op, hact, hop, hearly, hdest, huncommitted⟩
    · simp [hstaging] at staging
    · exact absurd terminal live
    · exact (spares.settled hact o op hop hearly hdest huncommitted).symm
  | receive w w' o act accepted =>
    rcases terminal with h | h <;> simp [h, ReplicaLifecycle.acceptsCompletion] at accepted
  | refuse w w' o act accepted | verify w measured o act accepted =>
    rcases terminal with h | h <;> simp [h, ReplicaLifecycle.acceptsVerification] at accepted
  | commit w authority act lifecycle =>
    rcases terminal with h | h <;> simp [h] at lifecycle
  | promote w act =>
    exact absurd act spares.unpromoted
  | demote => rfl
  | retire w act live | quarantine w act live | revalidate w incarnation authority act live
  | fence w availability lifecycle c act stale live
  | recover w act live | suspend w act uncommitted live => exact absurd terminal live
  | supersede =>
    exact terminal.superseded

theorem Step.terminal (h : Step a p p') (hv : p.replicas k = some v) (terminal : v.Terminal)
    (spares : SparesTerminal a p k v) :
    ∃ v', p'.replicas k = some v' ∧ v'.lifecycle = v.lifecycle := by
  rcases h.replicas k with hk | ⟨v', hk, hm⟩
  · exact ⟨v, hk.trans hv, rfl⟩
  · rw [hv] at hm
    exact ⟨v', hk, hm.terminal terminal spares⟩

/-! ## Disarmed copies -/

/-- A copy that has been taken out of authority does not count, and STALE and QUARANTINED copies
are such copies. -/
structure Disarming (v : ReplicaView) : Prop where
  uncounted : v.Disarmed → v.counts = false
  disarmed : v.lifecycle = .stale ∨ v.lifecycle = .quarantined → v.Disarmed

/-- The step gives no disarmed copy authority without new evidence. -/
structure SparesDisarmed (a : Action) (p : Plane) : Prop where
  fresh : MintsFresh a p
  committed : ∀ k v, (a = .commitReplica k ∨ ∃ o op, a = .complete o ∧ p.operations o = some op
    ∧ op.destination = k) → p.replicas k = some v → ¬ v.Disarmed
  promoted : ∀ k v, a = .handoff v.key k → p.replicas k = some v → ¬ v.Disarmed
  demoted : ∀ K k v, ((∃ o op w, a = .complete o ∧ p.operations o = some op
      ∧ p.replicas op.destination = some w ∧ w.key = K) ∨ ∃ n, a = .handoff K n) →
    p.Owns K k → p.replicas k = some v → ¬ v.Disarmed

theorem Fresh.not_disarmed (h : Fresh v) : ¬ v.Disarmed := by
  simp [ReplicaView.Disarmed, h.candidate]

theorem Fresh.disarming (h : Fresh v) : Disarming v := by
  refine ⟨fun hd => absurd hd h.not_disarmed, fun hl => ?_⟩
  have hstaging := h.staging
  rcases hl with hl | hl <;> simp [hl, ReplicaLifecycle.isStagingPhase] at hstaging

theorem Disarming.of_disarmed (disarmed : v.Disarmed) (uncounted : v.counts = false) :
    Disarming v :=
  ⟨fun _ => uncounted, fun _ => disarmed⟩

/-- So is one in authority or a candidate for it, outside the two lifecycles. -/
theorem Disarming.of_lifecycle (armed : v.Disarmed → v.counts = false)
    (lifecycle : v.lifecycle ≠ .stale ∧ v.lifecycle ≠ .quarantined) : Disarming v := by
  refine ⟨armed, ?_⟩
  rintro (h | h)
  · exact absurd h lifecycle.1
  · exact absurd h lifecycle.2

theorem ReplicaMove.disarming {old : Option ReplicaView} (h : ReplicaMove a p p' k old v')
    (recorded : p.replicas k = old) (spares : SparesDisarmed a p)
    (hold : ∀ v, old = some v → Disarming v) : Disarming v' := by
  cases h with
  | register v act fresh | reserve old v o act destination fresh => exact fresh.disarming
  | progress v | verify v => exact .of_lifecycle (hold v rfl).uncounted (by simp)
  | abandon => exact .of_disarmed (.inr (.inr rfl)) rfl
  | receive v v' o act accepted integrity lifecycle corrupt authority =>
    rcases authority with ⟨hsame, hcounts⟩ | ⟨hfenced, hcounts⟩
    · refine .of_lifecycle ?_ (by rcases lifecycle with h | h <;> simp [h])
      simpa only [ReplicaView.Disarmed, hsame, hcounts] using (hold v rfl).uncounted
    · exact .of_disarmed (.inl hfenced) hcounts
  | refuse v v' o act accepted lifecycle failed corrupt measured authority =>
    rcases authority with ⟨hsame, hcounts, hnot⟩ | ⟨hfenced, hcounts⟩
    · refine .of_lifecycle ?_ ⟨by rcases lifecycle with h | h | h | h <;> simp [h], hnot⟩
      simpa only [ReplicaView.Disarmed, hsame, hcounts] using (hold v rfl).uncounted
    · exact .of_disarmed (.inl hfenced) hcounts
  | commit v authority act lifecycle validated hosted advances owner =>
    refine .of_lifecycle ?_ (by simp)
    rcases owner with ⟨rfl, -⟩ | rfl <;> simp [ReplicaView.Disarmed]
  | promote => exact .of_lifecycle (by simp [ReplicaView.Disarmed]) (by simp)
  | demote v K act live owner =>
    have harmed := spares.demoted K k v act owner recorded
    refine .of_lifecycle (by simp [ReplicaView.Disarmed]) ⟨fun hl => ?_, fun hl => ?_⟩
    · exact harmed ((hold v rfl).disarmed (.inl hl))
    · exact harmed ((hold v rfl).disarmed (.inr hl))
  | retire | supersede => exact .of_disarmed (.inr (.inl rfl)) rfl
  | quarantine | fence | suspend => exact .of_disarmed (.inl rfl) rfl
  | revalidate v incarnation authority act live integrity hosted advances owner armed =>
    refine .of_lifecycle ?_ (by cases hc : v.committed <;> simp)
    rcases armed with rfl | rfl | rfl <;> simp [ReplicaView.Disarmed]
  | recover v => exact ⟨(hold v rfl).uncounted, (hold v rfl).disarmed⟩

theorem Step.disarming (h : Step a p p') (spares : SparesDisarmed a p)
    (hp : ∀ k v, p.replicas k = some v → Disarming v) :
    ∀ k v, p'.replicas k = some v → Disarming v := by
  intro k v' hv'
  rcases h.replicas.of_some hv' with hk | hm
  · exact hp k v' hk
  · exact hm.disarming rfl spares fun v hv => hp k v hv

theorem ReplicaMove.disarmed (h : ReplicaMove a p p' k (some v) v')
    (recorded : p.replicas k = some v) (spares : SparesDisarmed a p)
    (unvalidated : a ≠ .revalidate k) (disarmed : v.Disarmed) : v'.Disarmed := by
  cases h with
  | reserve old w o act destination =>
    have hfree := spares.fresh o act
    rw [← destination, recorded] at hfree
    cases hfree
  | receive w w' o act accepted integrity lifecycle corrupt authority
  | refuse w w' o act accepted lifecycle failed corrupt measured authority =>
    rcases authority with ⟨hsame, -⟩ | ⟨hfenced, -⟩
    · simpa only [ReplicaView.Disarmed, hsame] using disarmed
    · exact .inl hfenced
  | commit w authority act =>
    refine absurd disarmed (spares.committed k v ?_ recorded)
    rcases act with ⟨hact, -⟩ | ⟨o, op, hact, hcompletable, hdest, -⟩
    · exact .inl hact
    · exact .inr ⟨o, op, hact, hcompletable.recorded, hdest⟩
  | promote w act =>
    exact absurd disarmed (spares.promoted k v act recorded)
  | demote w K act live owner =>
    exact absurd disarmed (spares.demoted K k v act owner recorded)
  | revalidate w incarnation authority act => exact absurd act unvalidated
  | progress | verify | recover => exact disarmed
  | abandon => exact .inr (.inr rfl)
  | retire | supersede => exact .inr (.inl rfl)
  | quarantine | fence | suspend => exact .inl rfl

theorem Step.disarmed (h : Step a p p') (spares : SparesDisarmed a p)
    (unvalidated : a ≠ .revalidate k) (hv : p.replicas k = some v) (disarmed : v.Disarmed) :
    ∃ v', p'.replicas k = some v' ∧ v'.Disarmed := by
  rcases h.replicas k with hk | ⟨v', hk, hm⟩
  · exact ⟨v, hk.trans hv, disarmed⟩
  · rw [hv] at hm
    exact ⟨v', hk, hm.disarmed hv spares unvalidated disarmed⟩

end Protocol

end StateFabric
