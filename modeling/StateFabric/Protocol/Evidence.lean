import StateFabric.Protocol.Invariants

/-!
# Evidence: what is withheld, and what content is agreed on

After a restart no copy may be reused before it was verified or revalidated again.  `Withheld`
is the condition on one copy that says so and that every other move keeps, also for terminal
copies, which a restart skips and a handoff can promote.

`Agreed` says that verified copies carry the content digest of their generation.  It is kept by
steps that verify only against generations with a content digest and that publish no other
digest over a verified copy (`Comparable`).
-/

namespace StateFabric

namespace Protocol

open Plane OrderedMap

variable {k : ReplicaId} {v' v : ReplicaView} {old : Option ReplicaView}

variable {a : Action} {p p' : Plane}

/-! ## Withheld copies -/

/-- Terminal copies are absent. -/
def Departed (p : Plane) : Prop :=
  ∀ k v, p.replicas k = some v → v.Terminal → v.availability = .absent

theorem Fresh.not_terminal (h : Fresh v) : ¬ v.Terminal := by
  have hstaging := h.staging
  rintro (hl | hl) <;> simp [hl, ReplicaLifecycle.isStagingPhase] at hstaging

theorem ReplicaMove.departed (h : ReplicaMove a p p' k old v')
    (hold : ∀ v, old = some v → v.Terminal → v.availability = .absent) (terminal : v'.Terminal) :
    v'.availability = .absent := by
  cases h with
  | register v act fresh | reserve old v o act destination fresh =>
    exact absurd terminal fresh.not_terminal
  | progress | verify | commit | promote | quarantine | suspend =>
    simp [ReplicaView.Terminal] at terminal
  | abandon | retire => rfl
  | receive v v' o act accepted integrity lifecycle | refuse v v' o act accepted lifecycle =>
    rcases terminal with h | h <;> simp [h] at lifecycle
  | demote v => exact hold v rfl terminal
  | revalidate v => cases hc : v.committed <;> simp [ReplicaView.Terminal, hc] at terminal
  | supersede v =>
    refine hold v rfl ?_
    simp only [ReplicaView.Terminal, ReplicaView.superseded] at terminal
    split at terminal
    · simp at terminal
    · exact terminal
  | fence v availability lifecycle c act stale live =>
    simp only [ReplicaView.Terminal, ReplicaView.fenced] at terminal
    split at terminal
    · rcases stale with h | h <;> simp [h] at terminal
    · exact absurd terminal live
  | recover v act live => exact absurd terminal live

theorem Step.departed (h : Step a p p') (hp : Departed p) : Departed p' := by
  intro k v' hv' terminal
  rcases h.replicas.of_some hv' with hk | hm
  · exact hp k v' hk terminal
  · exact hm.departed (fun v hv => hp k v hv) terminal

/-- A copy that may not be reused: it awaits revalidation, it is absent, or it is in no
lifecycle that leads to reuse without new evidence. -/
def Withheld (v : ReplicaView) : Prop :=
  v.revalidation = true
    ∨ (v.availability = .absent ∧ (v.Terminal ∨ (v.committed = true ∧ v.lifecycle ≠ .prepared)))
    ∨ ((v.lifecycle ≠ .authoritative ∧ v.lifecycle ≠ .degraded ∧ v.lifecycle ≠ .prepared)
      ∧ (v.committed = false ∨ v.integrity ≠ .verified ∨ v.compatibility ≠ .compatible))

theorem Withheld.of_fresh (h : Fresh v) : Withheld v := by
  refine .inr (.inr ⟨?_, .inl h.uncommitted⟩)
  have := h.staging
  refine ⟨?_, ?_, ?_⟩ <;> intro hl <;> simp [hl, ReplicaLifecycle.isStagingPhase] at this

/-- Only an accepted verification and a revalidation lift a withholding. -/
theorem ReplicaMove.withheld (h : ReplicaMove a p p' k old v')
    (unverified : ∀ o, a ≠ .verify k o true) (unvalidated : a ≠ .revalidate k)
    (hold : ∀ v, old = some v → Withheld v) : Withheld v' := by
  cases h with
  | register v act fresh | reserve old v o act destination fresh => exact .of_fresh fresh
  | progress v o act staging =>
    rcases hold v rfl with h | ⟨habsent, h | ⟨hc, -⟩⟩ | ⟨hl, h⟩
    · exact .inl h
    · rcases h with h | h <;> simp [h, ReplicaLifecycle.isStagingPhase] at staging
    · exact .inr (.inl ⟨habsent, .inr ⟨hc, by simp⟩⟩)
    · exact .inr (.inr ⟨by simp, h⟩)
  | abandon => exact .inr (.inl ⟨rfl, .inl (.inr rfl)⟩)
  | receive v v' o act accepted integrity lifecycle =>
    refine .inr (.inr ⟨?_, .inr (.inl integrity)⟩)
    rcases lifecycle with h | h <;> simp [h]
  | refuse v v' o act accepted lifecycle failed =>
    refine .inr (.inr ⟨?_, .inr failed⟩)
    rcases lifecycle with h | h | h | h <;> simp [h]
  | verify v measured o act => exact absurd act (unverified o)
  | commit v authority act lifecycle validated =>
    -- A copy that may be committed is validated, present and prepared, so it is not withheld.
    exfalso
    rcases hold v rfl with h | ⟨-, h | ⟨hc, hne⟩⟩ | ⟨⟨h₁, h₂, h₃⟩, -⟩
    · simp [validated] at h
    · rcases h with h | h <;> simp [h] at lifecycle
    · rcases act with ⟨-, hu⟩ | ⟨o, op, -, -, -, hprepared⟩
      · simp [hc] at hu
      · exact hne hprepared
    · simp [h₁, h₂, h₃] at lifecycle
  | promote v act integrity compatibility prepared =>
    rcases hold v rfl with h | ⟨habsent, h⟩ | ⟨⟨h₁, h₂, h₃⟩, h⟩
    · exact .inl h
    · exact .inr (.inl ⟨habsent, .inr ⟨rfl, by simp⟩⟩)
    · exfalso
      simp only [h₃, or_false] at prepared
      simp [prepared, integrity, compatibility] at h
  | demote v => exact hold v rfl
  | retire => exact .inr (.inl ⟨rfl, .inl (.inl rfl)⟩)
  | quarantine v act live =>
    rcases hold v rfl with h | ⟨habsent, h | ⟨hc, -⟩⟩ | ⟨-, h⟩
    · exact .inl h
    · exact absurd h live
    · exact .inr (.inl ⟨habsent, .inr ⟨hc, by simp⟩⟩)
    · exact .inr (.inr ⟨by simp, h⟩)
  | revalidate v incarnation authority act => exact absurd act unvalidated
  | supersede v =>
    rcases hold v rfl with h | ⟨habsent, h | ⟨hc, hne⟩⟩ | ⟨⟨h₁, h₂, h₃⟩, h⟩
    · exact .inl h
    · refine .inr (.inl ⟨habsent, .inl ?_⟩)
      rcases h with h | h <;> simp [ReplicaView.Terminal, ReplicaView.superseded, h]
    · refine .inr (.inl ⟨habsent, .inr ⟨hc, ?_⟩⟩)
      simp only [ReplicaView.superseded]
      split
      · simp
      · exact hne
    · refine .inr (.inr ⟨?_, h⟩)
      simp only [ReplicaView.superseded]
      split
      · simp
      · exact ⟨h₁, h₂, h₃⟩
  | fence | recover | suspend => exact .inl rfl

/-- A copy withheld before a step, or created by it, is withheld after it, unless the step
verifies or revalidates it. -/
theorem Step.withheld (h : Step a p p') (unverified : ∀ o, a ≠ .verify k o true)
    (unvalidated : a ≠ .revalidate k) (hp : ∀ v, p.replicas k = some v → Withheld v) :
    ∀ v, p'.replicas k = some v → Withheld v := by
  intro v' hv'
  rcases h.replicas.of_some hv' with hk | hm
  · exact hp v' hk
  · exact hm.withheld unverified unvalidated hp

/-- A restart withholds every copy. -/
theorem Step.withheld_of_reopen (h : Step a p p') (hp : Departed p) (act : a = .reopen)
    (hv' : p'.replicas k = some v') : Withheld v' := by
  have hdeparted : v'.Terminal → Withheld v' := fun ht =>
    .inr (.inl ⟨h.departed hp k v' hv' ht, .inl ht⟩)
  rcases h.replicas.of_some hv' with hk | hm
  · by_cases ht : v'.Terminal
    · exact hdeparted ht
    · obtain ⟨u, hu, hr | ht'⟩ := h.withholds act k v' hk ht
      · obtain rfl := some_unique hu hv'
        exact .inl hr
      · obtain rfl := some_unique hu hv'
        exact hdeparted ht'
  · generalize hold : p.replicas k = old at hm
    cases hm with
    | abandon => exact hdeparted (.inr rfl)
    | recover | suspend => exact .inl rfl
    | _ => simp_all

/-! ## Agreement on content -/

/-- A copy carries the content digest of its generation. -/
def Carries (p : Plane) (v : ReplicaView) : Prop :=
  ∃ s, p.states v.key = some s ∧ s.contentDigest.valid = true ∧ v.measured = s.contentDigest

/-- A copy in a lifecycle that requires verification. -/
def ReplicaView.Certified (v : ReplicaView) : Prop :=
  v.lifecycle = .prepared ∨ v.lifecycle = .authoritative ∨ v.lifecycle = .degraded

/-- Verified copies carry the content of their generation, and certified copies are
verified. -/
def Agreed (p : Plane) : Prop :=
  ∀ k v, p.replicas k = some v →
    (v.integrity = .verified → Carries p v) ∧ (v.Certified → v.integrity = .verified)

/-- The step verifies only against generations that have a content digest, and publishes no
other digest over a verified copy. -/
structure Comparable (a : Action) (p p' : Plane) : Prop where
  verified : ∀ k o accepted v, a = .verify k o accepted → p.replicas k = some v →
    ∃ s, p.states v.key = some s ∧ s.contentDigest.valid = true
  published : ∀ k v s s', a = .publish v.key → p.replicas k = some v → v.integrity = .verified →
    p.states v.key = some s → p'.states v.key = some s' → s'.contentDigest = s.contentDigest

theorem Step.carries (h : Step a p p') (hc : Comparable a p p') (hv : p.replicas k = some v)
    (verified : v.integrity = .verified) (carried : Carries p v) : Carries p' v := by
  obtain ⟨s, hs, hvalid, hmeasured⟩ := carried
  rcases h.states v.key with hk | ⟨s', hk, hm⟩
  · exact ⟨s, hk.trans hs, hvalid, hmeasured⟩
  · rw [hs] at hm
    cases hm with
    | publish s s' act =>
      have hsame := hc.published k v s s' act hv verified hs hk
      exact ⟨s', hk, hsame ▸ hvalid, hsame ▸ hmeasured⟩
    | commit | supersede => exact ⟨_, hk, hvalid, hmeasured⟩

theorem Step.states_of_verify (h : Step a p p') {o : OperationId} {accepted : Bool}
    (act : a = .verify k o accepted) (K : StateKey) : p'.states K = p.states K := by
  rcases h.states K with hk | ⟨s', -, hm⟩
  · exact hk
  · generalize hold : p.states K = old at hm
    cases hm <;> simp_all

theorem Step.carries_of_matches (h : Step a p p') (hc : Comparable a p p') {o : OperationId}
    {accepted : Bool} (act : a = .verify k o accepted) (hv : p.replicas k = some v)
    (hkey : v'.key = v.key) (hm : p.Matches v.key v'.measured) : Carries p' v' := by
  obtain ⟨s, hs, hvalid⟩ := hc.verified k o accepted v act hv
  refine ⟨s, ?_, hvalid, hm s hs hvalid⟩
  rw [h.states_of_verify act, hkey, hs]

/-- A moved copy agrees: either the move compared its digest, or it was verified before and
kept digest and generation. -/
theorem ReplicaMove.agreed (h : ReplicaMove a p p' k old v')
    (certified : ∀ v, old = some v → v.Certified → v.integrity = .verified) :
    (v'.integrity = .verified →
      (∃ v o accepted, old = some v ∧ a = .verify k o accepted ∧ v'.key = v.key
          ∧ p.Matches v.key v'.measured)
        ∨ ∃ v, old = some v ∧ v.integrity = .verified ∧ v'.key = v.key
          ∧ v'.measured = v.measured)
      ∧ (v'.Certified → v'.integrity = .verified) := by
  cases h with
  | register v act fresh | reserve old v o act destination fresh =>
    refine ⟨fun hi => ?_, fun hcert => ?_⟩
    · simp [fresh.unverified] at hi
    · have hs := fresh.staging
      rcases hcert with h | h | h <;> simp [h, ReplicaLifecycle.isStagingPhase] at hs
  | progress v | abandon v | retire v | quarantine v | suspend v =>
    exact ⟨fun hi => .inr ⟨v, rfl, hi, rfl, rfl⟩, by simp [ReplicaView.Certified]⟩
  | receive v v' o act accepted integrity lifecycle =>
    refine ⟨fun hi => absurd hi integrity, fun hcert => ?_⟩
    rcases lifecycle with h | h <;> simp [ReplicaView.Certified, h] at hcert
  | refuse v v' o act accepted lifecycle failed corrupt measured authority frame =>
    refine ⟨fun hi => .inl ⟨v, o, false, rfl, act, by rw [frame], measured hi⟩, fun hcert => ?_⟩
    rcases lifecycle with h | h | h | h <;> simp [ReplicaView.Certified, h] at hcert
  | verify v measured o act accepted agrees =>
    exact ⟨fun _ => .inl ⟨v, o, true, rfl, act, rfl, agrees⟩, fun _ => rfl⟩
  | commit v authority act lifecycle =>
    exact ⟨fun _ => .inr ⟨v, rfl, certified v rfl lifecycle, rfl, rfl⟩, fun _ => rfl⟩
  | promote v act integrity | revalidate v incarnation authority act live integrity =>
    exact ⟨fun hi => .inr ⟨v, rfl, hi, rfl, rfl⟩, fun _ => integrity⟩
  | demote v | recover v => exact ⟨fun hi => .inr ⟨v, rfl, hi, rfl, rfl⟩, certified v rfl⟩
  | supersede v =>
    refine ⟨fun hi => .inr ⟨v, rfl, hi, rfl, rfl⟩, fun hcert => certified v rfl ?_⟩
    simp only [ReplicaView.Certified, ReplicaView.superseded] at hcert
    split at hcert
    · simp at hcert
    · exact hcert
  | fence v availability lifecycle c act stale =>
    refine ⟨fun hi => .inr ⟨v, rfl, hi, rfl, rfl⟩, fun hcert => certified v rfl ?_⟩
    simp only [ReplicaView.Certified, ReplicaView.fenced] at hcert
    split at hcert
    · rcases stale with h | h <;> simp [h] at hcert
    · exact hcert

theorem Step.agreed (h : Step a p p') (hc : Comparable a p p') (hp : Agreed p) : Agreed p' := by
  intro k v' hv'
  rcases h.replicas.of_some hv' with hk | hm
  · have hv : p.replicas k = some v' := hk
    obtain ⟨hcarries, hcertified⟩ := hp k v' hv
    exact ⟨fun hi => h.carries hc hv hi (hcarries hi), hcertified⟩
  · obtain ⟨hcarries, hcertified⟩ := hm.agreed fun v hv => (hp k v hv).2
    refine ⟨fun hi => ?_, hcertified⟩
    rcases hcarries hi with ⟨v, o, accepted, hv, hact, hkey, hmatch⟩ | ⟨v, hv, hvi, hkey, hmeas⟩
    · exact h.carries_of_matches hc hact hv hkey hmatch
    · obtain ⟨s, hs, hvalid, hsame⟩ := h.carries hc hv hvi ((hp k v hv).1 hvi)
      exact ⟨s, hkey ▸ hs, hvalid, hmeas.trans hsame⟩

/-! ## Disagreement on content -/

/-- A copy whose content did not agree, in no lifecycle that leads to authority. -/
def ReplicaView.Condemned (v : ReplicaView) : Prop :=
  v.integrity = .mismatch ∧ (v.lifecycle = .corrupt ∨ v.lifecycle = .quarantined
    ∨ v.lifecycle = .retired ∨ v.lifecycle = .abandoned)

/-- Every copy whose content did not agree is condemned. -/
def Condemning (p : Plane) : Prop :=
  ∀ k v, p.replicas k = some v → v.integrity = .mismatch → v.Condemned

theorem ReplicaMove.condemned (h : ReplicaMove a p p' k old v')
    (hold : ∀ v, old = some v → v.integrity = .mismatch → v.Condemned)
    (mismatch : v'.integrity = .mismatch) : v'.Condemned := by
  refine ⟨mismatch, ?_⟩
  cases h with
  | register v act fresh | reserve old v o act destination fresh =>
    simp [fresh.unverified] at mismatch
  | progress v o act staging =>
    rcases (hold v rfl mismatch).2 with h | h | h | h <;>
      simp [h, ReplicaLifecycle.isStagingPhase] at staging
  | abandon => exact .inr (.inr (.inr rfl))
  | receive v v' o act accepted integrity lifecycle corrupt
  | refuse v v' o act accepted lifecycle failed corrupt => exact .inl (corrupt mismatch)
  | verify | commit => simp at mismatch
  | promote v act integrity | revalidate v incarnation authority act live integrity =>
    simp [integrity] at mismatch
  | demote v | recover v => exact (hold v rfl mismatch).2
  | retire => exact .inr (.inr (.inl rfl))
  | quarantine | suspend => exact .inr (.inl rfl)
  | supersede v =>
    have hv := (hold v rfl mismatch).2
    rcases hv with h | h | h | h <;> simp [ReplicaView.superseded, h]
  | fence v =>
    have hv := (hold v rfl mismatch).2
    rcases hv with h | h | h | h <;> simp [ReplicaView.fenced, h]

theorem ReplicaMove.mismatch (h : ReplicaMove a p p' k (some v) v')
    (other : ∀ o, a = .authorize o → k ≠ destinationOf o) (condemned : v.Condemned) :
    v'.integrity = .mismatch := by
  obtain ⟨mismatch, lifecycle⟩ := condemned
  cases h with
  | reserve old v' o act destination => exact absurd destination (other o act)
  | receive w v' o act accepted =>
    rcases lifecycle with h | h | h | h <;> simp [h, ReplicaLifecycle.acceptsCompletion] at accepted
  | refuse w v' o act accepted | verify w measured o act accepted =>
    rcases lifecycle with h | h | h | h <;>
      simp [h, ReplicaLifecycle.acceptsVerification] at accepted
  | commit w authority act prepared =>
    rcases lifecycle with h | h | h | h <;> simp [h] at prepared
  | _ => exact mismatch

theorem Step.condemned (h : Step a p p') (hp : Condemning p)
    (other : ∀ o, a = .authorize o → k ≠ destinationOf o) (hv : p.replicas k = some v)
    (mismatch : v.integrity = .mismatch) : ∃ v', p'.replicas k = some v' ∧ v'.Condemned := by
  have hcondemned := hp k v hv mismatch
  rcases h.replicas k with hk | ⟨v', hk, hm⟩
  · exact ⟨v, hk.trans hv, hcondemned⟩
  · rw [hv] at hm
    exact ⟨v', hk, hm.condemned (fun w hw hmismatch => (Option.some.inj hw) ▸ hcondemned)
      (hm.mismatch other hcondemned)⟩

end Protocol

end StateFabric
