import StateFabric.Guarantees.Transfers

/-!
# What revalidation establishes and what it leaves open

Revalidation is the way back into service for a copy that was fenced or found after a restart.

* `lifecycle_carries_evidence`: the phase of a copy is backed by its evidence while revalidation is
  asked only for copies on record as compatible.  `revalidate_replica` also accepts a copy whose
  hosting cluster is compatible, makes it PREPARED or AUTHORITATIVE, and leaves the verdict on record
  as it is.
* `revalidation_dischargeable_iff`: a restart raises the obligation of every replica set and no
  request lowers it, so a set whose counting copies are all revalidated still asks for it.
-/

namespace StateFabric

open Protocol Transition ControlPlane OrderedMap Scenario

variable {a : Action} {p p' : Plane} {v' : ReplicaView} {e : Event}

variable {k : ReplicaId} {v : ReplicaView} {r : Runtime}

/-! ## Evidence -/

/-- The phase of a copy is backed by its evidence. -/
structure Protocol.ReplicaView.Evidenced (v : ReplicaView) : Prop where
  serving : v.lifecycle = .authoritative ∨ v.lifecycle = .degraded →
    v.committed = true ∧ v.counts = true ∧ v.integrity = .verified ∧ v.compatibility = .compatible
  prepared : v.lifecycle = .prepared → v.integrity = .verified ∧ v.compatibility = .compatible

namespace Protocol

theorem ReplicaView.Evidenced.of_phase (authoritative : v.lifecycle ≠ .authoritative)
    (degraded : v.lifecycle ≠ .degraded) (prepared : v.lifecycle ≠ .prepared) : v.Evidenced where
  serving h := absurd h (not_or.mpr ⟨authoritative, degraded⟩)
  prepared h := absurd h prepared

theorem Fresh.evidenced (h : Fresh v) : v.Evidenced := by
  have hstaging := h.staging
  refine .of_phase ?_ ?_ ?_ <;> intro hphase <;> rw [hphase] at hstaging <;> cases hstaging

/-- A move keeps the phase backed, if it revalidates compatible copies only. -/
theorem ReplicaMove.evidenced {old : Option ReplicaView} (h : ReplicaMove a p p' k old v')
    (evidenced : ∀ v ∈ old, v.Evidenced)
    (compatible : a = .revalidate k → ∀ v ∈ old, v.compatibility = .compatible) : v'.Evidenced := by
  cases h with
  | register v act fresh | reserve old v o act destination fresh => exact fresh.evidenced
  | progress | abandon | retire | quarantine | suspend => exact .of_phase nofun nofun nofun
  | receive v w o act accepted integrity lifecycle =>
    rcases lifecycle with hphase | hphase
    · exact .of_phase (by simp [hphase]) (by simp [hphase]) (by simp [hphase])
    · exact .of_phase (by simp [hphase]) (by simp [hphase]) (by simp [hphase])
  | refuse v w o act accepted lifecycle =>
    rcases lifecycle with hphase | hphase | hphase | hphase
    all_goals exact .of_phase (by simp [hphase]) (by simp [hphase]) (by simp [hphase])
  | verify =>
    exact ⟨fun hphase => by simp at hphase, fun _ => ⟨rfl, rfl⟩⟩
  | commit =>
    exact ⟨fun _ => ⟨rfl, rfl, rfl, rfl⟩, fun hphase => by simp at hphase⟩
  | promote v act integrity compatibility =>
    exact ⟨fun _ => ⟨rfl, rfl, integrity, compatibility⟩, fun hphase => by simp at hphase⟩
  | demote v | recover v =>
    have hold := evidenced v rfl
    exact ⟨hold.serving, hold.prepared⟩
  | revalidate v incarnation authority act live integrity =>
    have hcompatible := compatible act v rfl
    refine ⟨fun hphase => ?_, fun _ => ⟨integrity, hcompatible⟩⟩
    by_cases hcommitted : v.committed = true
    · exact ⟨hcommitted, hcommitted, integrity, hcompatible⟩
    · simp [hcommitted] at hphase
  | supersede v K act advances =>
    have hold := evidenced v rfl
    refine ⟨fun hphase => ?_, fun hphase => hold.prepared ?_⟩
    · unfold ReplicaView.superseded at hphase
      dsimp only at hphase
      split at hphase
      · simp at hphase
      · rename_i hother
        exact absurd hphase fun h => hother (h.imp_right .inl)
    · unfold ReplicaView.superseded at hphase
      dsimp only at hphase
      split at hphase
      · cases hphase
      · exact hphase
  | fence v availability lifecycle c act stale live advances =>
    have hold := evidenced v rfl
    refine ⟨fun hphase => ?_, fun hphase => hold.prepared ?_⟩
    · unfold ReplicaView.fenced at hphase
      dsimp only at hphase
      split at hphase
      · rcases stale with rfl | rfl <;> simp at hphase
      · exact absurd hphase ‹_›
    · unfold ReplicaView.fenced at hphase
      dsimp only at hphase
      split at hphase
      · rcases stale with rfl | rfl <;> cases hphase
      · exact hphase

theorem ReplicaMove.keeps_evidence (h : ReplicaMove a p p' k (some v) v')
    (commits : (∃ k, a = .commitReplica k) ∨ ∃ o, a = .complete o) (evidenced : v.Evidenced) :
    v'.integrity = v.integrity ∧ v'.compatibility = v.compatibility := by
  cases h with
  | commit w authority act lifecycle =>
    rcases lifecycle with hphase | hphase
    · obtain ⟨hintegrity, hcompatibility⟩ := evidenced.prepared hphase
      exact ⟨hintegrity.symm, hcompatibility.symm⟩
    · obtain ⟨-, -, hintegrity, hcompatibility⟩ := evidenced.serving hphase
      exact ⟨hintegrity.symm, hcompatibility.symm⟩
  | demote | retire | quarantine | fence | supersede | revalidate
  | promote | progress | abandon | recover | suspend => exact ⟨rfl, rfl⟩
  -- The moves that judge the evidence anew are reports, and the others start a record.
  | reserve old w o act | receive u w o act => rcases commits with ⟨_, rfl⟩ | ⟨_, rfl⟩ <;> cases act
  | refuse u w o act => rcases commits with ⟨_, rfl⟩ | ⟨_, rfl⟩ <;> cases act
  | verify w measured o act => rcases commits with ⟨_, rfl⟩ | ⟨_, rfl⟩ <;> cases act

end Protocol

/-- The phase of a replica is backed by the evidence on its record. -/
structure ReplicaRecord.Evidenced (replica : ReplicaRecord) : Prop where
  serving : replica.lifecycle = .authoritative ∨ replica.lifecycle = .degraded →
    replica.commitRecorded = true ∧ replica.countsTowardFactor = true
      ∧ replica.integrity = .verified ∧ replica.compatibility = .compatible
  prepared : replica.lifecycle = .prepared →
    replica.integrity = .verified ∧ replica.compatibility = .compatible

theorem ReplicaRecord.evidenced_iff (replica : ReplicaRecord) :
    replica.Evidenced ↔ replica.view.Evidenced :=
  ⟨fun h => ⟨h.serving, h.prepared⟩, fun h => ⟨h.serving, h.prepared⟩⟩

/-- The phase of every replica is backed by its evidence. -/
def ControlPlane.Evidenced (p : ControlPlane) : Prop :=
  ∀ (k : ReplicaId) (replica : ReplicaRecord), p.replicas[k]? = some replica → replica.Evidenced

/-- A revalidation is asked for a replica on record as compatible. -/
def revalidatesCompatible (r : Runtime) : Mutation → Bool
  | .revalidateReplica transition =>
    r.plane.replicas[transition.replicaId]?.all (·.compatibility == .compatible)
  | _ => true

/-- The request is an authoritative commit. -/
def Mutation.isCommit : Mutation → Bool
  | .commitReplica _ | .commitOperation _ => true
  | _ => false

theorem revalidates_of_action (act : e.action r = .revalidate k) :
    ∃ transition out, e = .mutation (.revalidateReplica transition) ∧ transition.replicaId = k
      ∧ Executes r (.revalidateReplica transition) out := by
  cases e with
  | mutation m =>
    rcases r.after_cases m with ⟨out, hexec⟩ | ⟨-, -, hidle⟩
    · rw [hexec.action_eq] at act
      cases m with
      | revalidateReplica transition =>
        exact ⟨transition, out, rfl, Action.revalidate.inj act, hexec⟩
      | _ => simp [Mutation.act] at act
    · rw [hidle] at act
      cases act
  | _ => cases act

/-- What a revalidation writes: the replica back in service, with the verdict on its compatibility
as it was. -/
theorem Executes.returns_to_service {transition : ReplicaTransition} {out : Outcome Response}
    (h : Executes r (.revalidateReplica transition) out) (coherent : Coherent r.plane) :
    r.effects (.revalidateReplica transition) ≠ []
      ∧ ∃ replica v', r.plane.replicas[transition.replicaId]? = some replica
      ∧ (r.after (.revalidateReplica transition)).plane.abs.replicas transition.replicaId = some v'
      ∧ (v'.lifecycle = .authoritative ∨ v'.lifecycle = .prepared)
      ∧ v'.compatibility = replica.compatibility := by
  obtain ⟨inner, hinner, heffects, -⟩ := map_outcome_eq_ok h.body
  have hinputs : Coherent r.inputs.plane := coherent
  obtain ⟨replica, cluster, hrecorded, hid, -, -, -, -, batch⟩ :=
    revalidateReplica_batch hinputs hinner
  have hafter := abs_replicas_applyAll batch.replica
    (fun w hw _ => congrArg ReplicaRecord.view (batch.eq_of_mem_putReplica hw))
    (p := r.inputs.plane)
  rw [revalidatedReplica_replicaId, hid] at hafter
  refine ⟨?_, replica, (revalidatedReplica r.inputs replica cluster).view, hrecorded, ?_, ?_, ?_⟩
  · rw [h.effects_eq, heffects]
    exact List.ne_nil_of_mem batch.replica
  · rw [abs_eq_of_records h.records_eq, heffects]
    exact hafter
  · rw [revalidatedReplica_view]
    dsimp only
    split
    · exact .inl rfl
    · exact .inr rfl
  · rw [revalidatedReplica_view]
    rfl

theorem ControlPlane.Evidenced.view {p : ControlPlane} (h : p.Evidenced)
    (recorded : p.abs.replicas k = some v) : v.Evidenced := by
  obtain ⟨replica, hreplica, rfl⟩ := abs_replicas_eq_some.mp recorded
  exact replica.evidenced_iff.mp (h k replica hreplica)

/-- A step keeps the phases backed exactly when it revalidates compatible replicas only. -/
theorem WellKept.evidenced_iff {r' : Runtime} (h : WellKept r) (hstep : Step r e r')
    (evidenced : r.plane.Evidenced) : r'.plane.Evidenced ↔ OnEffect revalidatesCompatible r e := by
  constructor
  · intro hafter
    cases hstep with
    | mutation m =>
      intro heffects
      cases m with
      | revalidateReplica transition =>
        rcases r.effect_cases (.revalidateReplica transition) with ⟨out, hexec, -⟩ | ⟨hnone, -⟩
        · obtain ⟨-, replica, v', hreplica, hv', hphase, hsame⟩ :=
            hexec.returns_to_service h.coherent
          have hbacked := hafter.view hv'
          have hcompatible : replica.compatibility = .compatible := by
            rw [← hsame]
            rcases hphase with hphase | hphase
            · exact (hbacked.serving (.inl hphase)).2.2.2
            · exact (hbacked.prepared hphase).2
          simp [revalidatesCompatible, hreplica, hcompatible]
        · exact absurd hnone heffects
      | _ => rfl
    | _ => trivial
  · intro hok k replica hreplica
    rw [ReplicaRecord.evidenced_iff]
    rcases (h.step hstep).2.replicas k with hsame | ⟨v', hv', hmove⟩
    · exact evidenced.view (hsame.symm.trans (abs_replicas hreplica))
    · obtain rfl := some_unique hv' (abs_replicas hreplica)
      refine hmove.evidenced (fun v hv => evidenced.view hv) fun act v hv => ?_
      obtain ⟨transition, out, rfl, rfl, hexec⟩ := revalidates_of_action act
      obtain ⟨old, hold, rfl⟩ := abs_replicas_eq_some.mp hv
      have hasked := hok (hexec.returns_to_service h.coherent).1
      have hcompatible : old.compatibility = .compatible := by
        simpa [revalidatesCompatible, hold] using hasked
      exact hcompatible

/-- Lifecycle carries its evidence: while revalidation is asked for compatible replicas only, an
AUTHORITATIVE or DEGRADED replica is committed, counts, is verified and compatible, a PREPARED one is
verified and compatible, and so a commit raises neither verdict.  A step from such a state keeps
this exactly when it does so. -/
theorem lifecycle_carries_evidence {r : Runtime}
    (reachable : Reachable Opened (Restrict Step (OnEffect revalidatesCompatible)) r) :
    r.plane.Evidenced
      ∧ (∀ m : Mutation, m.isCommit = true → ∀ (k : ReplicaId) (replica replica' : ReplicaRecord),
        r.plane.replicas[k]? = some replica → (r.after m).plane.replicas[k]? = some replica' →
        replica'.integrity = replica.integrity ∧ replica'.compatibility = replica.compatibility)
      ∧ ∀ e r', Step r e r' → (r'.plane.Evidenced ↔ OnEffect revalidatesCompatible r e) := by
  obtain ⟨hkept, hevidenced⟩ : WellKept r ∧ r.plane.Evidenced := by
    refine reachable.invariant (I := fun r => WellKept r ∧ r.plane.Evidenced) ?_ ?_
    · intro r hr
      obtain ⟨hkept, hempty⟩ := hr.start
      refine ⟨hkept, fun k replica hreplica => ?_⟩
      have hview := abs_replicas hreplica
      rw [hempty] at hview
      cases hview
    · rintro r e r' ⟨hstep, hok⟩ ⟨hkept, hevidenced⟩
      exact ⟨(hkept.step hstep).1, (hkept.evidenced_iff hstep hevidenced).mpr hok⟩
  refine ⟨hevidenced, ?_, fun e r' hstep => hkept.evidenced_iff hstep hevidenced⟩
  intro m commits k replica replica' hreplica hreplica'
  have hview := abs_replicas hreplica
  have hview' := abs_replicas hreplica'
  rcases r.after_cases m with ⟨out, hexec⟩ | ⟨hidle, -⟩
  · have hact : (∃ k, Event.action r (.mutation m) = .commitReplica k)
        ∨ ∃ o, Event.action r (.mutation m) = .complete o := by
      rw [hexec.action_eq]
      cases m with
      | commitReplica => exact .inl ⟨_, rfl⟩
      | commitOperation => exact .inr ⟨_, rfl⟩
      | _ => cases commits
    rcases (hkept.step (.mutation r m)).2.replicas k with hsame | ⟨v', hv', hmove⟩
    · have hviews := some_unique hview' (hsame.trans hview)
      exact ⟨congrArg ReplicaView.integrity hviews, congrArg ReplicaView.compatibility hviews⟩
    · obtain rfl := some_unique hv' hview'
      rw [hview] at hmove
      exact hmove.keeps_evidence hact (hevidenced.view hview)
  · rw [hidle, hreplica] at hreplica'
    obtain rfl := Option.some.inj hreplica'
    exact ⟨rfl, rfl⟩

/-- A copy that is committed, fenced by a new incarnation of its cluster, and revalidated. -/
def Scenario.refreshed : List Mutation := sourced ++ [reincarnation 1, revalidation 20]

theorem lifecycle_carries_evidence_of_refreshed :
    (reach refreshed).plane.Evidenced
      ∧ (reach refreshed).plane.replicas[(⟨20⟩ : ReplicaId)]?.any
        (·.lifecycle == .authoritative) = true :=
  ⟨(lifecycle_carries_evidence (reachable_of_complies (by decide +kernel))).1, by decide +kernel⟩

/-- The descriptor that says what a copy is stored on. -/
def Scenario.storedOn (medium : String) : CompatibilityDescriptor :=
  { attributes := (∅ : Std.ExtTreeMap Text Text).insert (text "storage") (text medium) }

/-- A copy whose own descriptor is judged incompatible, and which is revalidated because the
capabilities of its cluster are compatible. -/
def Scenario.reinstated : List Mutation :=
  [cluster 1,
    .registerState { stateSpec 1 1 .immutable with compatibilityRequired := storedOn "none" },
    stateCommit 1 1 5, replica 20 1 1 1, completion 20,
    .verifyReplica
      { verificationReport 20 {} content with compatibilityDescriptor := storedOn "tape" },
    revalidation 20]

/-- The copy is PREPARED and incompatible, and a commit that does not ask for verified compatibility
makes it compatible. -/
theorem prepared_incompatible_of_reinstated :
    ReachableRuntime (reach reinstated)
      ∧ (reach reinstated).plane.replicas[(⟨20⟩ : ReplicaId)]?.any
        (fun replica => replica.lifecycle == .prepared && replica.compatibility == .incompatible)
        = true
      ∧ ((reach reinstated).after (.commitReplica
          { replicaId := ⟨20⟩, commitId := ⟨7⟩, requireCompatibilityVerified := false })
        ).plane.replicas[(⟨20⟩ : ReplicaId)]?.any
        (fun replica => replica.lifecycle == .authoritative
          && replica.compatibility == .compatible) = true :=
  ⟨reachable _, by decide +kernel, by decide +kernel⟩

/-! ## The obligation of a set -/

/-- The state the counts and the requirements of a set call for. -/
def ReplicaSetRecord.verdict (set : ReplicaSetRecord) : ReplicaSetState :=
  if set.requirements.maximumReplicas < set.authoritativeCount then .overReplicated
  else if set.authoritativeCount < set.requirements.minimumAuthoritativeReplicas then
    .underReplicated
  else if !set.meetsRequirements then .degraded
  else .healthy

/-- The states a recomputation leaves as they are. -/
def ReplicaSetState.pinned : ReplicaSetState → Bool
  | .splitBrainRisk | .rebuilding | .retiring => true
  | _ => false

theorem ReplicaSetRecord.verdict_cases (set : ReplicaSetRecord) :
    set.verdict = .healthy ∨ set.verdict = .degraded ∨ set.verdict = .underReplicated
      ∨ set.verdict = .overReplicated := by
  unfold verdict
  split_ifs <;> simp

/-- A current generation has a counting copy, and no counting copy of it is to be revalidated. -/
structure Discharged (p : ControlPlane) (K : StateKey) : Prop where
  current : p.CurrentGeneration K
  counting : ∃ k, p.CountsFor K k
  clear : ∀ (k : ReplicaId) (replica : ReplicaRecord), p.replicas[k]? = some replica →
    replica.key = K → replicaCountsTowardReplicationFactor replica = true →
    replica.evidence.revalidationRequired = false

/-- The stored set carries no obligation and no pinned state, and its count has not wrapped to 0. -/
def ControlPlane.dischargeable (p : ControlPlane) (K : StateKey) : Bool :=
  p.replicaSets[K]?.all (fun set => !set.revalidationRequired && !set.state.pinned)
    && p.reportedCount K != 0

theorem ControlPlane.verified_of_member (p : ControlPlane) (set : ReplicaSetRecord) :
    ∀ member ∈ ((((p.replicasOfState set.key).filter (!·.isTerminal)).filter
        replicaCountsTowardReplicationFactor).map makeMember).filter (·.authoritative),
      member.integrity = .verified ∧ member.compatibility = .compatible := by
  intro member hmember
  obtain ⟨replica, hreplica, rfl⟩ := List.mem_map.mp (List.mem_of_mem_filter hmember)
  obtain ⟨-, -, hintegrity, hcompatibility, -⟩ :=
    (counting_iff replica).mp (List.mem_filter.mp hreplica).2
  exact ⟨hintegrity, hcompatibility⟩

/-- The state of a set whose counting members are verified and compatible: only the obligation of
the set stands between its counts and the verdict on them. -/
theorem recomputeReplicaSet_state {set : ReplicaSetRecord}
    (verified : ∀ member ∈ set.authoritativeMembers.filter (·.authoritative),
      member.integrity = .verified ∧ member.compatibility = .compatible) :
    (recomputeReplicaSet set).state = if set.state.pinned then set.state
      else if (recomputeReplicaSet set).authoritativeCount = 0 then .noAuthoritativeReplica
      else if set.revalidationRequired then .revalidationRequired
      else (recomputeReplicaSet set).verdict := by
  have hcorrupt : (set.authoritativeMembers.filter (·.authoritative)).any
      (fun m => m.integrity == .corrupt || m.integrity == .mismatch) = false :=
    List.any_eq_false.mpr fun m hm => by simp [(verified m hm).1]
  have hincompatible : (set.authoritativeMembers.filter (·.authoritative)).any
      (fun m => m.compatibility == .incompatible) = false :=
    List.any_eq_false.mpr fun m hm => by simp [(verified m hm).2]
  have hunverified : (set.authoritativeMembers.filter (·.authoritative)).any
      (fun m => m.integrity != .verified || m.compatibility != .compatible) = false :=
    List.any_eq_false.mpr fun m hm => by simp [(verified m hm).1, (verified m hm).2]
  cases hstate : set.state <;> simp [recomputeReplicaSet, hcorrupt, hincompatible, hunverified,
    hstate, ReplicaSetState.pinned, ReplicaSetRecord.verdict, ReplicaSetRecord.meetsRequirements]

theorem rebuildReplicaSet_state (p : ControlPlane) (set : ReplicaSetRecord) :
    (p.rebuildReplicaSet set).state = if set.state.pinned then set.state
      else if (p.rebuildReplicaSet set).authoritativeCount = 0 then .noAuthoritativeReplica
      else if set.revalidationRequired then .revalidationRequired
      else (p.rebuildReplicaSet set).verdict :=
  recomputeReplicaSet_state (p.verified_of_member set)

theorem rebuildReplicaSet_state_eq_verdict_iff (p : ControlPlane) (set : ReplicaSetRecord) :
    (p.rebuildReplicaSet set).state = (p.rebuildReplicaSet set).verdict
      ↔ (set.revalidationRequired = false ∧ set.state.pinned = false)
        ∧ (p.rebuildReplicaSet set).authoritativeCount ≠ 0 := by
  have hverdict := (p.rebuildReplicaSet set).verdict_cases
  rw [rebuildReplicaSet_state]
  constructor
  · intro hsame
    rw [← hsame] at hverdict
    split_ifs at hverdict with hpinned hzero hobliged
    · rcases hverdict with hstate | hstate | hstate | hstate
      all_goals rw [hstate] at hpinned; cases hpinned
    · simp at hverdict
    · simp at hverdict
    · exact ⟨⟨Bool.eq_false_iff.mpr hobliged, Bool.eq_false_iff.mpr hpinned⟩, hzero⟩
  · rintro ⟨⟨hfree, hloose⟩, hcount⟩
    simp [hfree, hloose, hcount]

/-- Dischargeable revalidation: once no counting copy of a current generation is to be revalidated,
the reported state is the verdict on the counts exactly when the set itself carries no obligation,
which no request ever lifts, is in no state that recomputation keeps, and counts at all. -/
theorem revalidation_dischargeable_iff {r : Runtime} (reachable : ReachableRuntime r) {K : StateKey}
    (discharged : Discharged r.plane K) :
    (∃ set, queryReplicaSet r.plane K = .ok set ∧ set.state ≠ .revalidationRequired
        ∧ set.state = set.verdict)
      ↔ r.plane.dischargeable K = true := by
  have coherent := reachable.wellKept.coherent
  obtain ⟨k, replica, hreplica, hkey, hcounts⟩ := discharged.counting
  obtain ⟨stored, hstored⟩ := Option.isSome_iff_exists.mp
    (isSome_set reachable.covered (hkey ▸ (coherent.replicas hreplica).2.state))
  have hquery : queryReplicaSet r.plane K = .ok (r.plane.rebuildReplicaSet stored) := by
    simp [queryReplicaSet, found, hstored]
  have hcount : r.plane.reportedCount K = (r.plane.rebuildReplicaSet stored).authoritativeCount := by
    rw [reportedCount, hquery]
  rw [dischargeable, hstored, Option.all_some, hcount, Bool.and_eq_true, Bool.and_eq_true,
    Bool.not_eq_true', Bool.not_eq_true', bne_iff_ne, ← rebuildReplicaSet_state_eq_verdict_iff]
  constructor
  · rintro ⟨set, hset, -, hverdict⟩
    obtain rfl := Except.ok.inj (hquery.symm.trans hset)
    exact hverdict
  · intro hverdict
    refine ⟨_, hquery, ?_, hverdict⟩
    rw [hverdict]
    rcases (r.plane.rebuildReplicaSet stored).verdict_cases with h | h | h | h
    all_goals rw [h]; decide

theorem discharged_of_check {p : ControlPlane} {K : StateKey}
    (current : p.states[K]?.any (·.lifecycle == .current) = true)
    (counting : p.replicas[k]?.any (fun replica =>
      replica.key == K && replicaCountsTowardReplicationFactor replica) = true)
    (clear : p.replicaList.all (fun replica =>
      !replica.evidence.revalidationRequired || replica.key != K) = true) : Discharged p K := by
  obtain ⟨state, hstate, hcurrent⟩ := (Option.any_eq_true _ _).mp current
  obtain ⟨replica, hreplica, hcounts⟩ := (Option.any_eq_true _ _).mp counting
  rw [Bool.and_eq_true, beq_iff_eq] at hcounts
  refine ⟨⟨state, hstate, by simpa using hcurrent⟩, ⟨k, replica, hreplica, hcounts⟩, ?_⟩
  intro k replica hreplica hkey _
  have hlisted : replica ∈ p.replicaList :=
    List.mem_map.mpr ⟨(k, replica), mem_toList_iff.mpr hreplica, rfl⟩
  simpa [hkey] using List.all_eq_true.mp clear replica hlisted

theorem revalidation_dischargeable_of_refreshed :
    Discharged (reach refreshed).plane ⟨⟨1⟩, ⟨1⟩⟩
      ∧ ∃ set, queryReplicaSet (reach refreshed).plane ⟨⟨1⟩, ⟨1⟩⟩ = .ok set
        ∧ set.state ≠ .revalidationRequired ∧ set.state = set.verdict := by
  have hdischarged : Discharged (reach refreshed).plane ⟨⟨1⟩, ⟨1⟩⟩ :=
    discharged_of_check (k := ⟨20⟩) (by decide +kernel) (by decide +kernel) (by decide +kernel)
  exact ⟨hdischarged, (revalidation_dischargeable_iff (reachable _) hdischarged).mpr
    (by decide +kernel)⟩

/-- A copy that is committed, found again by a restart, and revalidated. -/
def Scenario.resumed : Runtime :=
  (restart (reach sourced)).afterAll [cluster 1, revalidation 20]

theorem Scenario.reachable_resumed : ReachableRuntime resumed :=
  ((reachable sourced).tail (step_restart (by decide +kernel))).runs (Runtime.runs_afterAll _ _)

/-- The set asks for revalidation although its only copy has been revalidated. -/
theorem obligation_remains_of_resumed :
    ReachableRuntime resumed ∧ Discharged resumed.plane ⟨⟨1⟩, ⟨1⟩⟩
      ∧ (queryReplicaSet resumed.plane ⟨⟨1⟩, ⟨1⟩⟩).toOption.any
        (·.state == .revalidationRequired) = true := by
  refine ⟨reachable_resumed, ?_, by decide +kernel⟩
  exact discharged_of_check (k := ⟨20⟩) (by decide +kernel) (by decide +kernel) (by decide +kernel)

end StateFabric
