import StateFabric.Refinement.Batch
import StateFabric.Fabric.State

/-!
# State mutations are protocol steps

Registration and publication touch one generation.  The authoritative commit of a generation
rewrites every current generation of its lineage together with the replicas and the set of
each, in one batch; `mem_supersede` lists what it writes about one of them.
-/

namespace StateFabric

open Protocol ControlPlane MutationInputs OrderedMap

variable {p : ControlPlane} {e : Effect} {generation : StateGeneration} {commitId : CommitId}
  {r : ReplicaRecord}

variable {out : Outcome StateGenerationRecord} {spec : StateGenerationSpec}
  {old : StateGenerationRecord} {stateId : StateId}

variable {inputs : MutationInputs}

theorem Coherent.mem_generationsOf (h : Coherent p) {r : StateGenerationRecord} :
    r ∈ p.generationsOf stateId ↔ p.states[r.key]? = some r ∧ r.stateId = stateId := by
  rw [generationsOf, List.mem_filter, List.mem_map, beq_iff_eq]
  refine and_congr_left fun _ => ⟨?_, ?_⟩
  · rintro ⟨⟨K, r'⟩, hmem, rfl⟩
    have hr := mem_toList_iff.mp hmem
    rwa [h.states hr]
  · intro hr
    exact ⟨(r.key, r), mem_toList_iff.mpr hr, rfl⟩

theorem Coherent.nodup_generationsOf (h : Coherent p) (stateId : StateId) :
    (p.generationsOf stateId).Nodup := by
  have hkeys : (p.states.toList.map Prod.snd).map (·.key) = p.states.toList.map Prod.fst := by
    rw [List.map_map]
    exact List.map_congr_left fun e he => h.states (mem_toList_iff.mp he)
  have hnodup : ((p.states.toList.map Prod.snd).map (·.key)).Nodup := by
    rw [hkeys]
    exact nodup_keys_toList p.states
  exact (hnodup.of_map _).filter _

/-! ## Registration and publication -/

theorem validateSpec_branch {done : Unit} (h : validateSpec spec = .ok done) :
    spec.branch = spec.branchesFrom.valid := by
  simp only [validateSpec, rejectIf_bind_eq_ok] at h
  cases hb : spec.branch <;> cases hf : spec.branchesFrom.valid <;> simp_all

/-- What a registration finds and writes: nothing for a generation that is registered already,
otherwise a staged record that shares the lineage of its siblings and branches from a registered
generation if it is a branch. -/
theorem registerState_effects (h : registerState spec inputs = .ok out) :
    out.effects = [] ∨ ∃ record set counters next, inputs.plane.states[spec.key]? = none
      ∧ out.effects = [.putState record, .putReplicaSet set, .putCounters counters, .setNextId next]
      ∧ record.key = spec.key ∧ record.lifecycle = .staged
      ∧ (∀ sibling ∈ inputs.plane.generationsOf spec.stateId, sibling.lineage = record.lineage)
      ∧ (record.branch = true →
        inputs.plane.states[(⟨record.stateId, record.branchesFrom⟩ : StateKey)]?.isSome)
      ∧ record.branch = record.branchesFrom.valid
      ∧ set.key = spec.key ∧ set.generation = ⟨1⟩
      ∧ set.authoritativeMembers ++ set.degradedMembers = []
      ∧ set.replicaSetId = ⟨inputs.plane.nextId⟩
      ∧ set.requirements = record.replicationRequirements := by
  simp only [registerState, bind_eq_ok] at h
  obtain ⟨done, hspec, h⟩ := h
  have hbranch : spec.branch = spec.branchesFrom.valid := validateSpec_branch hspec
  split at h
  · simp only [↓rejectIf_bind_eq_ok] at h
    exact .inl (commit_ok h.2).1
  · rename_i hnew
    simp only [↓rejectIf_bind_eq_ok] at h
    obtain ⟨hsiblings, horigin, h⟩ := h
    refine .inr ⟨_, _, _, _, hnew, (commit_ok h).1, rfl, rfl, ?_, ?_, hbranch, rfl, rfl, rfl, rfl,
      rfl⟩
    · intro sibling hsibling
      have hall := List.any_eq_false.mp hsiblings sibling hsibling
      simpa [materialize] using hall
    · intro hb
      have hb : spec.branch = true := hb
      rw [hb, Bool.true_and] at horigin
      simpa [Option.isSome_iff_ne_none, materialize] using horigin

theorem registerState_admissible (coherent : Coherent inputs.plane)
    (h : registerState spec inputs = .ok out) :
    Admissible (.registerState spec.key) inputs.plane out.effects := by
  rcases registerState_effects h with hnil
    | ⟨record, set, counters, next, hnew, heffects, hkey, hstaged, -, -, -, hsetKey, hgeneration,
        hmembers, -⟩
  · rw [hnil]
    exact admissible_of_silent (by simp)
  -- A set without its generation would contradict coherence, so the set is new as well.
  have hnone : inputs.plane.replicaSets[spec.key]? = none := by
    cases hs : inputs.plane.replicaSets[spec.key]? with
    | none => rfl
    | some =>
      obtain ⟨hkey, hground⟩ := coherent.replicaSets hs
      have hstate := hground.state
      rw [hkey, hnew] at hstate
      simp at hstate
  have hstate : (inputs.plane.applyAll out.effects).states[spec.key]?.isSome := by
    rw [heffects, ← hkey]
    exact isSome_states_of_put List.mem_cons_self
  have hset : (inputs.plane.applyAll out.effects).replicaSets[spec.key]?.isSome := by
    rw [heffects, ← hsetKey]
    exact isSome_replicaSets_of_put (by simp)
  refine ⟨⟨?_, ?_, ?_, ?_, ?_, ?_⟩, ⟨?_, ?_, ?_, ?_⟩⟩
  · intro r hr
    obtain rfl : r = record := by simpa [heffects] using hr
    obtain ⟨stored, hstored⟩ := Option.isSome_iff_exists.mp hset
    rw [hkey, hnew]
    exact .register _ rfl hstaged ⟨_, abs_setGeneration hstored⟩
  · simp [heffects]
  · simp [heffects]
  · intro s hs
    obtain rfl : s = set := by simpa [heffects] using hs
    have hview : s.view = 1 := congrArg StrongId.value hgeneration
    rw [hsetKey, hnone, hview]
    exact .create
  · simp [heffects]
  · simp [heffects]
  · simp [heffects]
  · intro s hs
    obtain rfl : s = set := by simpa [heffects] using hs
    refine ⟨hsetKey ▸ hstate, fun m hm => ?_⟩
    rw [hmembers] at hm
    cases hm
  · simp [heffects]
  · simp [heffects]

/-- What a publication finds and writes: nothing once the generation has left STAGED, otherwise
the record of the specification. -/
theorem publishStateGeneration_effects (h : publishStateGeneration spec inputs = .ok out) :
    out.effects = [] ∨ ∃ existing record, inputs.plane.states[spec.key]? = some existing
      ∧ existing.lifecycle = .staged ∧ out.effects = [.putState record]
      ∧ record.key = spec.key ∧ record.lifecycle = .staged
      ∧ record.contentDigest = spec.contentDigest ∧ record.lineage = spec.effectiveLineage
      ∧ record.branch = spec.branch ∧ record.branchesFrom = spec.branchesFrom
      ∧ record.branch = record.branchesFrom.valid
      ∧ record.replicationRequirements = spec.replicationRequirements := by
  simp only [publishStateGeneration, ↓found_bind_eq_ok, bind_eq_ok] at h
  obtain ⟨done, hspec, existing, hexisting, h⟩ := h
  split at h
  · simp only [↓rejectIf_bind_eq_ok] at h
    exact .inl (commit_ok h.2).1
  · rename_i hstaged
    exact .inr ⟨existing, _, hexisting, not_not.mp hstaged, (commit_ok h).1, rfl, rfl, rfl, rfl,
      rfl, rfl, validateSpec_branch hspec, rfl⟩

theorem publishStateGeneration_admissible (h : publishStateGeneration spec inputs = .ok out) :
    Admissible (.publish spec.key) inputs.plane out.effects := by
  rcases publishStateGeneration_effects h with hnil
    | ⟨existing, record, hexisting, hstaged, heffects, hkey, hstaged', -⟩
  · rw [hnil]
    exact admissible_of_silent (by simp)
  refine ⟨⟨?_, ?_, ?_, ?_, ?_, ?_⟩, ⟨?_, ?_, ?_, ?_⟩⟩
  · intro r hr
    obtain rfl : r = record := by simpa [heffects] using hr
    rw [hkey, hexisting]
    exact .publish _ _ rfl hstaged hstaged'
  all_goals simp [heffects]

/-! ## The authoritative commit -/

theorem mem_supersede :
    e ∈ supersede inputs old ↔ e = .putState { old with lifecycle := .historical }
      ∨ (∃ r ∈ inputs.plane.replicasOfState old.key,
          e = .putReplica (supersededReplica inputs r))
      ∨ ∃ set, inputs.plane.replicaSets[old.key]? = some set
          ∧ e = .putReplicaSet (supersededReplicaSet inputs set) := by
  unfold supersede
  cases inputs.plane.replicaSets[old.key]? <;> simp [eq_comm]

/-- A commit that supersedes `superseded`, as a batch of effects. -/
structure CommitBatch (inputs : MutationInputs) (superseded : List StateGenerationRecord)
    (existing record : StateGenerationRecord) (counters : FabricCounters) (es : List Effect) :
    Prop where
  effects : es = superseded.flatMap (supersede inputs)
    ++ [.putState record, .putCounters counters]
  recorded : inputs.plane.states[existing.key]? = some existing
  notCurrent : existing.lifecycle ≠ .current
  view : record.view = { existing.view with lifecycle := .current }
  key : record.key = existing.key
  branchesFrom : record.branchesFrom = existing.branchesFrom
  superseded_iff : ∀ old, old ∈ superseded ↔ inputs.plane.states[old.key]? = some old
    ∧ old.key.stateId = existing.key.stateId ∧ old.lifecycle = .current
    ∧ old.lineage = existing.lineage ∧ existing.branch = false ∧ old.key ≠ existing.key

theorem commitStateGeneration_batch (coherent : Coherent inputs.plane)
    (h : commitStateGeneration stateId generation commitId inputs = .ok out) :
    out.effects = [] ∨ ∃ superseded existing record counters,
      existing.key = ⟨stateId, generation⟩
        ∧ CommitBatch inputs superseded existing record counters out.effects := by
  simp only [commitStateGeneration, ↓rejectIf_bind_eq_ok, ↓found_bind_eq_ok] at h
  obtain ⟨-, existing, hexisting, h⟩ := h
  have hkey := coherent.states hexisting
  split at h
  · simp only [↓rejectIf_bind_eq_ok] at h
    exact .inl (commit_ok h.2).1
  · rename_i hcurrent
    simp only [↓rejectIf_bind_eq_ok] at h
    obtain ⟨-, -, h⟩ := h
    refine .inr ⟨_, existing, _, _, hkey, ⟨(commit_ok h).1, ?_, hcurrent, rfl, rfl, rfl, ?_⟩⟩
    · rwa [hkey]
    · intro old
      have hid : existing.stateId = stateId := congrArg StateKey.stateId hkey
      have hne : old.stateId = stateId → (old.key ≠ existing.key ↔
          old.generation ≠ existing.generation) := by
        intro hold
        simp [StateGenerationRecord.key, hold, hid]
      cases hbranch : existing.branch with
      | true => simp
      | false =>
        simp only [Bool.false_eq_true, if_false, List.mem_filter, currentOnLineage,
          coherent.mem_generationsOf, Bool.and_eq_true, beq_iff_eq, bne_iff_ne,
          StateGenerationRecord.isCurrent, true_and]
        constructor
        · rintro ⟨⟨⟨hrec, hsid⟩, hcur, hlin⟩, hgen⟩
          exact ⟨hrec, hsid.trans hid.symm, hcur, hlin, (hne hsid).mpr hgen⟩
        · rintro ⟨hrec, hsid, hcur, hlin, hkeyne⟩
          have hsid' : old.stateId = stateId := hsid.trans hid
          exact ⟨⟨⟨hrec, hsid'⟩, hcur, hlin⟩, (hne hsid').mp hkeyne⟩

namespace CommitBatch

variable {superseded : List StateGenerationRecord} {existing record : StateGenerationRecord}
  {counters : FabricCounters} {es : List Effect}

section

variable (b : CommitBatch inputs superseded existing record counters es)
include b

theorem mem_iff :
    e ∈ es ↔ (∃ old ∈ superseded, e ∈ supersede inputs old) ∨ e = .putState record
      ∨ e = .putCounters counters := by
  rw [b.effects]
  simp only [List.mem_append, List.mem_flatMap, List.mem_cons, List.not_mem_nil, or_false]

theorem mem_putState {s : StateGenerationRecord} : .putState s ∈ es ↔
      (∃ old ∈ superseded, s = { old with lifecycle := .historical }) ∨ s = record := by
  simp [b.mem_iff, mem_supersede]

theorem mem_putReplica :
    .putReplica r ∈ es ↔
      ∃ old ∈ superseded, ∃ r₀ ∈ inputs.plane.replicasOfState old.key,
        r = supersededReplica inputs r₀ := by
  simp [b.mem_iff, mem_supersede]

theorem mem_putReplicaSet {s : ReplicaSetRecord} : .putReplicaSet s ∈ es ↔
      ∃ old ∈ superseded, ∃ set, inputs.plane.replicaSets[old.key]? = some set
        ∧ s = supersededReplicaSet inputs set := by
  simp [b.mem_iff, mem_supersede]

theorem replica_eq (coherent : Coherent inputs.plane) (hold : old ∈ superseded)
    (hr : r ∈ inputs.plane.replicasOfState old.key) :
    (inputs.plane.applyAll es).abs.replicas r.replicaId = some r.view.superseded := by
  have hput : .putReplica (supersededReplica inputs r) ∈ es :=
    b.mem_putReplica.mpr ⟨old, hold, r, hr, rfl⟩
  refine abs_replicas_applyAll hput ?_
  intro w hw hid
  obtain ⟨old', -, r', hr', rfl⟩ := b.mem_putReplica.mp hw
  have hsame : r'.replicaId = r.replicaId := hid
  have heq := (coherent.mem_replicasOfState.mp hr').1
  rw [hsame, (coherent.mem_replicasOfState.mp hr).1] at heq
  rw [Option.some.inj heq]

theorem advances (coherent : Coherent inputs.plane) (hold : old ∈ superseded) :
    inputs.plane.abs.Advances (inputs.plane.applyAll es).abs old.key := by
  have adv : Advancing inputs.plane es := by
    intro s hs set hset
    obtain ⟨old', -, set', hset', rfl⟩ := b.mem_putReplicaSet.mp hs
    have hkey : set'.key = old'.key := (coherent.replicaSets hset').1
    have heq : set' = set := by
      rw [show (supersededReplicaSet inputs set').key = old'.key from hkey, hset'] at hset
      exact Option.some.inj hset
    rw [heq]
    rfl
  refine adv.advances fun set hset => ?_
  exact ⟨_, b.mem_putReplicaSet.mpr ⟨old, hold, set, hset, rfl⟩, (coherent.replicaSets hset).1⟩

theorem historical (hold : old ∈ superseded) :
    (inputs.plane.applyAll es).abs.states old.key =
      some { old.view with lifecycle := .historical } := by
  obtain ⟨hrecorded, -, -, -, -, hne⟩ := (b.superseded_iff old).mp hold
  have hput : .putState { old with lifecycle := .historical } ∈ es :=
    b.mem_putState.mpr (.inl ⟨old, hold, rfl⟩)
  refine abs_states_applyAll hput ?_
  intro w hw hkey
  rcases b.mem_putState.mp hw with ⟨old', hold', rfl⟩ | rfl
  · have hsame : old'.key = old.key := hkey
    have heq := ((b.superseded_iff old').mp hold').1
    rw [hsame, hrecorded] at heq
    rw [Option.some.inj heq]
  · exact absurd (hkey.symm.trans b.key) hne

theorem current :
    (inputs.plane.applyAll es).abs.states existing.key =
      some { existing.view with lifecycle := .current } := by
  rw [← b.view, ← b.key]
  refine abs_states_applyAll (b.mem_putState.mpr (.inr rfl)) ?_
  intro w hw hkey
  rcases b.mem_putState.mp hw with ⟨old, hold, rfl⟩ | rfl
  · have hsame : old.key = existing.key := hkey.trans b.key
    exact absurd hsame ((b.superseded_iff old).mp hold).2.2.2.2.2
  · rfl

theorem lawful (coherent : Coherent inputs.plane) :
    Lawful (.commitState existing.key) inputs.plane es where
  states s hs := by
    rcases b.mem_putState.mp hs with ⟨old, hold, rfl⟩ | rfl
    · obtain ⟨hrecorded, -, hcurrent, -, -, hne⟩ := (b.superseded_iff old).mp hold
      change StateMove _ _ _ old.key (inputs.plane.states[old.key]?.map _) _
      rw [hrecorded]
      refine .supersede old.view existing.key rfl hne hcurrent ?_ (b.advances coherent hold)
      intro k v hv hkey
      obtain ⟨r, hr, rfl⟩ := abs_replicas_eq_some.mp hv
      have hid := (coherent.replicas hr).1
      rw [← hid] at hr ⊢
      exact b.replica_eq coherent hold (coherent.mem_replicasOfState.mpr ⟨hr, hkey⟩)
    · rw [b.key, b.recorded, b.view]
      refine .commit existing.view rfl b.notCurrent ?_
      intro hbranch K' t hne hid ht hcurrent hlineage
      obtain ⟨old, hold, rfl⟩ := abs_states_eq_some.mp ht
      have hkey := coherent.states hold
      rw [← hkey] at hold hne hid ⊢
      exact b.historical
        ((b.superseded_iff old).mpr ⟨hold, hid, hcurrent, hlineage, hbranch, hne⟩)
  clusters c hc := by simp [b.mem_iff, mem_supersede] at hc
  replicas w hw := by
    obtain ⟨old, hold, r, hr, rfl⟩ := b.mem_putReplica.mp hw
    obtain ⟨hrecorded, hkey⟩ := coherent.mem_replicasOfState.mp hr
    change ReplicaMove _ _ _ r.replicaId (inputs.plane.replicas[r.replicaId]?.map _) _
    rw [hrecorded]
    refine .supersede r.view existing.key rfl ?_
    rw [show r.view.key = old.key from hkey]
    exact b.advances coherent hold
  sets s hs := by
    obtain ⟨old, -, set, hset, rfl⟩ := b.mem_putReplicaSet.mp hs
    have hkey : (supersededReplicaSet inputs set).key = old.key := (coherent.replicaSets hset).1
    rw [hkey, hset]
    exact .advance _
  operations o ho := by simp [b.mem_iff, mem_supersede] at ho
  ownership o ho := by simp [b.mem_iff, mem_supersede] at ho

theorem grounded (coherent : Coherent inputs.plane) : Grounded inputs.plane es where
  replicas w hw := by
    obtain ⟨old, hold, r, hr, rfl⟩ := b.mem_putReplica.mp hw
    exact replica_groundedIn_applyAll es (coherent.grounded_of_same
      (coherent.mem_replicasOfState.mp hr).1 rfl rfl rfl)
  replicaSets s hs := by
    obtain ⟨old, -, set, hset, rfl⟩ := b.mem_putReplicaSet.mp hs
    exact replicaSet_groundedIn_applyAll es
      ⟨(coherent.replicaSets hset).2.state, (coherent.replicaSets hset).2.members⟩
  operations o ho := by simp [b.mem_iff, mem_supersede] at ho
  ownership o ho := by simp [b.mem_iff, mem_supersede] at ho

end

end CommitBatch

theorem commitStateGeneration_admissible (coherent : Coherent inputs.plane)
    (h : commitStateGeneration stateId generation commitId inputs = .ok out) :
    Admissible (.commitState ⟨stateId, generation⟩) inputs.plane out.effects := by
  rcases commitStateGeneration_batch coherent h with hnil | ⟨_, existing, _, _, hkey, batch⟩
  · rw [hnil]
    exact admissible_of_silent (by simp)
  · rw [← hkey]
    exact ⟨batch.lawful coherent, batch.grounded coherent⟩

/-! ## Publications -/

theorem publishCompatibility_admissible {record : CompatibilityRecord}
    {out : Outcome CompatibilityRecord} (h : publishCompatibility record inputs = .ok out) :
    Admissible .idle inputs.plane out.effects := by
  simp only [publishCompatibility, rejectIf_bind_eq_ok, validateText_bind_eq_ok] at h
  obtain ⟨-, -, -, h⟩ := h
  rw [(commit_ok h).1]
  exact admissible_of_silent (by simp [Effect.Silent])

theorem publishPlacementPolicy_admissible {policy : PlacementPolicyRecord}
    {out : Outcome PlacementPolicyRecord} (h : publishPlacementPolicy policy inputs = .ok out) :
    Admissible .idle inputs.plane out.effects := by
  simp only [publishPlacementPolicy, ↓rejectIf_bind_eq_ok] at h
  obtain ⟨-, -, h⟩ := h
  rw [(commit_ok h).1]
  exact admissible_of_silent (by simp [Effect.Silent])

theorem publishReplicationPolicy_admissible {policy : ReplicationPolicyRecord}
    {out : Outcome ReplicationPolicyRecord}
    (h : publishReplicationPolicy policy inputs = .ok out) :
    Admissible .idle inputs.plane out.effects := by
  simp only [publishReplicationPolicy, ↓rejectIf_bind_eq_ok] at h
  obtain ⟨-, -, h⟩ := h
  rw [(commit_ok h).1]
  exact admissible_of_silent (by simp [Effect.Silent])

end StateFabric
