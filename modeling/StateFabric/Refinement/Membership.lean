import StateFabric.Protocol.Membership
import StateFabric.Refinement.Cluster
import StateFabric.Refinement.Operation
import StateFabric.Refinement.State

/-!
# What the batches do to membership

For every kind of batch: which replica sets it moves on (`impact`), which copies count after it
(`member_iff`), and from the two when it moves a set on although the standing of the generation is
the same (`undisturbed_iff`).
-/

namespace StateFabric

open Protocol ControlPlane MutationInputs OrderedMap

variable {es : List Effect} {K : StateKey} {inputs : MutationInputs} {k : ReplicaId}
  {p : ControlPlane} {old : ReplicaRecord}

/-! ## Sets -/

theorem impact_of_puts {advanced : StateKey → Prop}
    (put : ∀ K, advanced K → p.replicaSets[K]?.isSome
      ∧ ∃ s, .putReplicaSet s ∈ es ∧ s.key = K)
    (moved : ∀ s, .putReplicaSet s ∈ es → ∀ set, p.replicaSets[s.key]? = some set →
      (advanced s.key ∧ s.generation.value = set.generation.value + 1)
        ∨ (¬ advanced s.key ∧ s.generation = set.generation)) :
    Impact p.abs (p.applyAll es).abs advanced where
  registered K hK := by
    obtain ⟨set, hset⟩ := Option.isSome_iff_exists.mp (put K hK).1
    exact ⟨_, abs_setGeneration hset⟩
  advances K hK g hg := by
    obtain ⟨set, hset, rfl⟩ := Option.map_eq_some_iff.mp hg
    obtain ⟨s, hs, hkey⟩ := (put K hK).2
    obtain ⟨w, hw, hgen⟩ := exists_getElem?_insertAll (m := p.replicaSets)
      (P := fun w => w.generation.value = set.generation.value + 1)
      (mem_replicaSetPuts.mpr ⟨hs, hkey⟩) (fun w hw => by
        obtain ⟨hmem, rfl⟩ := mem_replicaSetPuts.mp hw
        rcases moved w hmem set hset with ⟨-, hnext⟩ | ⟨hnot, -⟩
        · exact hnext
        · exact absurd hK hnot)
    rw [← applyAll_replicaSets] at hw
    rw [abs_setGeneration hw, hgen]
    rfl
  unmoved K hK g hg := by
    obtain ⟨set, hset, rfl⟩ := Option.map_eq_some_iff.mp hg
    rcases p.replicaSets_applyAll_cases es K with hsame | ⟨w, ⟨hmem, rfl⟩, hafter⟩
    · exact abs_setGeneration (hsame.trans hset)
    · rcases moved w hmem set hset with ⟨hadv, -⟩ | ⟨-, hgen⟩
      · exact absurd hadv hK
      · rw [abs_setGeneration hafter, hgen]
        rfl

theorem impact_of_not_mem (none : ∀ s, .putReplicaSet s ∉ es) :
    Impact p.abs (p.applyAll es).abs fun _ => False :=
  impact_of_puts (fun _ h => h.elim) fun s hs => absurd hs (none s)

/-- A set rebuilt without moving it on keeps its generation, unless that is 0: it becomes 1. -/
theorem Coherent.bumped_keep (coherent : Coherent inputs.plane) {set : ReplicaSetRecord}
    (hset : inputs.plane.replicaSets[(inputs.bumped K false).key]? = some set) :
    (set.generation.value = 0 ∧ (inputs.bumped K false).generation.value = set.generation.value + 1)
      ∨ (set.generation.value ≠ 0 ∧ (inputs.bumped K false).generation = set.generation) := by
  rw [coherent.bumped_key] at hset
  by_cases hzero : set.generation.value = 0
  · exact .inl ⟨hzero, by simp [bumped, bumpedReplicaSet, hset, StrongId.valid, hzero]⟩
  · exact .inr ⟨hzero, by simp [bumped, bumpedReplicaSet, hset, StrongId.valid, hzero]⟩

theorem isSome_set (covered : p.abs.Covered) (registered : p.states[K]?.isSome) :
    p.replicaSets[K]?.isSome := by
  obtain ⟨state, hstate⟩ := Option.isSome_iff_exists.mp registered
  obtain ⟨g, hg⟩ := covered K state.view (abs_states hstate)
  obtain ⟨set, hset, -⟩ := Option.map_eq_some_iff.mp hg
  exact Option.isSome_of_eq_some hset

/-! ## Copies -/

theorem abs_replicas_of_not_put (none : ∀ w, .putReplica w ∈ es → w.replicaId ≠ k) :
    (p.applyAll es).abs.replicas k = p.abs.replicas k := by
  rcases p.replicas_applyAll_cases es k with hsame | ⟨w, ⟨hmem, hid⟩, -⟩
  · exact congrArg (Option.map _) hsame
  · exact absurd hid (none w hmem)

theorem member_iff_of_replica {p : Plane} {v : ReplicaView} (hv : p.replicas k = some v) :
    p.Member K k ↔ v.key = K ∧ v.Counting := by
  constructor
  · rintro ⟨w, hw, hkey, hcounting⟩
    obtain rfl := some_unique hw hv
    exact ⟨hkey, hcounting⟩
  · rintro ⟨hkey, hcounting⟩
    exact ⟨v, hv, hkey, hcounting⟩

theorem member_congr {p p' : Plane} (same : p'.replicas k = p.replicas k) :
    p'.Member K k ↔ p.Member K k := by
  rw [Plane.Member, Plane.Member, same]

/-! ## One replica -/

namespace ReplicaBatch

variable {inputs : MutationInputs} {r : ReplicaRecord} {ops : List OperationRecord}
  {es : List Effect}

/-- A batch that keeps the set of its replica moves it on only from generation 0. -/
theorem impact_keep (b : ReplicaBatch inputs r false ops es) (coherent : Coherent inputs.plane) :
    Impact inputs.plane.abs (inputs.plane.applyAll es).abs
      fun K => K = r.key ∧ inputs.plane.abs.setGeneration K = some 0 := by
  refine impact_of_puts ?_ fun s hs set hset => ?_
  · rintro K ⟨rfl, hzero⟩
    obtain ⟨set, hset, -⟩ := Option.map_eq_some_iff.mp hzero
    exact ⟨Option.isSome_of_eq_some hset, _, b.set, coherent.bumped_key ..⟩
  · obtain rfl := b.eq_of_mem_putReplicaSet hs
    have hstored := abs_setGeneration hset
    rcases coherent.bumped_keep hset with ⟨hzero, hnext⟩ | ⟨hvalid, hkept⟩
    · refine .inl ⟨⟨coherent.bumped_key .., ?_⟩, hnext⟩
      rw [hstored, hzero]
    · refine .inr ⟨fun hmoved => hvalid ?_, hkept⟩
      exact some_unique hstored hmoved.2

theorem impact (b : ReplicaBatch inputs r true ops es) (coherent : Coherent inputs.plane)
    (set : inputs.plane.replicaSets[r.key]?.isSome) :
    Impact inputs.plane.abs (inputs.plane.applyAll es).abs (· = r.key) := by
  refine impact_of_puts ?_ fun s hs stored hstored => ?_
  · rintro K rfl
    exact ⟨set, _, b.set, coherent.bumped_key ..⟩
  · obtain rfl := b.eq_of_mem_putReplicaSet hs
    exact .inl ⟨coherent.bumped_key .., coherent.bumped_generation hstored⟩

variable {adv : Bool}

theorem replicas_eq_of_ne (b : ReplicaBatch inputs r adv ops es) (hne : k ≠ r.replicaId) :
    (inputs.plane.applyAll es).abs.replicas k = inputs.plane.abs.replicas k :=
  abs_replicas_of_not_put fun w hw hid => by
    rw [b.eq_of_mem_putReplica hw] at hid
    exact hne hid.symm

theorem sameStanding_iff (b : ReplicaBatch inputs r adv ops es)
    (recorded : inputs.plane.replicas[r.replicaId]? = some old) (key : old.key = r.key) :
    inputs.plane.abs.SameStanding (inputs.plane.applyAll es).abs r.key
      ↔ (old.view.Counting ↔ r.view.Counting) := by
  have hstates : (inputs.plane.applyAll es).abs.states r.key = inputs.plane.abs.states r.key := by
    simp only [ControlPlane.abs, states_applyAll_of_not_mem b.not_mem_putState]
  rw [Plane.sameStanding_iff (by rw [b.ownership_eq]) hstates]
  have hbefore := member_iff_of_replica (K := r.key) (abs_replicas recorded)
  have hafter := member_iff_of_replica (K := r.key) b.replica_eq
  rw [show old.view.key = r.key from key, eq_self, true_and] at hbefore
  rw [show r.view.key = r.key from rfl, eq_self, true_and] at hafter
  constructor
  · intro hsame
    rw [← hbefore, ← hafter]
    exact hsame r.replicaId
  · intro hcounting k
    by_cases hk : k = r.replicaId
    · rw [hk, hbefore, hafter]
      exact hcounting
    · exact (member_congr (b.replicas_eq_of_ne hk)).symm

/-- A batch that moves the set of its replica on does so with need when the replica starts or stops
counting. -/
theorem undisturbed_iff (b : ReplicaBatch inputs r true ops es) (coherent : Coherent inputs.plane)
    (covered : inputs.plane.abs.Covered) (recorded : inputs.plane.replicas[r.replicaId]? = some old)
    (key : old.key = r.key) :
    Undisturbed inputs.plane.abs (inputs.plane.applyAll es).abs
      ↔ ¬ (old.view.Counting ↔ r.view.Counting) := by
  have hset := isSome_set covered (key ▸ (coherent.replicas recorded).2.state)
  rw [(b.impact coherent hset).undisturbed_iff, ← b.sameStanding_iff recorded key]
  simp

end ReplicaBatch

/-! ## Fences -/

namespace FenceBatch

variable {inputs : MutationInputs} {fence : Fence} {fenced : List ReplicaRecord}
  {record : ClusterRecord} {es : List Effect}

theorem impact (b : FenceBatch inputs fence fenced record es) (coherent : Coherent inputs.plane)
    (covered : inputs.plane.abs.Covered) :
    Impact inputs.plane.abs (inputs.plane.applyAll es).abs fun K => ∃ r ∈ fenced, r.key = K := by
  refine impact_of_puts ?_ fun s hs set hset => ?_
  · rintro K ⟨r, hr, rfl⟩
    have hset := isSome_set covered (coherent.replicas (b.recorded r hr).1).2.state
    obtain ⟨set, hstored⟩ := Option.isSome_iff_exists.mp hset
    exact ⟨hset, fencedReplicaSet inputs set,
      b.mem_of_mem_fenceEffects hr (mem_fenceEffects.mpr (.inr ⟨set, hstored, rfl⟩)),
      (coherent.replicaSets hstored).1⟩
  · obtain ⟨r, hr, stored, hstored, rfl⟩ := b.exists_of_mem_putReplicaSet hs
    have hkey : (fencedReplicaSet inputs stored).key = r.key := (coherent.replicaSets hstored).1
    rw [hkey, hstored] at hset
    refine .inl ⟨⟨r, hr, hkey.symm⟩, ?_⟩
    rw [← Option.some.inj hset]
    rfl

theorem sameStanding_iff (b : FenceBatch inputs fence fenced record es) :
    inputs.plane.abs.SameStanding (inputs.plane.applyAll es).abs K
      ↔ ∀ r ∈ fenced, r.key = K → ¬ r.view.Counting := by
  have hstates : (inputs.plane.applyAll es).abs.states K = inputs.plane.abs.states K := by
    simp only [ControlPlane.abs, states_applyAll_of_not_mem fun s (hs : .putState s ∈ es) =>
      absurd (b.kinds hs) (by simp [Effect.Silent])]
  have hownership : (inputs.plane.applyAll es).abs.ownership K = inputs.plane.abs.ownership K := by
    simp only [ControlPlane.abs, ownership_applyAll_of_not_mem fun o (ho : .putOwnership o ∈ es) =>
      absurd (b.kinds ho) (by simp [Effect.Silent])]
  rw [Plane.sameStanding_iff hownership hstates]
  -- A fenced copy does not count after the batch; every other copy is as it was.
  have hfenced : ∀ r ∈ fenced, ¬ (inputs.plane.applyAll es).abs.Member K r.replicaId := by
    intro r hr hmember
    rw [member_iff_of_replica (b.replica_eq hr)] at hmember
    exact ReplicaView.not_counting_fenced hmember.2
  constructor
  · intro hsame r hr hkey hcounting
    refine hfenced r hr ((hsame r.replicaId).mp ?_)
    rw [member_iff_of_replica (abs_replicas (b.recorded r hr).1)]
    exact ⟨hkey, hcounting⟩
  · intro huncounted k
    by_cases hk : ∃ r ∈ fenced, r.replicaId = k
    · obtain ⟨r, hr, rfl⟩ := hk
      refine iff_of_false ?_ (hfenced r hr)
      rw [member_iff_of_replica (abs_replicas (b.recorded r hr).1)]
      rintro ⟨hkey, hcounting⟩
      exact huncounted r hr hkey hcounting
    · refine (member_congr (abs_replicas_of_not_put fun w hw hid => ?_)).symm
      obtain ⟨r, hr, rfl⟩ := b.exists_of_mem_putReplica hw
      exact hk ⟨r, hr, hid⟩

/-- A fence moves sets on with need when each of them loses a counting copy. -/
theorem undisturbed_iff (b : FenceBatch inputs fence fenced record es)
    (coherent : Coherent inputs.plane) (covered : inputs.plane.abs.Covered) :
    Undisturbed inputs.plane.abs (inputs.plane.applyAll es).abs
      ↔ ∀ r ∈ fenced, ∃ r' ∈ fenced, r'.key = r.key ∧ r'.view.Counting := by
  rw [(b.impact coherent covered).undisturbed_iff]
  simp only [b.sameStanding_iff]
  constructor
  · intro h r hr
    have hlost := h r.key ⟨r, hr, rfl⟩
    push Not at hlost
    exact hlost
  · rintro h K ⟨r, hr, rfl⟩ hall
    obtain ⟨r', hr', hkey, hcounting⟩ := h r hr
    exact hall r' hr' hkey hcounting

end FenceBatch

/-! ## Commits of generations -/

/-- The sets a commit moves on belong to generations that are no longer current. -/
theorem CommitBatch.undisturbed {superseded : List StateGenerationRecord}
    {existing record : StateGenerationRecord} {counters : FabricCounters}
    (b : CommitBatch inputs superseded existing record counters es)
    (coherent : Coherent inputs.plane) (covered : inputs.plane.abs.Covered) :
    Undisturbed inputs.plane.abs (inputs.plane.applyAll es).abs := by
  have himpact : Impact inputs.plane.abs (inputs.plane.applyAll es).abs
      fun K => ∃ old ∈ superseded, old.key = K := by
    refine impact_of_puts ?_ fun s hs set hset => ?_
    · rintro K ⟨old, hold, rfl⟩
      have hregistered := Option.isSome_of_eq_some ((b.superseded_iff old).mp hold).1
      have hset := isSome_set covered hregistered
      obtain ⟨set, hstored⟩ := Option.isSome_iff_exists.mp hset
      exact ⟨hset, _, b.mem_putReplicaSet.mpr ⟨old, hold, set, hstored, rfl⟩,
        (coherent.replicaSets hstored).1⟩
    · obtain ⟨old, hold, stored, hstored, rfl⟩ := b.mem_putReplicaSet.mp hs
      have hkey : (supersededReplicaSet inputs stored).key = old.key :=
        (coherent.replicaSets hstored).1
      rw [hkey, hstored] at hset
      refine .inl ⟨⟨old, hold, hkey.symm⟩, ?_⟩
      rw [← Option.some.inj hset]
      rfl
  refine himpact.undisturbed_iff.mpr ?_
  rintro K ⟨old, hold, rfl⟩ hsame
  obtain ⟨hrecorded, -, hcurrent, -⟩ := (b.superseded_iff old).mp hold
  obtain ⟨s, hs, hstill⟩ := hsame.current.mp ⟨old.view, abs_states hrecorded, hcurrent⟩
  rw [b.historical hold] at hs
  rw [← Option.some.inj hs] at hstill
  cases hstill

/-! ## Handovers -/

namespace HandoverBatch

variable {inputs : MutationInputs} {h : Handover} {es : List Effect}

theorem impact (b : HandoverBatch inputs h es) (coherent : Coherent inputs.plane)
    (covered : inputs.plane.abs.Covered) (state : inputs.plane.states[h.target.key]?.isSome) :
    Impact inputs.plane.abs (inputs.plane.applyAll es).abs
      fun K => K = h.target.key ∨ ∃ s ∈ h.retired, s.key = K := by
  refine impact_of_puts ?_ fun s hs set hset => ?_
  · rintro K (rfl | ⟨s, hs, rfl⟩)
    · exact ⟨isSome_set covered state, _, b.mem_putReplicaSet.mpr (.inl rfl),
        coherent.bumped_key ..⟩
    · exact ⟨isSome_set covered (coherent.replicas (b.retired s hs).1).2.state, _,
        b.mem_putReplicaSet.mpr (.inr ⟨s, hs, rfl⟩), coherent.bumped_key ..⟩
  · refine .inl ⟨?_, b.advancing coherent s hs set hset⟩
    rcases b.mem_putReplicaSet.mp hs with rfl | ⟨r, hr, rfl⟩
    · exact .inl (coherent.bumped_key ..)
    · exact .inr ⟨r, hr, (coherent.bumped_key ..).symm⟩

/-- The target counts after the handover when it is put so; every other copy counts if it did,
unless it is the retired source. -/
theorem member_iff (b : HandoverBatch inputs h es)
    (retires : ∀ s ∈ h.retired, (inputs.plane.applyAll es).abs.replicas s.replicaId
      = some (retiredReplica inputs s retirement).view) (other : k ≠ h.target.replicaId) :
    (inputs.plane.applyAll es).abs.Member K k
      ↔ (∀ s ∈ h.retired, s.replicaId ≠ k) ∧ inputs.plane.abs.Member K k := by
  by_cases hretired : ∃ s ∈ h.retired, s.replicaId = k
  · obtain ⟨s, hs, rfl⟩ := hretired
    rw [member_iff_of_replica (retires s hs)]
    refine iff_of_false ?_ fun hspared => hspared.1 s hs rfl
    rintro ⟨-, -, hcounts, -⟩
    cases hcounts
  · push Not at hretired
    rw [and_iff_right hretired]
    by_cases hput : ∃ d ∈ h.demoted, d.replicaId = k
    · obtain ⟨d, hd, rfl⟩ := hput
      -- Demotion changes the authority of the previous owner and nothing it counts by.
      have hafter : (inputs.plane.applyAll es).abs.replicas d.replicaId
          = some (demotedReplica inputs d h.demotion).view := by
        refine abs_replicas_applyAll (r := demotedReplica inputs d h.demotion)
          (b.mem_putReplica.mpr (.inl ⟨d, hd, rfl⟩)) fun w hw hid => ?_
        rcases b.mem_putReplica.mp hw with ⟨d', hd', rfl⟩ | rfl | ⟨s, hs, rfl⟩
        · rw [Option.mem_unique hd' hd]
        · exact absurd hid.symm other
        · exact absurd hid (hretired s hs)
      rw [member_iff_of_replica hafter, member_iff_of_replica (abs_replicas (b.demoted d hd).1)]
      exact Iff.rfl
    · refine member_congr (abs_replicas_of_not_put fun w hw hid => ?_)
      rcases b.mem_putReplica.mp hw with ⟨d, hd, rfl⟩ | rfl | ⟨s, hs, rfl⟩
      · exact hput ⟨d, hd, hid⟩
      · exact other hid.symm
      · exact hretired s hs hid

theorem not_sameStanding_target (b : HandoverBatch inputs h es)
    (recorded : inputs.plane.replicas[h.target.replicaId]? = some old)
    (uncounted : ¬ old.view.Counting) (counts : h.target.view.Counting) :
    ¬ inputs.plane.abs.SameStanding (inputs.plane.applyAll es).abs h.target.key := by
  intro hsame
  have hafter := (member_iff_of_replica b.target_eq).mpr ⟨rfl, counts⟩
  have hbefore := (hsame.members _).mpr hafter
  rw [member_iff_of_replica (abs_replicas recorded)] at hbefore
  exact uncounted hbefore.2

theorem states_eq (b : HandoverBatch inputs h es) (K : StateKey) :
    (inputs.plane.applyAll es).abs.states K = inputs.plane.abs.states K := by
  simp only [ControlPlane.abs, states_applyAll_of_not_mem b.not_mem_putState]

end HandoverBatch

theorem PlannedCommit.counting {target : ReplicaRecord} {commitId : CommitId}
    {makeOwner takeover : Bool} {plan : CommitPlan} {authority : ReplicaAuthorityState}
    {demoted : Option ReplicaRecord} {ownership : Option OwnershipRecord}
    (c : PlannedCommit inputs target commitId makeOwner takeover plan authority demoted ownership) :
    plan.committed.view.Counting := by
  rw [c.committed_view]
  exact ⟨rfl, rfl, rfl, rfl, .inl rfl⟩

/-- A replica commit moves a set on with need: its replica starts to count. -/
theorem ReplicaCommitted.undisturbed {commit : ReplicaCommit} {target : ReplicaRecord}
    {plan : CommitPlan} (c : ReplicaCommitted inputs commit target plan es)
    (coherent : Coherent inputs.plane) (covered : inputs.plane.abs.Covered) :
    Undisturbed inputs.plane.abs (inputs.plane.applyAll es).abs := by
  obtain ⟨owner, authority, demoted, ownership, planned⟩ := c.planned
  obtain ⟨bookkeeping, heffects, hsilent⟩ := c.effects
  have hground := coherent.replicas c.recorded
  have batch := planned.batch coherent none none heffects hsilent (by simp)
  have hstate : inputs.plane.states[plan.committed.key]?.isSome := by
    rw [planned.committed_key]
    exact hground.2.state
  refine (batch.impact coherent covered hstate).undisturbed_iff.mpr ?_
  rintro K (rfl | ⟨s, hs, -⟩)
  · have hrecorded : inputs.plane.replicas[plan.committed.replicaId]? = some target := by
      rw [planned.committed_replicaId, hground.1]
      exact c.recorded
    refine batch.not_sameStanding_target hrecorded ?_ planned.counting
    rintro ⟨hcommitted, -⟩
    exact absurd (hcommitted.symm.trans c.uncommitted) (by simp)
  · cases hs

namespace OperationCommitted

variable {inputs : MutationInputs} {commit : OperationCommit} {existing : OperationRecord}
  {destination : ReplicaRecord} {plan : CommitPlan} {operation : OperationRecord}
  {es : List Effect}

theorem retired_eq (c : OperationCommitted inputs commit existing destination plan operation es)
    {s : ReplicaRecord} (hs : s ∈ retiringSource inputs.plane existing commit plan.committed) :
    (inputs.plane.applyAll es).abs.replicas s.replicaId
      = some (retiredReplica inputs s retirement).view := by
  obtain ⟨bookkeeping, rfl, hsilent⟩ := c.effects
  refine abs_replicas ?_
  have hnone : lastPut (((some operation).toList.map Effect.putOperation ++ bookkeeping).filterMap
      Effect.replica?) s.replicaId = none := by
    rw [lastPut_eq_none]
    rintro ⟨k, w⟩ hw
    have hmem := (mem_replicaPuts.mp hw).1
    rcases List.mem_append.mp hmem with hop | hbook
    · simp at hop
    · exact (hsilent _ hbook).elim
  have hput : (List.flatMap (fun s => [.putReplica (retiredReplica inputs s retirement),
      bumpReplicaSetEffect inputs s.key true]) [s]).filterMap Effect.replica?
      = [(s.replicaId, retiredReplica inputs s retirement)] := rfl
  rw [Option.mem_def.mp hs, CommitPlan.extended, Option.toList_some, applyAll_replicas,
    List.filterMap_append, List.filterMap_append, hput, getElem?_insertAll, lastPut_append,
    lastPut_append, hnone, Option.none_or, lastPut_cons, if_pos rfl]
  rfl

/-- An operation commit moves sets on with need unless it retires a source of another generation
that did not count. -/
theorem undisturbed_iff
    (c : OperationCommitted inputs commit existing destination plan operation es)
    (coherent : Coherent inputs.plane) (covered : inputs.plane.abs.Covered) :
    Undisturbed inputs.plane.abs (inputs.plane.applyAll es).abs
      ↔ ∀ s ∈ retiringSource inputs.plane existing commit plan.committed,
        s.key = destination.key ∨ s.view.Counting := by
  obtain ⟨owner, takeover, authority, demoted, ownership, howner, planned⟩ := c.planned
  obtain ⟨bookkeeping, batch⟩ := c.batch coherent planned
  have hground := coherent.replicas c.copied
  have hid := planned.committed_replicaId
  have hkey := planned.committed_key
  have hstate : inputs.plane.states[plan.committed.key]?.isSome := by
    rw [hkey]
    exact hground.2.state
  have htarget : ¬ inputs.plane.abs.SameStanding (inputs.plane.applyAll es).abs
      plan.committed.key := by
    have hrecorded : inputs.plane.replicas[plan.committed.replicaId]? = some destination := by
      rw [hid, hground.1]
      exact c.copied
    refine batch.not_sameStanding_target hrecorded ?_ planned.counting
    rintro ⟨-, -, -, -, hl | hl⟩
    · exact absurd (hl.symm.trans c.prepared) (by decide)
    · exact absurd (hl.symm.trans c.prepared) (by decide)
  -- The standing of another generation is the same when the retired source did not count.
  have hsource : ∀ s ∈ retiringSource inputs.plane existing commit plan.committed,
      s.key ≠ destination.key →
      (inputs.plane.abs.SameStanding (inputs.plane.applyAll es).abs s.key
        ↔ ¬ s.view.Counting) := by
    intro s hs hother
    obtain ⟨-, -, hrecorded, -, hne⟩ := c.retires coherent hs
    have hownership : (inputs.plane.applyAll es).abs.ownership s.key
        = inputs.plane.abs.ownership s.key := by
      rcases inputs.plane.ownership_applyAll_cases es s.key with hsame | ⟨w, ⟨hmem, hwkey⟩, -⟩
      · exact congrArg (Option.map _) hsame
      · have hw := batch.mem_putOwnership.mp hmem
        rcases planned.owner with ⟨-, -, ⟨o, ho, hok, -⟩, -⟩ | ⟨-, -, hnone, -⟩
        · obtain rfl : o = w := some_unique ho hw
          exact absurd (hwkey.symm.trans hok) hother
        · cases hnone.symm.trans hw
    rw [Plane.sameStanding_iff hownership (batch.states_eq s.key)]
    have hbefore := member_iff_of_replica (K := s.key) (abs_replicas hrecorded)
    rw [show s.view.key = s.key from rfl, eq_self, true_and] at hbefore
    have hmembers : ∀ k, k ≠ plan.committed.replicaId →
        ((inputs.plane.applyAll es).abs.Member s.key k
          ↔ s.replicaId ≠ k ∧ inputs.plane.abs.Member s.key k) := by
      intro k hk
      rw [batch.member_iff (fun s hs => c.retired_eq hs) hk]
      simp [Option.mem_def.mp hs]
    constructor
    · intro hsame hcounting
      have hafter := (hsame s.replicaId).mp (hbefore.mpr hcounting)
      exact ((hmembers _ (hid.symm ▸ hne)).mp hafter).1 rfl
    · intro huncounted k
      by_cases hk : k = plan.committed.replicaId
      · subst hk
        rw [member_iff_of_replica batch.target_eq]
        refine iff_of_false ?_ fun hafter => hother (hafter.1.symm.trans hkey)
        rw [hid, hground.1, member_iff_of_replica (abs_replicas c.copied)]
        exact fun hmember => hother hmember.1.symm
      · rw [hmembers k hk]
        refine ⟨fun hmember => ⟨?_, hmember⟩, And.right⟩
        rintro rfl
        exact huncounted (hbefore.mp hmember)
  rw [(batch.impact coherent covered hstate).undisturbed_iff]
  constructor
  · intro hall s hs
    by_cases hother : s.key = destination.key
    · exact .inl hother
    · by_contra huncounted
      push Not at huncounted
      exact hall s.key (.inr ⟨s, hs, rfl⟩) ((hsource s hs hother).mpr huncounted.2)
  · rintro hall K (rfl | ⟨s, hs, rfl⟩)
    · exact htarget
    · by_cases hother : s.key = destination.key
      · rw [hother, ← hkey]
        exact htarget
      · rw [hsource s hs hother, not_not]
        exact (hall s hs).resolve_left hother

end OperationCommitted

/-- A handoff moves the set on with need unless it hands ownership to the copy that has it and
counts already. -/
theorem HandedOver.undisturbed_iff {request : OwnershipTransferRequest}
    {ownership : OwnershipRecord} {newOwner : ReplicaRecord}
    (h : HandedOver inputs request ownership newOwner es) (coherent : Coherent inputs.plane)
    (covered : inputs.plane.abs.Covered) :
    Undisturbed inputs.plane.abs (inputs.plane.applyAll es).abs
      ↔ ownership.ownerReplica ≠ newOwner.replicaId ∨ ¬ newOwner.view.Counting := by
  have hground := coherent.replicas h.recorded
  have hrecorded : inputs.plane.replicas[newOwner.replicaId]? = some newOwner := by
    rw [hground.1]
    exact h.recorded
  have hcounts : (promotedReplica inputs newOwner request.handoffCommit).view.Counting :=
    ⟨rfl, rfl, h.integrity, h.compatibility, .inl rfl⟩
  rw [(h.batch.impact coherent covered hground.2.state).undisturbed_iff]
  constructor
  · intro hall
    by_contra hsame
    push Not at hsame
    obtain ⟨howner, hcounting⟩ := hsame
    refine hall newOwner.key (.inl rfl) ⟨fun k => ?_, fun k => ?_, ?_⟩
    · by_cases hk : k = newOwner.replicaId
      · subst hk
        exact iff_of_true ((member_iff_of_replica (abs_replicas hrecorded)).mpr ⟨rfl, hcounting⟩)
          ((member_iff_of_replica h.batch.target_eq).mpr ⟨rfl, hcounts⟩)
      · rw [h.batch.member_iff (by simp [handoff]) hk]
        simp [handoff]
    · rw [Plane.Owns, Plane.Owns, h.owned, h.owns coherent, howner]
    · rw [Plane.Current, Plane.Current, h.batch.states_eq]
  · rintro hchanged K (rfl | ⟨s, hs, -⟩) hsame
    · rcases hchanged with howner | huncounted
      · have hstill : (inputs.plane.applyAll es).abs.Owns newOwner.key ownership.ownerReplica :=
          (hsame.owner ownership.ownerReplica).mp h.owned
        have heq := (h.owns coherent).symm.trans hstill
        exact howner (OwnershipView.mk.inj (Option.some.inj heq)).1.symm
      · exact h.batch.not_sameStanding_target hrecorded huncounted hcounts hsame
    · cases hs

end StateFabric
