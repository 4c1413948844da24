import StateFabric.Refinement.Batch
import StateFabric.Fabric.Cluster

/-!
# Cluster mutations are protocol steps

A cluster mutation writes the cluster and fences a list of replicas.  What differs between
registration, loss and retirement is which replicas are on the list; the protocol asks that
every live copy of the ended incarnation is.
-/

namespace StateFabric

open Protocol ControlPlane MutationInputs

variable {registration : ClusterRegistration} {update : ClusterEvidenceUpdate}
  {existing : ClusterRecord} {lifecycle : ClusterLifecycle} {health : ClusterHealthState}
  {es : List Effect} {reason : Text}

variable {out : Outcome ClusterRecord} {clusterId : ClusterId} {r : ReplicaRecord} {e : Effect}
  {incarnation : ClusterIncarnationId} {fence : Fence} {rest : List Effect}

variable {inputs : MutationInputs}

theorem mem_fenceEffects :
    e ∈ fenceEffects inputs fence r ↔ e = .putReplica (fencedReplica inputs fence r)
      ∨ ∃ set, inputs.plane.replicaSets[r.key]? = some set
          ∧ e = .putReplicaSet (fencedReplicaSet inputs set) := by
  unfold fenceEffects
  cases inputs.plane.replicaSets[r.key]? <;> simp

theorem fencedReplica_view (inputs : MutationInputs) (fence : Fence) (r : ReplicaRecord) :
    (fencedReplica inputs fence r).view = r.view.fenced fence.availability fence.lifecycle := rfl

/-- A cluster put, the fencing of some live replicas, and bookkeeping. -/
structure FenceBatch (inputs : MutationInputs) (fence : Fence) (fenced : List ReplicaRecord)
    (record : ClusterRecord) (es : List Effect) : Prop where
  effects : ∃ rest, (∀ e ∈ rest, e.Silent)
    ∧ es = .putCluster record :: fenced.flatMap (fenceEffects inputs fence) ++ rest
  recorded : ∀ r ∈ fenced, inputs.plane.replicas[r.replicaId]? = some r ∧ r.isTerminal = false
  stale : fence.lifecycle = .stale ∨ fence.lifecycle = .revalidationRequired

namespace FenceBatch

variable {fence : Fence} {fenced : List ReplicaRecord} {record : ClusterRecord}
  {es : List Effect}

theorem of_effects
    (effects : es = .putCluster record :: fenced.flatMap (fenceEffects inputs fence) ++ rest)
    (silent : ∀ e ∈ rest, e.Silent)
    (recorded : ∀ r ∈ fenced, inputs.plane.replicas[r.replicaId]? = some r
      ∧ r.isTerminal = false)
    (stale : fence.lifecycle = .stale ∨ fence.lifecycle = .revalidationRequired) :
    FenceBatch inputs fence fenced record es :=
  ⟨⟨rest, silent, effects⟩, recorded, stale⟩

theorem of_cluster (inputs : MutationInputs) (effects : es = .putCluster record :: rest)
    (silent : ∀ e ∈ rest, e.Silent) : FenceBatch inputs ⟨.unknown, .stale, []⟩ [] record es :=
  of_effects effects silent (by simp) (.inl rfl)

section

variable (b : FenceBatch inputs fence fenced record es)
include b

theorem mem_cases (h : e ∈ es) :
    e = .putCluster record ∨ (∃ r ∈ fenced, e ∈ fenceEffects inputs fence r) ∨ e.Silent := by
  obtain ⟨rest, hsilent, rfl⟩ := b.effects
  rcases List.mem_append.mp h with h | h
  · rcases List.mem_cons.mp h with h | h
    · exact .inl h
    · exact .inr (.inl (List.mem_flatMap.mp h))
  · exact .inr (.inr (hsilent e h))

theorem kinds (h : e ∈ es) :
    (∃ c, e = .putCluster c) ∨ (∃ r, e = .putReplica r) ∨ (∃ s, e = .putReplicaSet s)
      ∨ e.Silent := by
  rcases b.mem_cases h with h | ⟨r, -, h⟩ | hsilent
  · exact .inl ⟨_, h⟩
  · rcases mem_fenceEffects.mp h with h | ⟨set, -, h⟩
    · exact .inr (.inl ⟨_, h⟩)
    · exact .inr (.inr (.inl ⟨_, h⟩))
  · exact .inr (.inr (.inr hsilent))

theorem mem_of_mem_fenceEffects (hr : r ∈ fenced) (h : e ∈ fenceEffects inputs fence r) :
    e ∈ es := by
  obtain ⟨rest, -, rfl⟩ := b.effects
  exact List.mem_append_left _ (List.mem_cons_of_mem _ (List.mem_flatMap.mpr ⟨r, hr, h⟩))

theorem eq_of_mem_putCluster {c : ClusterRecord} (h : .putCluster c ∈ es) : c = record := by
  rcases b.mem_cases h with h | ⟨r, -, h⟩ | hsilent
  · exact Effect.putCluster.inj h
  · simp [mem_fenceEffects] at h
  · exact hsilent.elim

theorem exists_of_mem_putReplica {w : ReplicaRecord} (h : .putReplica w ∈ es) :
    ∃ r ∈ fenced, w = fencedReplica inputs fence r := by
  rcases b.mem_cases h with h | ⟨r, hr, h⟩ | hsilent
  · cases h
  · exact ⟨r, hr, by simpa [mem_fenceEffects] using h⟩
  · exact hsilent.elim

theorem exists_of_mem_putReplicaSet {s : ReplicaSetRecord} (h : .putReplicaSet s ∈ es) :
    ∃ r ∈ fenced, ∃ set, inputs.plane.replicaSets[r.key]? = some set
      ∧ s = fencedReplicaSet inputs set := by
  rcases b.mem_cases h with h | ⟨r, hr, h⟩ | hsilent
  · cases h
  · exact ⟨r, hr, by simpa [mem_fenceEffects] using h⟩
  · exact hsilent.elim

theorem mem_putCluster : .putCluster record ∈ es := by
  obtain ⟨rest, -, rfl⟩ := b.effects
  exact List.mem_append_left _ List.mem_cons_self

theorem replica_eq (hr : r ∈ fenced) :
    (inputs.plane.applyAll es).abs.replicas r.replicaId =
      some (r.view.fenced fence.availability fence.lifecycle) := by
  have hput : .putReplica (fencedReplica inputs fence r) ∈ es :=
    b.mem_of_mem_fenceEffects hr (mem_fenceEffects.mpr (.inl rfl))
  refine abs_replicas_applyAll hput ?_
  intro w hw hid
  obtain ⟨r', hr', rfl⟩ := b.exists_of_mem_putReplica hw
  have hsame : r'.replicaId = r.replicaId := hid
  have heq := (b.recorded r' hr').1
  rw [hsame, (b.recorded r hr).1] at heq
  rw [Option.some.inj heq]

theorem advances (coherent : Coherent inputs.plane) (hr : r ∈ fenced) :
    inputs.plane.abs.Advances (inputs.plane.applyAll es).abs r.key := by
  have adv : Advancing inputs.plane es := by
    intro s hs set hset
    obtain ⟨r', -, set', hset', rfl⟩ := b.exists_of_mem_putReplicaSet hs
    have hkey : (fencedReplicaSet inputs set').key = r'.key := (coherent.replicaSets hset').1
    rw [hkey, hset'] at hset
    rw [← Option.some.inj hset]
    rfl
  refine adv.advances fun set hset => ⟨fencedReplicaSet inputs set, ?_, ?_⟩
  · exact b.mem_of_mem_fenceEffects hr (mem_fenceEffects.mpr (.inr ⟨set, hset, rfl⟩))
  · exact (coherent.replicaSets hset).1

theorem admissible {c : ClusterId} (coherent : Coherent inputs.plane)
    (cluster : ClusterMove (.cluster c) inputs.plane.abs (inputs.plane.applyAll es).abs
      record.clusterId (inputs.plane.clusters[record.clusterId]?.map (·.view)) record.view) :
    Admissible (.cluster c) inputs.plane es where
  lawful :=
    { states := fun s hs => absurd (b.kinds hs) (by simp [Effect.Silent])
      clusters := fun w hw => by
        obtain rfl := b.eq_of_mem_putCluster hw
        exact cluster
      replicas := fun w hw => by
        obtain ⟨r, hr, rfl⟩ := b.exists_of_mem_putReplica hw
        obtain ⟨hrecorded, hlive⟩ := b.recorded r hr
        change ReplicaMove _ _ _ r.replicaId (inputs.plane.replicas[r.replicaId]?.map _) _
        rw [hrecorded, fencedReplica_view]
        exact .fence r.view fence.availability fence.lifecycle c rfl b.stale
          (ReplicaRecord.not_terminal hlive) (b.advances coherent hr)
      sets := fun s hs => by
        obtain ⟨r, -, set, hset, rfl⟩ := b.exists_of_mem_putReplicaSet hs
        have hkey : (fencedReplicaSet inputs set).key = r.key := (coherent.replicaSets hset).1
        rw [hkey, hset]
        exact .advance _
      operations := fun o ho => absurd (b.kinds ho) (by simp [Effect.Silent])
      ownership := fun o ho => absurd (b.kinds ho) (by simp [Effect.Silent]) }
  grounded :=
    { replicas := fun w hw => by
        obtain ⟨r, hr, rfl⟩ := b.exists_of_mem_putReplica hw
        exact replica_groundedIn_applyAll es
          (coherent.grounded_of_same (b.recorded r hr).1 rfl rfl rfl)
      replicaSets := fun s hs => by
        obtain ⟨r, -, set, hset, rfl⟩ := b.exists_of_mem_putReplicaSet hs
        exact replicaSet_groundedIn_applyAll es
          ⟨(coherent.replicaSets hset).2.state, (coherent.replicaSets hset).2.members⟩
      operations := fun o ho => absurd (b.kinds ho) (by simp [Effect.Silent])
      ownership := fun o ho => absurd (b.kinds ho) (by simp [Effect.Silent]) }

end

end FenceBatch

/-! ## Registration -/

theorem recorded_of_filter (coherent : Coherent inputs.plane) (keep : ReplicaRecord → Bool)
    (live : ∀ r, keep r = true → r.isTerminal = false) :
    ∀ r ∈ inputs.plane.replicaList.filter keep,
      inputs.plane.replicas[r.replicaId]? = some r ∧ r.isTerminal = false := by
  intro r hr
  obtain ⟨hmem, hkeep⟩ := List.mem_filter.mp hr
  exact ⟨coherent.mem_replicaList.mp hmem, live r hkeep⟩

theorem knownClusterIdentity_spec (registration : ClusterRegistration) (existing : ClusterRecord)
    (inputs : MutationInputs) (next : UInt64) :
    (knownClusterIdentity registration existing inputs next).1.clusterId = existing.clusterId
      ∧ (knownClusterIdentity registration existing inputs next).1.incarnation
        = if reincarnates registration existing then ⟨next⟩ else existing.incarnation := by
  unfold knownClusterIdentity
  cases reincarnates registration existing <;> simp

/-- The replicas a registration fences: those of earlier incarnations, when it reincarnates the
cluster. -/
def registrationFences (registration : ClusterRegistration) (inputs : MutationInputs) :
    List ReplicaRecord :=
  match inputs.plane.clusters[registration.clusterId]? with
  | none => []
  | some existing =>
    if reincarnates registration existing then
      let identity := knownClusterIdentity registration existing inputs inputs.plane.nextId
      inputs.plane.outlivedBy (registeredCluster registration inputs
        (reincarnates registration existing) identity.1 identity.2)
    else []

theorem registerCluster_batch (coherent : Coherent inputs.plane)
    (h : registerCluster registration inputs = .ok out) :
    ∃ fence record, FenceBatch inputs fence (registrationFences registration inputs) record
        out.effects
      ∧ record.clusterId = registration.clusterId ∧ record.view.live = true
      ∧ ∀ existing, inputs.plane.clusters[registration.clusterId]? = some existing →
        if reincarnates registration existing then
          record.incarnation = ⟨inputs.plane.nextId⟩
            ∧ registrationFences registration inputs = inputs.plane.outlivedBy record
        else record.incarnation = existing.incarnation := by
  simp only [registerCluster, rejectIf_bind_eq_ok, validateText_bind_eq_ok] at h
  obtain ⟨-, -, -, -, h⟩ := h
  unfold registrationFences
  split at h
  · rename_i hnew
    rw [hnew]
    exact ⟨_, _, .of_cluster inputs (commit_ok h).1 (by simp [Effect.Silent]), rfl, rfl, by simp⟩
  · rename_i existing hexisting
    obtain ⟨hcluster, hincarnation⟩ := knownClusterIdentity_spec registration existing inputs
      inputs.plane.nextId
    set identity := knownClusterIdentity registration existing inputs inputs.plane.nextId
    set record := registeredCluster registration inputs (reincarnates registration existing)
      identity.1 identity.2
    have hlisted : ∀ r ∈ if reincarnates registration existing = true then
        inputs.plane.outlivedBy record else [],
        inputs.plane.replicas[r.replicaId]? = some r ∧ r.isTerminal = false := by
      split
      · exact recorded_of_filter coherent _ fun r hr => by
          simp only [Bool.and_eq_true, Bool.not_eq_true'] at hr
          exact hr.1.2
      · simp
    rw [hexisting]
    refine ⟨_, record, .of_effects (commit_ok h).1 (by simp [Effect.Silent]) hlisted (.inr rfl),
      hcluster.trans (coherent.clusters hexisting), rfl, ?_⟩
    rintro existing' ⟨⟩
    by_cases hre : reincarnates registration existing = true
    · rw [if_pos hre] at hincarnation ⊢
      exact ⟨hincarnation, if_pos hre⟩
    · rw [if_neg hre] at hincarnation ⊢
      exact hincarnation

theorem registerCluster_admissible (coherent : Coherent inputs.plane)
    (h : registerCluster registration inputs = .ok out) :
    Admissible (.cluster registration.clusterId) inputs.plane out.effects := by
  obtain ⟨fence, record, batch, hrid, hlive, hknown⟩ := registerCluster_batch coherent h
  refine batch.admissible coherent ?_
  rw [hrid]
  cases hexisting : inputs.plane.clusters[registration.clusterId]? with
  | none => exact .register _ rfl
  | some existing =>
    have hfences := hknown existing hexisting
    cases hre : reincarnates registration existing with
    | false =>
      simp only [hre, Bool.false_eq_true, if_false] at hfences
      have hview : record.view = { existing.view with live := true } := by
        simp only [ClusterRecord.view, ClusterView.mk.injEq]
        exact ⟨hlive, hfences⟩
      rw [hview]
      exact .refresh existing.view rfl
    | true =>
      simp only [hre, if_true] at hfences
      obtain ⟨-, hfences⟩ := hfences
      have hview : record.view = { live := true, incarnation := record.incarnation } := by
        rw [← hlive]
        rfl
      rw [hview]
      refine .reincarnate existing.view record.incarnation rfl ?_
      intro k v hv hcluster hincarnation hterminal
      obtain ⟨r, hr, rfl⟩ := abs_replicas_eq_some.mp hv
      have hrk := (coherent.replicas hr).1
      rw [← hrk] at hr ⊢
      refine ⟨_, _, batch.stale, batch.replica_eq ?_⟩
      rw [hfences]
      refine List.mem_filter.mpr ⟨coherent.mem_replicaList.mpr hr, ?_⟩
      have hlive := ReplicaRecord.isTerminal_eq_false_iff.mpr hterminal
      have hplace : r.location.clusterId = record.clusterId := hcluster.trans hrid.symm
      have hstale : r.location.clusterIncarnation ≠ record.incarnation := hincarnation
      simp [hlive, hplace, hstale]

theorem publishClusterEvidence_batch (h : publishClusterEvidence update inputs = .ok out) :
    ∃ existing record, inputs.plane.clusters[update.clusterId]? = some existing
      ∧ existing.liveAuthority = true
      ∧ FenceBatch inputs ⟨.unknown, .stale, []⟩ [] record out.effects
      ∧ record.capabilities = (if update.hasCapabilities then update.capabilities.canonicalize
          else existing.capabilities)
      ∧ record.capacity = (if update.hasCapacity then update.capacity else existing.capacity)
      ∧ record.clusterId = existing.clusterId ∧ record.view = existing.view := by
  simp only [publishClusterEvidence, rejectIf_bind_eq_ok, found_bind_eq_ok] at h
  obtain ⟨existing, hexisting, -, hlive, -, h⟩ := h
  have hauthority : existing.liveAuthority = true := by
    simp only [Bool.or_eq_false_iff, Bool.not_eq_false'] at hlive
    exact hlive.1
  have batch := FenceBatch.of_cluster inputs (commit_ok h).1 (by simp [Effect.Silent])
  exact ⟨existing, _, hexisting, hauthority, batch, rfl, rfl, rfl, rfl⟩

variable (coherent : Coherent inputs.plane)
include coherent

theorem publishClusterEvidence_admissible
    (h : publishClusterEvidence update inputs = .ok out) :
    Admissible (.cluster update.clusterId) inputs.plane out.effects := by
  obtain ⟨existing, record, hexisting, hauthority, batch, -, -, hrid, hview⟩ :=
    publishClusterEvidence_batch h
  refine batch.admissible coherent ?_
  have hlive : record.view = { existing.view with live := true } := by
    rw [hview]
    simp [ClusterRecord.view, hauthority]
  rw [hrid, coherent.clusters hexisting, hexisting, hlive]
  exact .refresh existing.view rfl

/-! ## Loss and retirement -/

/-- A lost cluster with everything hosted under its incarnation fenced. -/
theorem lostCluster_batch (stale : fence.lifecycle = .stale)
    (effects : es = .putCluster (lostCluster inputs existing lifecycle health)
      :: (inputs.plane.hostedUnder clusterId existing.incarnation).flatMap
        (fenceEffects inputs fence) ++ rest) (silent : ∀ e ∈ rest, e.Silent) :
    FenceBatch inputs fence (inputs.plane.hostedUnder clusterId existing.incarnation)
      (lostCluster inputs existing lifecycle health) es :=
  .of_effects effects silent (recorded_of_filter coherent _ fun r hr => by
    simpa using (Bool.and_eq_true_iff.mp hr).2) (.inl stale)

theorem FenceBatch.admissible_lost
    (batch : FenceBatch inputs fence (inputs.plane.hostedUnder clusterId existing.incarnation)
      (lostCluster inputs existing lifecycle health) es)
    (hexisting : inputs.plane.clusters[clusterId]? = some existing) :
    Admissible (.cluster clusterId) inputs.plane es := by
  refine batch.admissible coherent ?_
  change ClusterMove _ _ _ existing.clusterId (inputs.plane.clusters[existing.clusterId]?.map _)
    { existing.view with live := false }
  rw [coherent.clusters hexisting, hexisting]
  refine .lose existing.view rfl ?_
  intro k v hv hcluster hincarnation hlive
  obtain ⟨r, hr, rfl⟩ := abs_replicas_eq_some.mp hv
  have hrk := (coherent.replicas hr).1
  rw [← hrk] at hr ⊢
  refine ⟨_, _, batch.stale, batch.replica_eq ?_⟩
  refine List.mem_filter.mpr ⟨coherent.mem_replicaList.mpr hr, ?_⟩
  have hterminal := ReplicaRecord.isTerminal_eq_false_iff.mpr hlive
  have hplace : r.location.clusterId = clusterId := hcluster
  have hstale : r.location.clusterIncarnation = existing.incarnation := hincarnation
  simp [hterminal, hplace, hstale]

theorem markClusterUnreachable_batch
    (h : markClusterUnreachable clusterId incarnation reason inputs = .ok out) :
    out.effects = [] ∨ ∃ existing fence lifecycle health,
      inputs.plane.clusters[clusterId]? = some existing ∧ incarnation = existing.incarnation
        ∧ FenceBatch inputs fence (inputs.plane.hostedUnder clusterId existing.incarnation)
          (lostCluster inputs existing lifecycle health) out.effects := by
  simp only [markClusterUnreachable, rejectIf_bind_eq_ok, found_bind_eq_ok] at h
  obtain ⟨existing, hexisting, hincarnation, h⟩ := h
  obtain rfl : incarnation = existing.incarnation := by simpa using hincarnation
  split at h
  · exact .inl (commit_ok h).1
  · rw [validateText_bind_eq_ok] at h
    exact .inr ⟨existing, _, _, _, hexisting, rfl,
      lostCluster_batch coherent rfl (commit_ok h.2).1 (by simp [Effect.Silent])⟩

theorem markClusterUnreachable_admissible
    (h : markClusterUnreachable clusterId incarnation reason inputs = .ok out) :
    Admissible (.cluster clusterId) inputs.plane out.effects := by
  rcases markClusterUnreachable_batch coherent h with
    hnil | ⟨existing, fence, lifecycle, health, hexisting, -, batch⟩
  · rw [hnil]
    exact admissible_of_silent (by simp)
  · exact batch.admissible_lost coherent hexisting

theorem retireCluster_batch
    (h : retireCluster clusterId incarnation inputs = .ok out) :
    ∃ existing fence lifecycle health,
      inputs.plane.clusters[clusterId]? = some existing ∧ incarnation = existing.incarnation
        ∧ FenceBatch inputs fence (inputs.plane.hostedUnder clusterId existing.incarnation)
          (lostCluster inputs existing lifecycle health) out.effects := by
  simp only [retireCluster, rejectIf_bind_eq_ok, found_bind_eq_ok] at h
  obtain ⟨existing, hexisting, hincarnation, h⟩ := h
  obtain rfl : incarnation = existing.incarnation := by simpa using hincarnation
  exact ⟨existing, _, _, _, hexisting, rfl,
    lostCluster_batch coherent rfl (commit_ok h).1 (by simp [Effect.Silent])⟩

theorem retireCluster_admissible
    (h : retireCluster clusterId incarnation inputs = .ok out) :
    Admissible (.cluster clusterId) inputs.plane out.effects := by
  obtain ⟨existing, fence, lifecycle, health, hexisting, -, batch⟩ :=
    retireCluster_batch coherent h
  exact batch.admissible_lost coherent hexisting

end StateFabric
