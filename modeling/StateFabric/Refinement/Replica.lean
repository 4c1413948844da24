import StateFabric.Refinement.Batch
import StateFabric.Fabric.Replica

/-!
# Replica mutations are protocol steps

For each mutation about one replica: what an acknowledged or recorded outcome writes is
admissible for the action the mutation stands for.
-/

namespace StateFabric

open Protocol ControlPlane MutationInputs

variable {transition : ReplicaTransition} {p : ControlPlane} {r : ReplicaRecord} {code : ErrorCode}
  {message : Text}

variable {inputs : MutationInputs} {out : Outcome ReplicaRecord}

/-! ## The guard of a report -/

/-- A recorded live replica on a live incarnation of its cluster. -/
structure Reported (p : ControlPlane) (k : ReplicaId) (r : ReplicaRecord) : Prop where
  id : r.replicaId = k
  recorded : p.replicas[r.replicaId]? = some r
  hosted : p.abs.Hosts r.view
  live : r.isTerminal = false

theorem hosts_of_live {cluster : ClusterRecord}
    (hcluster : p.clusters[r.location.clusterId]? = some cluster)
    (live : cluster.liveAuthority = true)
    (incarnation : cluster.incarnation = r.location.clusterIncarnation) : p.abs.Hosts r.view :=
  ⟨cluster.view, abs_clusters hcluster, live, incarnation⟩

theorem guardReplica_ok (coherent : Coherent p) {k : ReplicaId} {generation : ReplicaGeneration}
    {incarnation : ClusterIncarnationId} {boot : WorkerBootId} {epoch : CoordinatorEpoch}
    (h : guardReplica p k generation incarnation boot epoch = .ok r) : Reported p k r := by
  simp only [guardReplica, rejectIf_bind_eq_ok, found_bind_eq_ok, pure_eq_ok] at h
  obtain ⟨r', hr, -, -, -, cluster, hcluster, hlive, -, hterminal, rfl⟩ := h
  have hid := (coherent.replicas hr).1
  simp only [Bool.or_eq_false_iff, Bool.not_eq_false', bne_eq_false_iff_eq] at hlive
  exact ⟨hid, hid ▸ hr, hosts_of_live hcluster hlive.1 hlive.2, hterminal⟩

namespace Reported

variable {p : ControlPlane} {k : ReplicaId} {r : ReplicaRecord}

theorem view (h : Reported p k r) :
    p.replicas[r.replicaId]?.map (·.view) = some r.view := by rw [h.recorded]; rfl

theorem state (h : Reported p k r) (coherent : Coherent p) : p.states[r.key]?.isSome :=
  (coherent.replicas h.recorded).2.state

theorem cluster (h : Reported p k r) (coherent : Coherent p) :
    p.clusters[r.location.clusterId]?.isSome :=
  (coherent.replicas h.recorded).2.cluster

theorem not_terminal (h : Reported p k r) : ¬ r.view.Terminal :=
  ReplicaRecord.not_terminal h.live

end Reported

/-! ## Retirement and quarantine -/

theorem isActiveOwner_iff : p.isActiveOwner r = true ↔ p.abs.Owns r.key r.replicaId := by
  simp only [isActiveOwner, Plane.Owns, ControlPlane.abs]
  cases p.ownership[r.key]? <;> simp [OwnershipRecord.view, and_comm]

variable (coherent : Coherent inputs.plane)
include coherent

theorem retireReplica_batch
    (h : retireReplica transition inputs = .ok out) :
    ∃ r, Reported inputs.plane transition.replicaId r ∧ inputs.plane.isActiveOwner r = false
      ∧ ReplicaBatch inputs (retiredReplica inputs r transition.reason) true [] out.effects := by
  simp only [retireReplica, ↓rejectIf_bind_eq_ok, bind_eq_ok] at h
  obtain ⟨r, hguard, howner, h⟩ := h
  exact ⟨r, guardReplica_ok coherent hguard, howner,
    .of_effects _ true [] (commit_ok h).1 (by simp [Effect.Silent])⟩

theorem retireReplica_admissible
    (h : retireReplica transition inputs = .ok out) :
    Admissible (.retire transition.replicaId) inputs.plane out.effects := by
  obtain ⟨r, hr, howner, batch⟩ := retireReplica_batch coherent h
  refine batch.admissible coherent (hr.state coherent) (hr.cluster coherent) ?_ (by simp)
  have hnot : ¬ (inputs.plane.applyAll out.effects).abs.Owns r.key r.replicaId := by
    unfold Plane.Owns
    rw [batch.ownership_eq]
    exact fun hown => by simp [isActiveOwner_iff.mpr hown] at howner
  rw [← hr.id]
  exact hr.view ▸ .retire r.view (.inl ⟨rfl, hnot⟩) hr.not_terminal (batch.advances coherent)

theorem quarantineReplica_batch
    (h : quarantineReplica transition inputs = .ok out) :
    ∃ r revised, Reported inputs.plane transition.replicaId r
      ∧ ReplicaBatch inputs revised true [] out.effects
      ∧ revised.replicaId = r.replicaId ∧ revised.location = r.location
      ∧ revised.view =
        { r.view with lifecycle := .quarantined, authority := .fenced, counts := false } := by
  simp only [quarantineReplica, bind_eq_ok] at h
  obtain ⟨r, hguard, h⟩ := h
  have batch := ReplicaBatch.of_effects _ true [] (commit_ok h).1 (by simp [Effect.Silent])
  exact ⟨r, _, guardReplica_ok coherent hguard, batch, rfl, rfl, rfl⟩

theorem quarantineReplica_admissible
    (h : quarantineReplica transition inputs = .ok out) :
    Admissible (.quarantine transition.replicaId) inputs.plane out.effects := by
  obtain ⟨r, revised, hr, batch, hid, hlocation, hview⟩ := quarantineReplica_batch coherent h
  have hkey : revised.key = r.key := congrArg ReplicaView.key hview
  have hadvances := batch.advances coherent
  refine batch.admissible coherent (hkey ▸ hr.state coherent) (hlocation ▸ hr.cluster coherent) ?_
    (by simp)
  rw [hkey] at hadvances
  rw [hid, hview, ← hr.id]
  exact hr.view ▸ .quarantine r.view rfl hr.not_terminal hadvances

omit coherent

/-! ## Revalidation -/

@[simp] theorem reboundReplica_replicaId (r : ReplicaRecord) (cluster : ClusterRecord) :
    (reboundReplica r cluster).replicaId = r.replicaId := by
  unfold reboundReplica
  split <;> rfl

theorem reboundReplica_view (r : ReplicaRecord) (cluster : ClusterRecord) :
    (reboundReplica r cluster).view = { r.view with incarnation := cluster.incarnation } := by
  unfold reboundReplica
  split
  · rfl
  · rename_i hsame
    simp only [rebinds, Bool.or_eq_true, bne_iff_ne, not_or, not_not] at hsame
    rw [← hsame.1]
    rfl

theorem revalidatedReplica_view (inputs : MutationInputs) (r : ReplicaRecord)
    (cluster : ClusterRecord) :
    (revalidatedReplica inputs r cluster).view =
      { r.view with
        incarnation := cluster.incarnation, revalidation := false, availability := .present
        lifecycle := if r.view.committed = true then .authoritative else .prepared
        authority := (revalidatedReplica inputs r cluster).authority
        counts := r.view.committed } := by
  have hview := reboundReplica_view r cluster
  have hcommitted : (reboundReplica r cluster).commitRecorded = r.commitRecorded :=
    congrArg ReplicaView.committed hview
  calc (revalidatedReplica inputs r cluster).view
      = { (reboundReplica r cluster).view with
          revalidation := false, availability := .present
          lifecycle := if (reboundReplica r cluster).commitRecorded = true then .authoritative
            else .prepared
          authority := (revalidatedReplica inputs r cluster).authority
          counts := (reboundReplica r cluster).commitRecorded } := rfl
    _ = _ := by rw [hview, hcommitted]; rfl

theorem revalidatedReplica_owner {inputs : MutationInputs} {cluster : ClusterRecord}
    (h : (revalidatedReplica inputs r cluster).authority = .authoritativeOwner) :
    inputs.plane.abs.Owns r.key r.replicaId := by
  simp only [revalidatedReplica] at h
  split at h
  · simp at h
  · split at h
    · rename_i howner
      have howns := isActiveOwner_iff.mp howner
      rwa [reboundReplica_replicaId,
        show (reboundReplica r cluster).key = r.key from
          congrArg ReplicaView.key (reboundReplica_view r cluster)] at howns
    · simp at h

theorem revalidatedReplica_armed (inputs : MutationInputs) (r : ReplicaRecord)
    (cluster : ClusterRecord) :
    (revalidatedReplica inputs r cluster).authority = .authoritativeOwner
      ∨ (revalidatedReplica inputs r cluster).authority = .authoritativeForReuse
      ∨ (revalidatedReplica inputs r cluster).authority = .candidate := by
  simp only [revalidatedReplica]
  split
  · exact .inr (.inr rfl)
  · split
    · exact .inl rfl
    · exact .inr (.inl rfl)

@[simp] theorem revalidatedReplica_replicaId (inputs : MutationInputs) (r : ReplicaRecord)
    (cluster : ClusterRecord) : (revalidatedReplica inputs r cluster).replicaId = r.replicaId :=
  reboundReplica_replicaId r cluster

@[simp] theorem revalidatedReplica_key (inputs : MutationInputs) (r : ReplicaRecord)
    (cluster : ClusterRecord) : (revalidatedReplica inputs r cluster).key = r.key :=
  congrArg ReplicaView.key (revalidatedReplica_view inputs r cluster)

theorem revalidateReplica_batch (coherent : Coherent inputs.plane)
    (h : revalidateReplica transition inputs = .ok out) :
    ∃ r cluster, inputs.plane.replicas[transition.replicaId]? = some r
      ∧ r.replicaId = transition.replicaId ∧ r.isTerminal = false ∧ r.integrity = .verified
      ∧ inputs.plane.clusters[r.location.clusterId]? = some cluster ∧ cluster.liveAuthority = true
      ∧ ReplicaBatch inputs (revalidatedReplica inputs r cluster) true [] out.effects := by
  simp only [revalidateReplica, ↓rejectIf_bind_eq_ok, ↓found_bind_eq_ok] at h
  obtain ⟨r, hr, -, -, hlive, cluster, hcluster, hauthority, -, -, hintegrity, -, state, hstate,
    -, h⟩ := h
  have hverified : r.integrity = .verified := by
    have hsame : (reboundReplica r cluster).integrity = r.integrity :=
      congrArg ReplicaView.integrity (reboundReplica_view r cluster)
    simpa [hsame] using hintegrity
  exact ⟨r, cluster, hr, (coherent.replicas hr).1, hlive, hverified, hcluster,
    by simpa using hauthority, .of_effects _ true [] (commit_ok h).1 (by simp [Effect.Silent])⟩

theorem revalidateReplica_admissible (coherent : Coherent inputs.plane)
    (h : revalidateReplica transition inputs = .ok out) :
    Admissible (.revalidate transition.replicaId) inputs.plane out.effects := by
  obtain ⟨r, cluster, hr, hid, hlive, hintegrity, hcluster, hauthority, batch⟩ :=
    revalidateReplica_batch coherent h
  have hground := (coherent.replicas hr).2
  refine batch.admissible coherent ?_ ?_ ?_ (by simp)
  · rw [revalidatedReplica_key]
    exact hground.state
  · have hsame : (revalidatedReplica inputs r cluster).location.clusterId = r.location.clusterId :=
      congrArg ReplicaView.cluster (revalidatedReplica_view inputs r cluster)
    exact hsame ▸ hground.cluster
  · rw [revalidatedReplica_replicaId, hid, hr, revalidatedReplica_view]
    refine .revalidate r.view cluster.incarnation _ rfl (ReplicaRecord.not_terminal hlive)
      hintegrity (batch.hosts ⟨cluster.view, abs_clusters hcluster, hauthority, rfl⟩) ?_ ?_
      (revalidatedReplica_armed inputs r cluster)
    · have hadvances := batch.advances coherent
      rwa [revalidatedReplica_key] at hadvances
    · intro howner
      unfold Plane.Owns
      rw [batch.ownership_eq, ← hid]
      exact revalidatedReplica_owner howner

/-! ## Registration -/

theorem registerReplica_batch {registration : ReplicaRegistration}
    (h : registerReplica registration inputs = .ok out) :
    out.effects = [] ∨ ∃ r, inputs.plane.replicas[r.replicaId]? = none
      ∧ r.replicaId = (orMint registration.replicaId inputs.plane.nextId).1
      ∧ inputs.plane.states[r.key]?.isSome ∧ inputs.plane.clusters[r.location.clusterId]?.isSome
      ∧ Fresh r.view ∧ ReplicaBatch inputs r false [] out.effects
      ∧ r.key = ⟨registration.stateId, registration.stateGeneration⟩
      ∧ r.replicaSetId = registration.replicaSetId.orElse
        ((inputs.plane.replicaSets[r.key]?.map (·.replicaSetId)).getD {}) := by
  simp only [registerReplica, ↓rejectIf_bind_eq_ok, ↓found_bind_eq_ok] at h
  obtain ⟨state, hstate, -, hstaging, -, cluster, hcluster, -, -, h⟩ := h
  split at h
  · simp only [↓rejectIf_bind_eq_ok] at h
    exact .inl (commit_ok h.2).1
  · simp only [↓rejectIf_bind_eq_ok] at h
    obtain ⟨hfresh, h⟩ := h
    have hnone : inputs.plane.replicas[(orMint registration.replicaId
        inputs.plane.nextId).1]? = none :=
      Option.not_isSome_iff_eq_none.mp (Bool.eq_false_iff.mp hfresh)
    have hstage : registration.lifecycle.isStagingPhase = true := by simpa using hstaging
    exact .inr ⟨registeredReplica registration inputs state cluster _ _, hnone, rfl,
      Option.isSome_of_eq_some hstate, Option.isSome_of_eq_some hcluster, ⟨hstage, rfl, rfl, rfl⟩,
      .of_effects _ false [] (commit_ok h).1 (by simp [Effect.Silent]), rfl, rfl⟩

include coherent

theorem registerReplica_admissible {registration : ReplicaRegistration}
    (h : registerReplica registration inputs = .ok out) :
    Admissible (.registerReplica (orMint registration.replicaId inputs.plane.nextId).1)
      inputs.plane out.effects := by
  rcases registerReplica_batch h with hnil | ⟨r, hnone, hid, hstate, hcluster, hfresh, batch, -⟩
  · rw [hnil]
    exact admissible_of_silent (by simp)
  · refine batch.admissible coherent hstate hcluster ?_ (by simp)
    rw [hnone, ← hid]
    exact .register _ rfl hfresh

/-! ## Transfer reports -/

theorem failOperation_spec (operationId : OperationId)
    (reason : Text) :
    ∃ ops : List OperationRecord, failOperation inputs operationId reason = ops.map .putOperation
      ∧ ops.length ≤ 1 ∧ (∀ o ∈ ops, Advanced inputs.plane operationId .failed o)
      ∧ (ops = [] → ∀ o, inputs.plane.operations[operationId]? = some o → o.isTerminal = true) := by
  unfold failOperation
  cases hop : inputs.plane.operations[operationId]? with
  | none => exact ⟨[], rfl, by simp, by simp, by simp⟩
  | some old =>
    have hid := (coherent.operations hop).1
    cases hlive : old.isTerminal with
    | true => exact ⟨[], by simp [hlive], by simp, by simp, by simpa using hlive⟩
    | false =>
      refine ⟨[_], by simp only [hlive]; rfl, le_rfl, ?_, by simp⟩
      intro o ho
      obtain rfl := List.mem_singleton.mp ho
      refine ⟨?_, old, hop, hlive, ?_⟩
      · rw [OperationRecord.note_operationId]
        exact hid
      · rw [OperationRecord.note_view]
        rfl

theorem recordTransferProgress_admissible {progress : TransferProgress}
    (h : recordTransferProgress progress inputs = .ok out) :
    Admissible (.report progress.replicaId progress.operationId
      (if progress.failed then .failed else .transferring)) inputs.plane out.effects := by
  simp only [recordTransferProgress, ↓rejectIf_bind_eq_ok, bind_eq_ok] at h
  obtain ⟨r, hguard, -, -, -, hstaging, h⟩ := h
  have hr := guardReplica_ok coherent hguard
  have hstage : r.view.lifecycle.isStagingPhase = true := by
    simpa [ReplicaRecord.view] using hstaging
  split at h
  · rename_i hfailed
    rw [if_pos hfailed]
    obtain ⟨ops, heq, -, hops, hterminal⟩ := failOperation_spec coherent progress.operationId
      progress.failureReason
    rw [heq] at h
    have batch := ReplicaBatch.of_effects _ false ops (commitBeforeReturn_ok h).1
      (by simp [Effect.Silent])
    refine batch.admissible coherent (hr.state coherent) (hr.cluster coherent) ?_
      (advanced_operations coherent hops (.inl ⟨_, rfl⟩) (by decide))
    have hsettled : ∀ op, (inputs.plane.applyAll out.effects).abs.operations
        progress.operationId = some op → op.Terminal :=
      fun op => batch.terminal_of_advanced hops (fun _ => .inr (.inl rfl)) hterminal
    rw [← hr.id]
    exact hr.view ▸ .abandon r.view r.view.revalidation (.inl ⟨_, rfl, hstage, hsettled⟩)
  · rename_i hfailed
    rw [if_neg hfailed]
    obtain ⟨ops, heq, -, hops⟩ := advanceOperation_spec coherent progress.operationId
      progress.operationGeneration .transferring (text "transfer in progress")
    rw [heq] at h
    have batch := ReplicaBatch.of_effects _ false ops (commit_ok h).1
      (by simp [Effect.Silent])
    refine batch.admissible coherent (hr.state coherent) (hr.cluster coherent) ?_
      (advanced_operations coherent hops (.inl ⟨_, rfl⟩) (by decide))
    rw [← hr.id]
    exact hr.view ▸ .progress r.view _ rfl hstage

theorem recordTransferCompletion_admissible {completion : TransferCompletion}
    (h : recordTransferCompletion completion inputs = .ok out) :
    Admissible (.report completion.replicaId completion.operationId .transferred) inputs.plane
      out.effects := by
  simp only [recordTransferCompletion, ↓rejectIf_bind_eq_ok, bind_eq_ok] at h
  obtain ⟨r, hguard, -, -, -, haccepts, h⟩ := h
  have hr := guardReplica_ok coherent hguard
  have haccepted : r.view.lifecycle.acceptsCompletion = true := by
    simpa [ReplicaRecord.view] using haccepts
  rw [← hr.id]
  split at h
  · have batch := ReplicaBatch.of_effects _ false [] (commitBeforeReturn_ok h).1
      (by simp [Effect.Silent])
    refine batch.admissible coherent (hr.state coherent) (hr.cluster coherent) ?_ (by simp)
    exact hr.view ▸ .receive r.view _ _ rfl haccepted (by simp [ReplicaRecord.view]) (.inl rfl)
      (by simp [ReplicaRecord.view]) (.inl ⟨rfl, rfl⟩) rfl
  · split at h
    · have batch := ReplicaBatch.of_effects _ false [] (commitBeforeReturn_ok h).1
        (by simp [Effect.Silent])
      refine batch.admissible coherent (hr.state coherent) (hr.cluster coherent) ?_ (by simp)
      exact hr.view ▸ .receive r.view _ _ rfl haccepted (by simp [ReplicaRecord.view]) (.inr rfl)
        (fun _ => rfl) (.inr ⟨rfl, rfl⟩) rfl
    · obtain ⟨ops, heq, -, hops⟩ := advanceOperation_spec coherent completion.operationId
        completion.operationGeneration .transferred (text "transfer complete at the destination")
      rw [heq] at h
      have batch := ReplicaBatch.of_effects _ false ops (commit_ok h).1
        (by simp [Effect.Silent])
      refine batch.admissible coherent (hr.state coherent) (hr.cluster coherent) ?_
        (advanced_operations coherent hops (.inl ⟨_, rfl⟩) (by decide))
      exact hr.view ▸ .receive r.view _ _ rfl haccepted (by simp [ReplicaRecord.view]) (.inl rfl)
        (by simp [ReplicaRecord.view]) (.inl ⟨rfl, rfl⟩) rfl

omit coherent

/-! ## Verification -/

namespace Verification

/-- The compatibility a verification finds, from the evidence `judgeCompatibility` takes. -/
def finding (v : Verification) (inputs : MutationInputs) (requirement : CompatibilityRequirement)
    (replica : ReplicaRecord) : CompatibilityResult :=
  if !v.report.compatibilityDescriptor.attributes.isEmpty then
    evaluateCompatibility requirement (some v.report.compatibilityDescriptor)
      (v.report.compatibilityGeneration.orElse requirement.generation) false
  else if !replica.compatibilityDescriptor.attributes.isEmpty then
    evaluateCompatibility requirement (some replica.compatibilityDescriptor)
      replica.compatibilityGeneration false
  else
    match inputs.plane.clusters[replica.location.clusterId]? with
    | some cluster =>
      if requirement.required.attributes.isEmpty then .compatible
      else evaluateCompatibility requirement (some (clusterCompatibilityDescriptor cluster))
        requirement.generation false
    | none => evaluateCompatibility requirement none {} false

/-- A compatible destination with the identity and the health generation it is recorded under. -/
def preparedAs (v : Verification) (descriptor : CompatibilityDescriptor)
    (generation : CompatibilityGeneration) (identity : CompatibilityId)
    (health : HealthGeneration) (next : UInt64) : Verification :=
  let w := v.compatible descriptor generation
  { w with
    revised :=
      { w.revised with
        compatibilityId := identity
        evidence := { w.revised.evidence with healthGeneration := health } }
    next := next }

/-- How a verification whose digests agree ends, by the compatibility it finds. -/
inductive Judged (v : Verification) (inputs : MutationInputs) :
    CompatibilityResult → Result (Outcome ReplicaRecord) → Prop
  | compatible (descriptor generation identity health next) : Judged v inputs .compatible
      ((v.preparedAs descriptor generation identity health next).prepare inputs)
  | incompatible (reason message : Text) : Judged v inputs .incompatible
      ((v.incompatible reason).persistAndFail inputs .incompatible message)
  | undecided {result : CompatibilityResult} (undecided : result ≠ .compatible)
      {compatibility : ReplicaCompatibilityState} (unknown : compatibility ≠ .compatible)
      (reason : Text) (code : ErrorCode) (message : Text) : Judged v inputs result
      ((v.undecided compatibility reason).persistAndFail inputs code message)

theorem againstDescriptor_judged (v : Verification) (requirement : CompatibilityRequirement)
    (descriptor : Option CompatibilityDescriptor) (generation : CompatibilityGeneration) :
    v.Judged inputs (evaluateCompatibility requirement descriptor generation false)
      (v.againstDescriptor inputs requirement descriptor generation) := by
  simp only [againstDescriptor]
  cases evaluateCompatibility requirement descriptor generation false with
  | compatible => exact .compatible _ _ v.revised.compatibilityId ⟨v.next⟩ _
  | incompatible => exact .incompatible ..
  | unknown | revalidationRequired => exact .undecided (by simp) (by simp) ..

theorem judgeCompatibility_judged (v : Verification) (requirement : CompatibilityRequirement)
    (replica : ReplicaRecord) :
    v.Judged inputs (v.finding inputs requirement replica)
      (v.judgeCompatibility inputs requirement replica) := by
  unfold finding judgeCompatibility
  split
  · exact v.againstDescriptor_judged ..
  split
  · exact v.againstDescriptor_judged ..
  cases inputs.plane.clusters[replica.location.clusterId]? with
  | none => exact v.againstDescriptor_judged ..
  | some cluster =>
    simp only [againstCluster]
    generalize (if requirement.required.attributes.isEmpty then CompatibilityResult.compatible
      else evaluateCompatibility requirement (some (clusterCompatibilityDescriptor cluster))
        requirement.generation false) = result
    cases result with
    | compatible => exact .compatible _ _ _ v.revised.evidence.healthGeneration v.next
    | incompatible => exact .incompatible ..
    | unknown | revalidationRequired => exact .undecided (by simp) (by simp) ..

end Verification

section Verify

variable {r : ReplicaRecord} {k : ReplicaId} {v : Verification}

theorem persistAndFail_admissible {o : OperationId}
    (h : v.persistAndFail inputs code message = .ok out) (named : v.report.operationId = o)
    (coherent : Coherent inputs.plane) (hr : Reported inputs.plane k r)
    (id : v.revised.replicaId = r.replicaId) (accepted : r.lifecycle.acceptsVerification = true)
    (lifecycle : v.revised.lifecycle = .corrupt ∨ v.revised.lifecycle = .transferred
      ∨ v.revised.lifecycle = .quarantined ∨ v.revised.lifecycle = .revalidationRequired)
    (failed : v.revised.integrity ≠ .verified ∨ v.revised.compatibility ≠ .compatible)
    (measured : v.revised.integrity = .verified →
      inputs.plane.abs.Matches r.key v.revised.measuredDigest)
    (corrupt : v.revised.integrity = .mismatch → v.revised.lifecycle = .corrupt)
    (authority : (v.revised.authority = r.authority
        ∧ v.revised.countsTowardFactor = r.countsTowardFactor
        ∧ v.revised.lifecycle ≠ .quarantined)
      ∨ (v.revised.authority = .fenced ∧ v.revised.countsTowardFactor = false))
    (frame : v.revised.view = { r.view with
      measured := v.revised.measuredDigest, integrity := v.revised.integrity
      compatibility := v.revised.compatibility, lifecycle := v.revised.lifecycle
      authority := v.revised.authority, counts := v.revised.countsTowardFactor }) :
    Admissible (.verify k o out.status.isOk) inputs.plane out.effects := by
  subst named
  obtain ⟨heffects, hstatus⟩ := commitBeforeReturn_ok h
  obtain ⟨ops, heq, -, hops⟩ := advanceOperation_spec coherent v.report.operationId
    v.report.operationGeneration .failed message
  rw [heq] at heffects
  have hkey : v.revised.key = r.key := congrArg ReplicaView.key frame
  have hcluster : v.revised.location.clusterId = r.location.clusterId :=
    congrArg ReplicaView.cluster frame
  rw [hstatus]
  have batch := ReplicaBatch.of_effects v.revised false ops heffects
    (by simp [Effect.Silent])
  refine batch.admissible coherent (hkey ▸ hr.state coherent) (hcluster ▸ hr.cluster coherent) ?_
    (advanced_operations coherent hops (.inr (.inr (.inl ⟨_, rfl, rfl⟩))) (by decide))
  rw [id, hr.view, ← hr.id]
  exact .refuse r.view v.revised.view _ rfl accepted lifecycle failed corrupt measured authority
    frame

theorem prepare_admissible {o : OperationId} (h : v.prepare inputs = .ok out)
    (named : v.report.operationId = o) (coherent : Coherent inputs.plane)
    (hr : Reported inputs.plane k r)
    (id : v.revised.replicaId = r.replicaId) (accepted : r.lifecycle.acceptsVerification = true)
    {measured : Digest} (agrees : inputs.plane.abs.Matches r.key measured)
    (frame : v.revised.view = { r.view with
      measured := measured, integrity := .verified, compatibility := .compatible
      lifecycle := .prepared, availability := .present, revalidation := false }) :
    Admissible (.verify k o out.status.isOk) inputs.plane out.effects := by
  subst named
  obtain ⟨heffects, hstatus⟩ := commit_ok h
  obtain ⟨ops, heq, -, hops⟩ := advanceOperation_spec coherent v.report.operationId
    v.report.operationGeneration .prepared (text "destination prepared under explicit authority")
  rw [heq] at heffects
  have hkey : v.revised.key = r.key := congrArg ReplicaView.key frame
  have hcluster : v.revised.location.clusterId = r.location.clusterId :=
    congrArg ReplicaView.cluster frame
  rw [hstatus]
  have batch := ReplicaBatch.of_effects v.revised false ops heffects
    (by simp [Effect.Silent])
  refine batch.admissible coherent (hkey ▸ hr.state coherent) (hcluster ▸ hr.cluster coherent) ?_
    (advanced_operations coherent hops (.inr (.inl ⟨_, rfl, rfl⟩)) (by decide))
  rw [id, hr.view, ← hr.id, frame]
  exact .verify r.view measured _ rfl accepted agrees

/-- A verification whose digest comparison succeeded, before compatibility is judged. -/
structure Verification.Certifies (v : Verification) (p : ControlPlane) (r : ReplicaRecord) :
    Prop where
  id : v.revised.replicaId = r.replicaId
  accepted : r.lifecycle.acceptsVerification = true
  agrees : p.abs.Matches r.key v.revised.measuredDigest
  frame : v.revised.view =
    { r.view with measured := v.revised.measuredDigest, integrity := .verified }

namespace Verification.Certifies

theorem incompatible_admissible (c : v.Certifies inputs.plane r) (coherent : Coherent inputs.plane)
    (hr : Reported inputs.plane k r) {reason : Text}
    (h : (v.incompatible reason).persistAndFail inputs code message = .ok out) :
    Admissible (.verify k v.report.operationId out.status.isOk) inputs.plane out.effects := by
  refine persistAndFail_admissible h rfl coherent hr c.id c.accepted (.inr (.inr (.inl rfl)))
    (.inr (by simp [Verification.incompatible])) (fun _ => c.agrees) ?_ (.inr ⟨rfl, rfl⟩) ?_
  all_goals
    have hintegrity : v.revised.integrity = .verified := congrArg ReplicaView.integrity c.frame
  · simp [Verification.incompatible, hintegrity]
  calc (v.incompatible reason).revised.view
      = { v.revised.view with
          compatibility := .incompatible, lifecycle := .quarantined, authority := .fenced
          counts := false } := rfl
    _ = _ := by rw [c.frame]; simp only [Verification.incompatible, hintegrity]

theorem undecided_admissible (c : v.Certifies inputs.plane r) (coherent : Coherent inputs.plane)
    (hr : Reported inputs.plane k r) {compatibility : ReplicaCompatibilityState}
    (unknown : compatibility ≠ .compatible) {reason : Text}
    (h : (v.undecided compatibility reason).persistAndFail inputs code message = .ok out) :
    Admissible (.verify k v.report.operationId out.status.isOk) inputs.plane out.effects := by
  have hintegrity : v.revised.integrity = .verified := congrArg ReplicaView.integrity c.frame
  have hauthority : v.revised.authority = r.authority := congrArg ReplicaView.authority c.frame
  have hcounts : v.revised.countsTowardFactor = r.countsTowardFactor :=
    congrArg ReplicaView.counts c.frame
  refine persistAndFail_admissible h rfl coherent hr c.id c.accepted (.inr (.inr (.inr rfl)))
    (.inr unknown) (fun _ => c.agrees) (by simp [Verification.undecided, hintegrity])
    (.inl ⟨hauthority, hcounts, by simp [Verification.undecided]⟩) ?_
  calc (v.undecided compatibility reason).revised.view
      = { v.revised.view with
          compatibility := compatibility, lifecycle := .revalidationRequired } := rfl
    _ = _ := by
      rw [c.frame]
      simp only [Verification.undecided, hintegrity, hauthority, hcounts]
      rfl

theorem judgeCompatibility_admissible (c : v.Certifies inputs.plane r)
    (coherent : Coherent inputs.plane) (hr : Reported inputs.plane k r)
    {requirement : CompatibilityRequirement}
    (h : v.judgeCompatibility inputs requirement r = .ok out) :
    Admissible (.verify k v.report.operationId out.status.isOk) inputs.plane out.effects := by
  have hjudged : v.Judged inputs _ _ := v.judgeCompatibility_judged requirement r
  rw [h] at hjudged
  generalize v.finding inputs requirement r = found at hjudged
  generalize hresult : Except.ok out = result at hjudged
  cases hjudged with
  | compatible =>
    refine prepare_admissible hresult.symm rfl coherent hr c.id c.accepted c.agrees ?_
    change ({ v.revised.view with
      compatibility := .compatible, lifecycle := .prepared, availability := .present
      revalidation := false } : ReplicaView) = _
    rw [c.frame]
  | incompatible => exact c.incompatible_admissible coherent hr hresult.symm
  | undecided _ unknown => exact c.undecided_admissible coherent hr unknown hresult.symm

end Verification.Certifies

/-- What is left when neither digest check refuses is agreement with a generation that has a
content digest. -/
theorem matches_of_checks {K : StateKey} {expected measured : Digest}
    (hexpected : (p.states[K]?.map StateGenerationRecord.contentDigest).getD {} = expected)
    (same : ¬ (expected.valid && measured.valid && measured != expected) = true)
    (present : ¬ (expected.valid && !measured.valid) = true) : p.abs.Matches K measured := by
  intro s hs hvalid
  obtain ⟨state, hstate, rfl⟩ := abs_states_eq_some.mp hs
  have hdigest : state.contentDigest = expected := by simpa [hstate] using hexpected
  have hvalid' : expected.valid = true := hdigest ▸ hvalid
  simp only [hvalid', Bool.true_and, Bool.not_eq_true', Bool.not_eq_false] at same present
  have heq : measured = expected := by simpa [present] using same
  exact heq.trans hdigest.symm

theorem verifyReplica_admissible {report : ReplicaVerification}
    (coherent : Coherent inputs.plane) (h : verifyReplica report inputs = .ok out) :
    Admissible (.verify report.replicaId report.operationId out.status.isOk) inputs.plane
      out.effects := by
  simp only [verifyReplica, ↓rejectIf_bind_eq_ok, bind_eq_ok] at h
  obtain ⟨r, hguard, haccepts, h⟩ := h
  have hr := guardReplica_ok coherent hguard
  have haccepted : r.lifecycle.acceptsVerification = true := by simpa using haccepts
  split at h
  · exact persistAndFail_admissible h rfl coherent hr rfl haccepted (.inl rfl)
      (.inl (by simp [Verification.mismatch])) (by simp [Verification.mismatch]) (fun _ => rfl)
      (.inr ⟨rfl, rfl⟩) rfl
  · split at h
    · exact persistAndFail_admissible h rfl coherent hr rfl haccepted (.inl rfl)
        (.inl (by simp [Verification.mismatch])) (by simp [Verification.mismatch]) (fun _ => rfl)
        (.inr ⟨rfl, rfl⟩) rfl
    · split at h
      · exact persistAndFail_admissible h rfl coherent hr rfl haccepted (.inr (.inl rfl))
          (.inl (by simp)) (by simp) (by simp) (.inl ⟨rfl, rfl, by simp⟩) rfl
      · rename_i hsame hpresent
        have hagrees := matches_of_checks rfl hsame hpresent
        refine Verification.Certifies.judgeCompatibility_admissible ?_ coherent hr h
        exact ⟨rfl, haccepted, hagrees, rfl⟩

end Verify

end StateFabric
