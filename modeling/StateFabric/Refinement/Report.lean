import StateFabric.Refinement.Replica

/-!
# Which reports are heard, and what they write

Reports about a replica pass `guard_replica`, which compares the identities a message names with the
record, and then what their own handler asks of the record.  `heard` says for each of the three
reports which guards these are; a report that is heard is executed, whatever its outcome.

A transfer or verification report writes, whatever its outcome, at most the operation it names,
then its replica, the set of the replica's generation without moving it on, and bookkeeping.
`Written` is that shape; for each of the three reports a lemma says which operation put stands in
front, which for a verification depends on its outcome only.  What is written carries the tick of
the request.
-/

namespace StateFabric

open Protocol ControlPlane MutationInputs

variable {inputs : MutationInputs} {out : Outcome ReplicaRecord}

/-- What is fixed when a replica is created: its generation and its replica set. -/
def ReplicaRecord.charter (r : ReplicaRecord) : StateKey × ReplicaSetId := (r.key, r.replicaSetId)

/-! ## Guards -/

/-- What `guard_replica` asks of a message about the replica: the generation, incarnation and worker
boot it names are those of the record, its epoch is the current one, the incarnation that wrote the
replica is the live one, and the replica is not terminal. -/
def ControlPlane.admits (p : ControlPlane) (generation : ReplicaGeneration)
    (incarnation : ClusterIncarnationId) (workerBoot : WorkerBootId)
    (expectedEpoch : CoordinatorEpoch) (replica : ReplicaRecord) : Bool :=
  !(generation.valid && generation != replica.replicaGeneration)
    && (!staleEpoch expectedEpoch p.coordinatorEpoch
    && (!(incarnation.valid && incarnation != replica.location.clusterIncarnation)
    && (p.clusters[replica.location.clusterId]?.any (fun cluster =>
        cluster.liveAuthority && cluster.incarnation == replica.location.clusterIncarnation)
    && (!(workerBoot.valid && replica.workerBootId.valid && workerBoot != replica.workerBootId)
    && !replica.isTerminal))))

/-- The transfer a report names is the one recorded in the replica. -/
def ReplicaRecord.transfers (replica : ReplicaRecord) (transferId : TransferId)
    (transferGeneration : TransferGeneration) : Bool :=
  !(replica.transferId.valid && transferId.valid && transferId != replica.transferId)
    && !(replica.transferGeneration.valid && transferGeneration.valid
      && transferGeneration != replica.transferGeneration)

/-- A progress report passes its guards: the replica is in a staging phase and does not belong to
another operation than the one named. -/
def TransferProgress.heard (progress : TransferProgress) (p : ControlPlane) : Bool :=
  p.replicas[progress.replicaId]?.any fun replica =>
    p.admits progress.replicaGeneration progress.clusterIncarnation progress.workerBootId
        progress.expectedCoordinatorEpoch replica
      && (replica.transfers progress.transferId progress.transferGeneration
      && (!(replica.operationId.valid && progress.operationId.valid
          && progress.operationId != replica.operationId)
      && replica.lifecycle.isStagingPhase))

/-- A completion report passes its guards. -/
def TransferCompletion.heard (completion : TransferCompletion) (p : ControlPlane) : Bool :=
  p.replicas[completion.replicaId]?.any fun replica =>
    p.admits completion.replicaGeneration completion.clusterIncarnation completion.workerBootId
        completion.expectedCoordinatorEpoch replica
      && (replica.transfers completion.transferId completion.transferGeneration
      && (completion.transferComplete && replica.lifecycle.acceptsCompletion))

/-- A verification report passes its guards. -/
def ReplicaVerification.heard (report : ReplicaVerification) (p : ControlPlane) : Bool :=
  p.replicas[report.replicaId]?.any fun replica =>
    p.admits report.replicaGeneration report.clusterIncarnation report.workerBootId
        report.expectedCoordinatorEpoch replica
      && replica.lifecycle.acceptsVerification

/-- An evidence update passes its guards: it names the live incarnation of a registered cluster and
its worker boot. -/
def ClusterEvidenceUpdate.heard (update : ClusterEvidenceUpdate) (p : ControlPlane) : Bool :=
  p.clusters[update.clusterId]?.any fun cluster =>
    !staleEpoch update.expectedCoordinatorEpoch p.coordinatorEpoch
      && (!(!cluster.liveAuthority || update.incarnation != cluster.incarnation)
      && !(update.workerBootId.valid && cluster.workerBootId.valid
        && update.workerBootId != cluster.workerBootId))

theorem isOk_commit (es : List Effect) (value : ρ) : (inputs.commit es value).isOk = true := rfl

theorem isOk_commitBeforeReturn (es : List Effect) (e : Error) :
    (inputs.commitBeforeReturn es e : Result (Outcome ρ)).isOk = true := rfl

/-- The record an evidence update writes carries the tick of the request. -/
theorem publishClusterEvidence_stamped {update : ClusterEvidenceUpdate}
    {out : Outcome ClusterRecord} (h : publishClusterEvidence update inputs = .ok out)
    {record : ClusterRecord} (hput : .putCluster record ∈ out.effects) :
    record.updatedAt = inputs.tick := by
  simp only [publishClusterEvidence, rejectIf_bind_eq_ok, found_bind_eq_ok] at h
  obtain ⟨existing, -, -, -, -, h⟩ := h
  rw [(commit_ok h).1] at hput
  obtain rfl : record = _ := by simpa using hput
  rfl

/-- An evidence update is executed exactly when it is heard. -/
theorem isOk_publishClusterEvidence (update : ClusterEvidenceUpdate) (inputs : MutationInputs) :
    (publishClusterEvidence update inputs).isOk = update.heard inputs.plane := by
  simp only [publishClusterEvidence, isOk_found_bind, isOk_rejectIf_bind, Bool.and_true,
    ClusterEvidenceUpdate.heard, isOk_commit]

theorem isOk_guardReplica_bind {α : Type} (p : ControlPlane) (k : ReplicaId)
    (generation : ReplicaGeneration) (incarnation : ClusterIncarnationId) (boot : WorkerBootId)
    (epoch : CoordinatorEpoch) (f : ReplicaRecord → Result α) :
    (guardReplica p k generation incarnation boot epoch >>= f).isOk
      = p.replicas[k]?.any fun replica =>
        p.admits generation incarnation boot epoch replica && (f replica).isOk := by
  simp only [guardReplica, bind_assoc, isOk_found_bind, isOk_rejectIf_bind, pure_bind,
    ControlPlane.admits]
  congr 1
  funext replica
  cases p.clusters[replica.location.clusterId]? <;>
    simp [bne, Bool.and_assoc]

theorem isOk_guardTransfer_bind {α : Type} (replica : ReplicaRecord) (transferId : TransferId)
    (transferGeneration : TransferGeneration) (name : String) (f : Unit → Result α) :
    (guardTransfer replica transferId transferGeneration name >>= f).isOk
      = (replica.transfers transferId transferGeneration && (f ()).isOk) := by
  simp only [guardTransfer, bind_assoc, isOk_rejectIf_bind, ReplicaRecord.transfers, Bool.and_assoc]

/-- A progress report is executed exactly when it is heard. -/
theorem isOk_recordTransferProgress (progress : TransferProgress) (inputs : MutationInputs) :
    (recordTransferProgress progress inputs).isOk = progress.heard inputs.plane := by
  simp only [recordTransferProgress, TransferProgress.heard, isOk_guardReplica_bind,
    isOk_guardTransfer_bind, isOk_rejectIf_bind, Bool.not_not]
  congr 1
  funext replica
  split <;> simp only [isOk_commit, isOk_commitBeforeReturn, Bool.and_true]

/-- A completion report is executed exactly when it is heard. -/
theorem isOk_recordTransferCompletion (completion : TransferCompletion) (inputs : MutationInputs) :
    (recordTransferCompletion completion inputs).isOk = completion.heard inputs.plane := by
  simp only [recordTransferCompletion, TransferCompletion.heard, isOk_guardReplica_bind,
    isOk_guardTransfer_bind, isOk_rejectIf_bind, Bool.not_not]
  congr 1
  funext replica
  split
  · simp only [isOk_commitBeforeReturn, Bool.and_true]
  · split <;> simp only [isOk_commit, isOk_commitBeforeReturn, Bool.and_true]

/-- A verification report is executed exactly when it is heard. -/
theorem isOk_verifyReplica (report : ReplicaVerification) (inputs : MutationInputs) :
    (verifyReplica report inputs).isOk = report.heard inputs.plane := by
  have hfail : ∀ (v : Verification) (code : ErrorCode) (message : Text),
      (v.persistAndFail inputs code message).isOk = true := fun _ _ _ => rfl
  have hjudge : ∀ (v : Verification) (requirement : CompatibilityRequirement)
      (replica : ReplicaRecord), (v.judgeCompatibility inputs requirement replica).isOk = true := by
    intro v requirement replica
    have hjudged : v.Judged inputs _ _ := v.judgeCompatibility_judged requirement replica
    generalize v.finding inputs requirement replica = found at hjudged
    generalize v.judgeCompatibility inputs requirement replica = result at hjudged
    cases hjudged <;> rfl
  simp only [verifyReplica, ReplicaVerification.heard, isOk_guardReplica_bind, isOk_rejectIf_bind,
    Bool.not_not, apply_ite Except.isOk, hfail, hjudge, ite_self, Bool.and_true]

/-! ## What is written -/

/-- The effects of a report: `advancement`, then a replica, its set and bookkeeping. -/
structure Written (inputs : MutationInputs) (replica revised : ReplicaRecord)
    (advancement es : List Effect) : Prop where
  effects : ∃ silent : List Effect, es = advancement
    ++ .putReplica revised :: bumpReplicaSetEffect inputs revised.key false :: silent
    ∧ ∀ e ∈ silent, e.Silent
  id : revised.replicaId = replica.replicaId
  charter : revised.charter = replica.charter
  stamped : revised.updatedAt = inputs.tick

namespace Written

variable {replica revised : ReplicaRecord} {advancement es : List Effect}

theorem mem_putOperation (h : Written inputs replica revised advancement es)
    {op : OperationRecord} : .putOperation op ∈ es ↔ .putOperation op ∈ advancement := by
  obtain ⟨silent, rfl, hsilent⟩ := h.effects
  have hnot : .putOperation op ∉ silent := fun hmem => hsilent _ hmem
  simp [bumpReplicaSetEffect, hnot]

theorem batch (h : Written inputs replica revised advancement es) {ops : List OperationRecord}
    (hops : advancement = ops.map .putOperation) : ReplicaBatch inputs revised false ops es := by
  obtain ⟨silent, rfl, hsilent⟩ := h.effects
  exact hops ▸ .of_list inputs revised false ops hsilent

end Written

/-! ## Operation puts -/

/-- `advance_operation` finds an operation to move on: one that is registered, not terminal and of
the generation named, if one is. -/
def ControlPlane.advances (p : ControlPlane) (operationId : OperationId)
    (generation : OperationGeneration) : Bool :=
  p.operations[operationId]?.any fun operation =>
    !operation.isTerminal && !(generation.valid && operation.operationGeneration != generation)

/-- The effects put one record of the operation, with the tick of the request, or none. -/
def Moves (inputs : MutationInputs) (operationId : OperationId) (moves : Bool)
    (es : List Effect) : Prop :=
  ∃ moved : Option OperationRecord, es = moved.toList.map .putOperation ∧ moved.isSome = moves
    ∧ ∀ op ∈ moved, op.operationId = operationId ∧ op.updatedAt = inputs.tick

theorem advanceOperation_moves (coherent : Coherent inputs.plane) (operationId : OperationId)
    (generation : OperationGeneration) (next : OperationState) (note : Text) :
    Moves inputs operationId (inputs.plane.advances operationId generation)
      (advanceOperation inputs operationId generation next note) := by
  unfold advanceOperation ControlPlane.advances
  cases hop : inputs.plane.operations[operationId]? with
  | none => exact ⟨none, rfl, rfl, by simp⟩
  | some old =>
    cases hlive : old.isTerminal with
    | true => exact ⟨none, by simp [hlive], by simp [hlive], by simp⟩
    | false =>
      cases hgeneration : (generation.valid && old.operationGeneration != generation) with
      | true => exact ⟨none, by simp [hlive, hgeneration], by simp only [Option.any_some, hgeneration]; simp,
          by simp⟩
      | false =>
        refine ⟨some _, by simp only [hlive, hgeneration]; rfl,
          by simp only [Option.any_some, hlive, hgeneration]; rfl, ?_⟩
        rintro op ⟨⟩
        rw [OperationRecord.note_operationId, OperationRecord.note_updatedAt]
        exact ⟨(coherent.operations hop).1, rfl⟩

theorem failOperation_moves (coherent : Coherent inputs.plane) (operationId : OperationId)
    (reason : Text) :
    Moves inputs operationId (inputs.plane.advances operationId {})
      (failOperation inputs operationId reason) := by
  unfold failOperation ControlPlane.advances
  cases hop : inputs.plane.operations[operationId]? with
  | none => exact ⟨none, rfl, rfl, by simp⟩
  | some old =>
    cases hlive : old.isTerminal with
    | true => exact ⟨none, by simp [hlive], by simp [hlive], by simp⟩
    | false =>
      refine ⟨some _, by simp only [hlive]; rfl, by simp [hlive, StrongId.valid], ?_⟩
      rintro op ⟨⟩
      rw [OperationRecord.note_operationId, OperationRecord.note_updatedAt]
      exact ⟨(coherent.operations hop).1, rfl⟩

theorem advanceOperation_of_live {operationId : OperationId} {old : OperationRecord}
    (hold : inputs.plane.operations[operationId]? = some old) (live : old.isTerminal = false)
    {generation : OperationGeneration}
    (named : (generation.valid && old.operationGeneration != generation) = false)
    (next : OperationState) (note : Text) :
    ∃ w : OperationRecord,
      advanceOperation inputs operationId generation next note = [.putOperation w]
        ∧ w.operationId = old.operationId ∧ w.view = { old.view with state := next } := by
  simp only [advanceOperation, hold, live, named, Bool.false_eq_true, if_false]
  exact ⟨_, rfl, OperationRecord.note_operationId _ _, OperationRecord.note_view _ _⟩

/-! ## The reports -/

/-- The operation put of a progress report. -/
def TransferProgress.advancement (progress : TransferProgress) (inputs : MutationInputs) :
    List Effect :=
  if progress.failed then failOperation inputs progress.operationId progress.failureReason
  else
    advanceOperation inputs progress.operationId progress.operationGeneration .transferring
      (text "transfer in progress")

/-- The operation put of a completion report, in terms of its outcome. -/
def TransferCompletion.advancement {ρ : Type} (completion : TransferCompletion)
    (inputs : MutationInputs) : Result ρ → List Effect
  | .ok _ =>
    advanceOperation inputs completion.operationId completion.operationGeneration .transferred
      (text "transfer complete at the destination")
  | .error _ => []

/-- The operation put of a verification report, in terms of its outcome. -/
def ReplicaVerification.advancement {ρ : Type} (report : ReplicaVerification)
    (inputs : MutationInputs) : Result ρ → List Effect
  | .ok _ =>
    advanceOperation inputs report.operationId report.operationGeneration .prepared
      (text "destination prepared under explicit authority")
  | .error e =>
    advanceOperation inputs report.operationId report.operationGeneration .failed e.message

theorem recordTransferProgress_written {progress : TransferProgress}
    (coherent : Coherent inputs.plane) (h : recordTransferProgress progress inputs = .ok out) :
    ∃ replica revised, Reported inputs.plane progress.replicaId replica
      ∧ Written inputs replica revised (progress.advancement inputs) out.effects
      ∧ revised.lifecycle ≠ .corrupt := by
  simp only [recordTransferProgress, ↓rejectIf_bind_eq_ok, bind_eq_ok] at h
  obtain ⟨replica, hguard, -, -, -, -, h⟩ := h
  have hreplica := guardReplica_ok coherent hguard
  unfold TransferProgress.advancement
  split at h
  · rename_i hfailed
    rw [if_pos hfailed]
    exact ⟨replica, _, hreplica,
      ⟨⟨_, (commitBeforeReturn_ok h).1, by simp [Effect.Silent]⟩, rfl, rfl, rfl⟩,
      by simp⟩
  · rename_i hfailed
    rw [if_neg hfailed]
    exact ⟨replica, _, hreplica,
      ⟨⟨_, (commit_ok h).1, by simp [Effect.Silent]⟩, rfl, rfl, rfl⟩, by simp⟩

/-- The outcome of a report that found the copy CORRUPT. -/
def Mismatched {ρ : Type} (status : Result ρ) : Prop :=
  ∃ e, status = .error e ∧ e.code = .integrityMismatch

theorem recordTransferCompletion_written {completion : TransferCompletion}
    (coherent : Coherent inputs.plane)
    (h : recordTransferCompletion completion inputs = .ok out) :
    ∃ replica revised, Reported inputs.plane completion.replicaId replica
      ∧ Written inputs replica revised (completion.advancement inputs out.status) out.effects
      ∧ (revised.lifecycle = .corrupt → Mismatched out.status) := by
  simp only [recordTransferCompletion, ↓rejectIf_bind_eq_ok, bind_eq_ok] at h
  obtain ⟨replica, hguard, -, -, -, -, h⟩ := h
  have hreplica := guardReplica_ok coherent hguard
  split at h
  · obtain ⟨heffects, hstatus⟩ := commitBeforeReturn_ok h
    rw [hstatus]
    exact ⟨replica, _, hreplica, ⟨⟨_, heffects, by simp [Effect.Silent]⟩, rfl, rfl, rfl⟩, by simp⟩
  · split at h
    · obtain ⟨heffects, hstatus⟩ := commitBeforeReturn_ok h
      rw [hstatus]
      exact ⟨replica, _, hreplica, ⟨⟨_, heffects, by simp [Effect.Silent]⟩, rfl, rfl, rfl⟩,
        fun _ => ⟨_, rfl, rfl⟩⟩
    · obtain ⟨heffects, hstatus⟩ := commit_ok h
      rw [hstatus]
      exact ⟨replica, _, hreplica, ⟨⟨_, heffects, by simp [Effect.Silent]⟩, rfl, rfl, rfl⟩, by simp⟩

/-- The digest a completion measured does not contradict the content digest of the state. -/
def TransferCompletion.agrees (completion : TransferCompletion) (p : ControlPlane) : Bool :=
  p.replicas[completion.replicaId]?.any fun replica =>
    let expected := (p.states[replica.key]?.map (·.contentDigest)).getD {}
    completion.measuredDigest.valid && !(expected.valid && completion.measuredDigest != expected)

/-- A completion is answered without an error exactly when its digest agrees. -/
theorem recordTransferCompletion_status {completion : TransferCompletion}
    (coherent : Coherent inputs.plane)
    (h : recordTransferCompletion completion inputs = .ok out) :
    out.status.isOk = completion.agrees inputs.plane := by
  simp only [recordTransferCompletion, ↓rejectIf_bind_eq_ok, bind_eq_ok] at h
  obtain ⟨replica, hguard, -, -, -, -, h⟩ := h
  have hreplica := guardReplica_ok coherent hguard
  have hstored : inputs.plane.replicas[completion.replicaId]? = some replica :=
    hreplica.id ▸ hreplica.recorded
  simp only [TransferCompletion.agrees, hstored, Option.any_some]
  split at h
  · rename_i hinvalid
    rw [(commitBeforeReturn_ok h).2]
    have hunmeasured : completion.measuredDigest.valid = false := by simpa using hinvalid
    rw [hunmeasured]
    rfl
  · rename_i hvalid
    split at h
    · rename_i hdiffers
      rw [(commitBeforeReturn_ok h).2, hdiffers, Bool.not_true, Bool.and_false]
      rfl
    · rename_i hagrees
      have hmeasured : completion.measuredDigest.valid = true := by simpa using hvalid
      rw [(commit_ok h).2, Bool.eq_false_of_not_eq_true hagrees, hmeasured]
      rfl

/-! ## Verification -/

/-- What a verification report writes, given its outcome. -/
def ReplicaVerification.Concludes (report : ReplicaVerification) (inputs : MutationInputs)
    (replica : ReplicaRecord) (out : Outcome ReplicaRecord) : Prop :=
  ∃ revised, Written inputs replica revised (report.advancement inputs out.status) out.effects
    ∧ (revised.lifecycle = .corrupt → Mismatched out.status)

namespace Verification

variable {v : Verification} {report : ReplicaVerification} {replica : ReplicaRecord}

theorem persistAndFail_concludes {code : ErrorCode} {message : Text}
    (h : v.persistAndFail inputs code message = .ok out) (named : v.report = report)
    (id : v.revised.replicaId = replica.replicaId) (charter : v.revised.charter = replica.charter)
    (stamped : v.revised.updatedAt = inputs.tick)
    (corrupt : v.revised.lifecycle = .corrupt → code = .integrityMismatch) :
    report.Concludes inputs replica out := by
  obtain ⟨heffects, hstatus⟩ := commitBeforeReturn_ok h
  refine ⟨v.revised, ⟨⟨[.putCounters v.counters, .setNextId v.next], ?_, by simp [Effect.Silent]⟩,
    id, charter, stamped⟩, fun hl => ⟨_, hstatus, corrupt hl⟩⟩
  rw [hstatus, heffects, named]
  rfl

theorem prepare_concludes (h : v.prepare inputs = .ok out) (named : v.report = report)
    (id : v.revised.replicaId = replica.replicaId) (charter : v.revised.charter = replica.charter)
    (stamped : v.revised.updatedAt = inputs.tick)
    (prepared : v.revised.lifecycle = .prepared) :
    report.Concludes inputs replica out := by
  obtain ⟨heffects, hstatus⟩ := commit_ok h
  refine ⟨v.revised, ⟨⟨[.putCounters v.counters, .setNextId v.next], ?_, by simp [Effect.Silent]⟩,
    id, charter, stamped⟩, by simp [prepared]⟩
  rw [hstatus, heffects, named]
  rfl

theorem judgeCompatibility_concludes {requirement : CompatibilityRequirement}
    {existing : ReplicaRecord} (h : v.judgeCompatibility inputs requirement existing = .ok out)
    (named : v.report = report) (id : v.revised.replicaId = replica.replicaId)
    (charter : v.revised.charter = replica.charter)
    (stamped : v.revised.updatedAt = inputs.tick) : report.Concludes inputs replica out := by
  have hjudged : v.Judged inputs _ _ := v.judgeCompatibility_judged requirement existing
  rw [h] at hjudged
  generalize v.finding inputs requirement existing = found at hjudged
  generalize hresult : Except.ok out = result at hjudged
  cases hjudged with
  | compatible => exact prepare_concludes hresult.symm named id charter stamped rfl
  | incompatible =>
    exact persistAndFail_concludes hresult.symm named id charter stamped (by simp [incompatible])
  | undecided =>
    exact persistAndFail_concludes hresult.symm named id charter stamped (by simp [undecided])

end Verification

theorem verifyReplica_written {report : ReplicaVerification} (coherent : Coherent inputs.plane)
    (h : verifyReplica report inputs = .ok out) :
    ∃ replica, Reported inputs.plane report.replicaId replica
      ∧ report.Concludes inputs replica out := by
  simp only [verifyReplica, ↓rejectIf_bind_eq_ok, bind_eq_ok] at h
  obtain ⟨replica, hguard, -, h⟩ := h
  refine ⟨replica, guardReplica_ok coherent hguard, ?_⟩
  split at h
  · exact Verification.persistAndFail_concludes h rfl rfl rfl rfl fun _ => rfl
  · split at h
    · exact Verification.persistAndFail_concludes h rfl rfl rfl rfl fun _ => rfl
    · split at h
      · exact Verification.persistAndFail_concludes h rfl rfl rfl rfl (by simp)
      · exact Verification.judgeCompatibility_concludes h rfl rfl rfl rfl

end StateFabric
