import StateFabric.Refinement.Handover

/-!
# Commits, operations and handoffs are protocol steps

The mutations that make a copy authoritative, and the authorization and cancellation of
operations.
-/

namespace StateFabric

open Protocol ControlPlane MutationInputs

variable {commitId : CommitId} {takeover : Bool} {bookkeeping : List Effect} {a : Action}
  {o : OperationRecord} {cancellation : OperationCancellation} {preferred : ClusterId}

variable {out : Outcome OperationRecord} {es : List Effect} {p : ControlPlane}
  {commit : OperationCommit} {existing : OperationRecord} {r : ReplicaRecord}

variable {inputs : MutationInputs}

/-! ## The authoritative commit -/

/-- The reason recorded for an owner that a commit demotes. -/
def takeoverReason : Text := text "ownership handed over by an authorized migration"

/-- What `plan_authoritative_commit` plans. -/
structure PlannedCommit (inputs : MutationInputs) (target : ReplicaRecord) (commitId : CommitId)
    (makeOwner takeover : Bool) (plan : CommitPlan) (authority : ReplicaAuthorityState)
    (demoted : Option ReplicaRecord) (ownership : Option OwnershipRecord) : Prop where
  mem : ∀ e, e ∈ plan.effects ↔
    (∃ d ∈ demoted, e = .putReplica (demotedReplica inputs d takeoverReason))
    ∨ e = .putReplica plan.committed ∨ e = .putReplicaSet (inputs.bumped plan.committed.key true)
    ∨ ∃ o ∈ ownership, e = .putOwnership o
  committed : ∃ set, plan.committed = committedReplica inputs target set commitId authority
  owner : (makeOwner = true ∧ authority = .authoritativeOwner
      ∧ (∃ o, ownership = some o ∧ o.key = target.key ∧ o.view = ⟨target.replicaId, true⟩)
      ∧ demoted = inputs.plane.ownerToDemote target.key target.replicaId)
    ∨ (makeOwner = false ∧ authority = .authoritativeForReuse ∧ ownership = none
      ∧ demoted = none)
  peaceful : takeover = false → demoted = none

/-- The effects of a planned commit with a retirement, an operation and bookkeeping added. -/
def CommitPlan.extended (plan : CommitPlan) (inputs : MutationInputs)
    (retired : Option ReplicaRecord) (operation : Option OperationRecord)
    (bookkeeping : List Effect) : List Effect :=
  plan.effects
    ++ ((retired.toList.flatMap fun s => [.putReplica (retiredReplica inputs s retirement),
        bumpReplicaSetEffect inputs s.key true])
      ++ (operation.toList.map .putOperation ++ bookkeeping))

/-- A recorded replica that an action may make authoritative. -/
structure Committable (a : Action) (inputs : MutationInputs) (target : ReplicaRecord) : Prop where
  recorded : inputs.plane.replicas[target.replicaId]? = some target
  act : (a = .commitReplica target.replicaId ∧ target.commitRecorded = false)
    ∨ ∃ o op, a = .complete o ∧ inputs.plane.abs.Completable o op
      ∧ op.destination = target.replicaId ∧ target.lifecycle = .prepared
  lifecycle : target.lifecycle = .prepared ∨ target.lifecycle = .authoritative
    ∨ target.lifecycle = .degraded
  validated : target.evidence.revalidationRequired = false
  hosted : inputs.plane.abs.Hosts target.view

theorem planAuthoritativeCommit_spec {target : ReplicaRecord} {state : StateGenerationRecord}
    {set : ReplicaSetRecord} {makeOwner : Bool} {plan : CommitPlan}
    (h : planAuthoritativeCommit inputs target state set commitId makeOwner takeover = .ok plan) :
    ∃ authority demoted ownership,
      PlannedCommit inputs target commitId makeOwner takeover plan authority demoted ownership := by
  simp only [planAuthoritativeCommit, rejectIf_bind_eq_ok] at h
  obtain ⟨-, h⟩ := h
  cases makeOwner with
  | false =>
    simp only [Bool.false_eq_true, if_false, pure_eq_ok] at h
    subst h
    exact ⟨.authoritativeForReuse, none, none, by simp [bumped, bumpReplicaSetEffect],
      ⟨set, rfl⟩, .inr ⟨rfl, rfl, rfl, rfl⟩, fun _ => rfl⟩
  | true =>
    simp only [if_true, rejectIf_bind_eq_ok, pure_eq_ok] at h
    obtain ⟨htakeover, h⟩ := h
    set committed := committedReplica inputs target set commitId .authoritativeOwner
    refine ⟨.authoritativeOwner, inputs.plane.ownerToDemote target.key target.replicaId,
      some (ownershipOfCommit inputs committed set commitId), ?_, ?_,
      .inl ⟨rfl, rfl, ⟨_, rfl, rfl, rfl⟩, rfl⟩, ?_⟩
    · subst h
      intro e
      unfold ownerToDemote
      cases inputs.plane.ownership[target.key]? with
      | none => simp [bumped, bumpReplicaSetEffect]; tauto
      | some o =>
        cases hother : o.active && o.ownerReplica != target.replicaId with
        | false => simp only [hother]; simp [bumped, bumpReplicaSetEffect]; tauto
        | true =>
          simp only [hother]
          simp only [mem_demoteOwner, bumped, bumpReplicaSetEffect, takeoverReason, if_true,
            List.mem_append, List.mem_cons, List.not_mem_nil, or_false, Option.mem_def,
            Option.filter_eq_some_iff, Bool.not_eq_true', Option.some.injEq, exists_eq_left']
          exact or_congr_right (by tauto)
    · subst h
      exact ⟨set, rfl⟩
    · rintro rfl
      unfold ownerToDemote
      cases hown : inputs.plane.ownership[target.key]? with
      | none => rfl
      | some => simp_all

namespace PlannedCommit

variable {target : ReplicaRecord} {commitId : CommitId} {makeOwner takeover : Bool}
  {plan : CommitPlan} {authority : ReplicaAuthorityState} {demoted : Option ReplicaRecord}
  {ownership : Option OwnershipRecord}

variable (c : PlannedCommit inputs target commitId makeOwner takeover plan authority demoted ownership)
include c

theorem committed_view :
    plan.committed.view = { target.view with
      lifecycle := .authoritative, integrity := .verified, compatibility := .compatible
      availability := .present, authority := authority, committed := true, counts := true } := by
  obtain ⟨set, hset⟩ := c.committed
  rw [hset]
  rfl

theorem committed_replicaId : plan.committed.replicaId = target.replicaId := by
  obtain ⟨set, hset⟩ := c.committed
  rw [hset]
  rfl

theorem committed_key : plan.committed.key = target.key := congrArg ReplicaView.key c.committed_view

variable (coherent : Coherent inputs.plane)
include coherent

theorem demoted_spec {d : ReplicaRecord} (hd : d ∈ demoted) :
    inputs.plane.replicas[d.replicaId]? = some d ∧ d.isTerminal = false
      ∧ d.replicaId ≠ target.replicaId ∧ inputs.plane.abs.Owns target.key d.replicaId := by
  rcases c.owner with ⟨-, -, -, rfl⟩ | ⟨-, -, -, rfl⟩
  · exact coherent.mem_ownerToDemote.mp hd
  · simp at hd

/-- The batch of a planned commit with a retirement, an operation and bookkeeping added. -/
theorem batch (retired : Option ReplicaRecord) (operation : Option OperationRecord)
    (effects : es = plan.extended inputs retired operation bookkeeping)
    (silent : ∀ e ∈ bookkeeping, e.Silent)
    (retires : ∀ s ∈ retired, inputs.plane.replicas[s.replicaId]? = some s
      ∧ s.isTerminal = false ∧ s.replicaId ≠ plan.committed.replicaId) :
    HandoverBatch inputs
      { target := plan.committed, demoted := demoted, demotion := takeoverReason
        retired := retired, ownership := ownership, operation := operation
        bookkeeping := bookkeeping } es where
  mem e := by
    rw [effects]
    simp only [CommitPlan.extended, List.mem_append, c.mem, List.mem_flatMap, List.mem_map, Option.mem_toList,
      List.mem_cons, List.not_mem_nil, or_false, or_assoc, eq_comm (b := e)]
    rfl
  silent := silent
  demoted d hd := by
    obtain ⟨hrecorded, hlive, hne, -⟩ := c.demoted_spec coherent hd
    exact ⟨hrecorded, hlive, c.committed_replicaId ▸ hne⟩
  retired := retires

theorem move {h : Handover} (m : Committable a inputs target) (b : HandoverBatch inputs h es)
    (htarget : h.target = plan.committed) (hownership : h.ownership = ownership) :
    ReplicaMove a inputs.plane.abs (inputs.plane.applyAll es).abs plan.committed.replicaId
      (inputs.plane.replicas[plan.committed.replicaId]?.map (·.view)) plan.committed.view := by
  have hadvances := b.advances_target coherent
  rw [htarget, c.committed_key] at hadvances
  rw [c.committed_replicaId, m.recorded, c.committed_view]
  refine .commit target.view authority m.act m.lifecycle m.validated (b.hosts m.hosted) hadvances ?_
  rcases c.owner with ⟨-, rfl, ⟨o, rfl, hkey, hview⟩, -⟩ | ⟨-, rfl, -⟩
  · refine .inl ⟨rfl, ?_⟩
    have howns := b.owns hownership
    rw [hkey, hview] at howns
    exact howns
  · exact .inr rfl

/-- A planned commit with what its mutation adds is admissible. -/
theorem admissible (retired : Option ReplicaRecord) (operation : Option OperationRecord)
    (effects : es = plan.extended inputs retired operation bookkeeping)
    (silent : ∀ e ∈ bookkeeping, e.Silent) (m : Committable a inputs target)
    (takes : takeover = true → ∃ o, a = .complete o)
    (retires : ∀ s ∈ retired, (inputs.plane.replicas[s.replicaId]? = some s
        ∧ s.isTerminal = false ∧ s.replicaId ≠ target.replicaId)
      ∧ ∃ o op, a = .complete o ∧ inputs.plane.abs.operations o = some op
        ∧ op.destructive = true ∧ op.source = s.replicaId ∧ op.destination = target.replicaId
        ∧ (op.kind = .migration → makeOwner = true))
    (completes : ∀ o ∈ operation, inputs.plane.states[o.key]?.isSome
      ∧ ∀ p', inputs.plane.abs.Advances p' target.key →
        OperationMove a inputs.plane.abs p' o.operationId
          (inputs.plane.operations[o.operationId]?.map (·.view)) o.view) :
    Admissible a inputs.plane es := by
  have hid := c.committed_replicaId
  have hkey := c.committed_key
  have batch := c.batch coherent retired operation effects silent
    (fun s hs => by rw [hid]; exact (retires s hs).1)
  have hmove := c.move coherent m batch rfl rfl
  have hadvances := batch.advances_target coherent
  have hclaim : ∀ o ∈ ownership, o.key = target.key ∧ o.view = ⟨target.replicaId, true⟩
      ∧ demoted = inputs.plane.ownerToDemote target.key target.replicaId := by
    intro o ho
    rcases c.owner with ⟨-, -, ⟨o', rfl, hok, hov⟩, hd⟩ | ⟨-, -, rfl, -⟩
    · obtain rfl := Option.some.inj ho
      exact ⟨hok, hov, hd⟩
    · simp at ho
  have hground := coherent.replicas m.recorded
  refine ⟨batch.lawful coherent hmove ?_ ?_ ?_ ?_, batch.grounded coherent ?_ ?_ ?_ ?_⟩
  · intro d hd
    refine ⟨hkey ▸ (c.demoted_spec coherent hd).2.2.2, .inl ?_⟩
    rcases m.act with ⟨hact, -⟩ | ⟨o, op, hact, hcompletable, hdest, -⟩
    · have htakeover : takeover = true := by
        by_contra hpeace
        simp [c.peaceful (Bool.eq_false_iff.mpr hpeace)] at hd
      obtain ⟨o, hcomplete⟩ := takes htakeover
      simp [hcomplete] at hact
    · exact ⟨o, op, target.view, hact, hcompletable.recorded, hdest ▸ abs_replicas m.recorded,
        hkey.symm⟩
  · intro s hs
    obtain ⟨⟨-, -, hne⟩, o, op, hact, hop, hdestructive, hsource, hdest, hmigration⟩ :=
      retires s hs
    refine ⟨o, op, target.view, hact, hop, hdestructive, hsource, hdest ▸ hne.symm,
      hdest ▸ abs_replicas m.recorded, ?_⟩
    intro hkind
    rcases c.owner with ⟨-, -, ⟨o', ho', hok, hov⟩, -⟩ | ⟨hfalse, -⟩
    · have howns := batch.owns ho'
      rw [hok, hov] at howns
      exact hdest ▸ howns
    · simp [hmigration hkind] at hfalse
  · intro o ho
    obtain ⟨hok, hov, hd⟩ := hclaim o ho
    obtain ⟨set, hset⟩ := c.committed
    refine batch.claim coherent (hok.trans hkey.symm) (by rw [hov, hid]) ?_ ?_ ?_ ?_
    · rw [hkey, hid]
      exact hd
    · exact congrArg ReplicaView.committed c.committed_view
    · exact congrArg ReplicaView.lifecycle c.committed_view
    · rcases m.act with ⟨hact, -⟩ | ⟨o, op, hact, hcompletable, hdest, -⟩
      · exact .inl (by rw [hact, hid])
      · exact .inr (.inl ⟨o, op, hact, hcompletable.recorded, hdest.trans hid.symm⟩)
  · intro o ho
    rw [hkey] at hadvances
    exact (completes o ho).2 _ hadvances
  · rw [hkey]
    exact hground.2.state
  · have hcluster : plan.committed.location.clusterId = target.location.clusterId :=
      congrArg ReplicaView.cluster c.committed_view
    rw [hcluster]
    exact hground.2.cluster
  · intro o ho
    exact (hclaim o ho).1.trans hkey.symm
  · exact fun o ho => (completes o ho).1

end PlannedCommit

/-- What a replica commit finds and writes. -/
structure ReplicaCommitted (inputs : MutationInputs) (commit : ReplicaCommit)
    (target : ReplicaRecord) (plan : CommitPlan) (es : List Effect) : Prop where
  recorded : inputs.plane.replicas[commit.replicaId]? = some target
  uncommitted : target.commitRecorded = false
  lifecycle : target.lifecycle = .prepared ∨ target.lifecycle = .authoritative
    ∨ target.lifecycle = .degraded
  validated : target.evidence.revalidationRequired = false
  hosted : inputs.plane.abs.Hosts target.view
  room : ∃ set, inputs.plane.replicaSets[target.key]? = some set
    ∧ (inputs.plane.rebuildReplicaSet set).authoritativeCount
      < maximumReplicasPerState (resolveReplicationPolicy inputs.plane inputs.config {})
  planned : ∃ owner authority demoted ownership, PlannedCommit inputs target commit.commitId owner
    false plan authority demoted ownership
  effects : ∃ bookkeeping, es = plan.effects ++ bookkeeping ∧ ∀ e ∈ bookkeeping, e.Silent

theorem commitReplica_committed {commit : ReplicaCommit} {out : Outcome ReplicaRecord}
    (h : commitReplica commit inputs = .ok out) :
    (out.effects = [] ∧ ∃ target, inputs.plane.replicas[commit.replicaId]? = some target
        ∧ target.commitRecorded = true ∧ target.commitId = commit.commitId)
      ∨ ∃ target plan, ReplicaCommitted inputs commit target plan out.effects := by
  simp only [commitReplica, rejectIf_bind_eq_ok, found_bind_eq_ok] at h
  obtain ⟨-, r, hr, -, -, h⟩ := h
  split at h
  · rename_i hcommitted
    rw [rejectIf_bind_eq_ok] at h
    exact .inl ⟨(commit_ok h.2).1, r, hr, hcommitted, by simpa using h.1⟩
  · rename_i hcommitted
    simp only [↓rejectIf_bind_eq_ok, ↓found_bind_eq_ok] at h
    obtain ⟨state, -, cluster, hcluster, hlive, set, hset, -, hlifecycle, -, -, hvalidated, hroom,
      h⟩ := h
    rw [bind_eq_ok] at h
    obtain ⟨plan, hplan, h⟩ := h
    obtain ⟨authority, demoted, ownership, c⟩ := planAuthoritativeCommit_spec hplan
    simp only [Bool.or_eq_false_iff, Bool.not_eq_false', bne_eq_false_iff_eq] at hlive
    have hphase : r.lifecycle = .prepared ∨ r.lifecycle = .authoritative
        ∨ r.lifecycle = .degraded := by
      simpa only [Bool.not_eq_false', Bool.or_eq_true, beq_iff_eq, or_assoc] using hlifecycle
    exact .inr ⟨r, plan, hr, by simpa using hcommitted, hphase, hvalidated,
      hosts_of_live hcluster hlive.1 hlive.2, ⟨set, hset, by simpa using hroom⟩,
      ⟨_, authority, demoted, ownership, c⟩, ⟨_, (commit_ok h).1, by simp [Effect.Silent]⟩⟩

theorem commitReplica_admissible {commit : ReplicaCommit} {out : Outcome ReplicaRecord}
    (coherent : Coherent inputs.plane) (h : commitReplica commit inputs = .ok out) :
    Admissible (.commitReplica commit.replicaId) inputs.plane out.effects := by
  rcases commitReplica_committed h with ⟨hnil, -⟩ | ⟨target, plan, c⟩
  · rw [hnil]
    exact admissible_of_silent (by simp)
  · obtain ⟨owner, authority, demoted, ownership, planned⟩ := c.planned
    obtain ⟨bookkeeping, heffects, hsilent⟩ := c.effects
    have hid := (coherent.replicas c.recorded).1
    rw [← hid]
    exact planned.admissible coherent none none heffects hsilent ⟨hid.symm ▸ c.recorded,
      .inl ⟨rfl, c.uncommitted⟩, c.lifecycle, c.validated, c.hosted⟩ (by simp) (by simp) (by simp)

/-! ## Operation commits -/

theorem guardOperation_ok {operationId : OperationId} {generation : OperationGeneration}
    {epoch : CoordinatorEpoch} {subject : Text}
    (h : guardOperation p operationId generation epoch subject = .ok o) :
    p.operations[operationId]? = some o := by
  simp only [guardOperation, rejectIf_bind_eq_ok, found_bind_eq_ok, pure_eq_ok] at h
  obtain ⟨o', ho, -, -, rfl⟩ := h
  exact ho

@[simp] theorem completedOperation_view (inputs : MutationInputs) (existing : OperationRecord)
    (commitId : CommitId) (committed : ReplicaRecord) :
    (completedOperation inputs existing commitId committed).view =
      { existing.view with state := .complete } := OperationRecord.note_view _ _

@[simp] theorem completedOperation_operationId (inputs : MutationInputs)
    (existing : OperationRecord) (commitId : CommitId) (committed : ReplicaRecord) :
    (completedOperation inputs existing commitId committed).operationId = existing.operationId :=
  OperationRecord.note_operationId _ _

theorem retiringSource_spec {committed source : ReplicaRecord}
    (h : retiringSource p existing commit committed = some source) :
    existing.destructiveMove = true ∧ p.replicas[existing.sourceReplica]? = some source
      ∧ source.isTerminal = false ∧ source.replicaId ≠ committed.replicaId := by
  unfold retiringSource at h
  split at h
  · rename_i hmove
    obtain ⟨hsource, hkeep⟩ := Option.filter_eq_some_iff.mp h
    simp only [Bool.and_eq_true, Bool.not_eq_true', bne_iff_ne] at hkeep hmove
    exact ⟨hmove.1, hsource, hkeep.1, hkeep.2⟩
  · simp at h

/-- What an operation commit finds and writes: the plan of the commit, the retirement of the
source of a destructive move, the completed operation and bookkeeping. -/
structure OperationCommitted (inputs : MutationInputs) (commit : OperationCommit)
    (existing : OperationRecord) (destination : ReplicaRecord) (plan : CommitPlan)
    (operation : OperationRecord) (es : List Effect) : Prop where
  recorded : inputs.plane.operations[commit.operationId]? = some existing
  live : existing.isTerminal = false
  unmoved : existing.sourceReplicaSetGeneration.valid = true → ∃ set,
    inputs.plane.replicaSets[existing.key]? = some set
      ∧ set.generation = existing.sourceReplicaSetGeneration
  copied : inputs.plane.replicas[existing.destinationReplica]? = some destination
  prepared : destination.lifecycle = .prepared
  validated : destination.evidence.revalidationRequired = false
  hosted : inputs.plane.abs.Hosts destination.view
  room : ∃ set, inputs.plane.replicaSets[existing.key]? = some set
    ∧ (inputs.plane.rebuildReplicaSet set).authoritativeCount < maximumReplicasPerState
      (resolveReplicationPolicy inputs.plane inputs.config existing.replicationPolicyId)
  planned : ∃ owner takeover authority demoted ownership,
    (existing.kind = .migration → owner = true)
    ∧ PlannedCommit inputs destination commit.commitId owner takeover plan authority demoted
      ownership
  operationId : operation.operationId = existing.operationId
  completed : operation.view = { existing.view with state := .complete }
  dated : operation.updatedAt = inputs.tick
  effects : ∃ bookkeeping, es = plan.extended inputs
      (retiringSource inputs.plane existing commit plan.committed) (some operation) bookkeeping
    ∧ ∀ e ∈ bookkeeping, e.Silent

theorem commitOperation_committed (h : commitOperation commit inputs = .ok out) :
    (out.effects = [] ∧ ∃ existing, inputs.plane.operations[commit.operationId]? = some existing
        ∧ existing.isTerminal = true ∧ existing.commitId = commit.commitId)
      ∨ ∃ existing destination plan operation,
      OperationCommitted inputs commit existing destination plan operation out.effects := by
  simp only [commitOperation] at h
  rw [bind_eq_ok] at h
  obtain ⟨existing, hguard, h⟩ := h
  split at h
  · rename_i hterminal
    rw [rejectIf_bind_eq_ok] at h
    have hrepeats := h.1
    simp only [Bool.not_eq_false', Bool.and_eq_true, beq_iff_eq] at hrepeats
    exact .inl ⟨(commit_ok h.2).1, existing, guardOperation_ok hguard, hterminal, hrepeats.2⟩
  rename_i hlive
  simp only [↓rejectIf_bind_eq_ok, ↓found_bind_eq_ok] at h
  obtain ⟨-, destination, hdestination, state, -, set, hset, hunmoved, hprepared, -, -, hvalidated,
    cluster, hcluster, hhosted, hroom, h⟩ := h
  rw [bind_eq_ok] at h
  obtain ⟨plan, hplan, h⟩ := h
  obtain ⟨authority, demoted, ownership, c⟩ := planAuthoritativeCommit_spec hplan
  simp only [Bool.or_eq_false_iff, Bool.not_eq_false', bne_eq_false_iff_eq] at hhosted
  have hunmoved' : existing.sourceReplicaSetGeneration.valid = true → ∃ set,
      inputs.plane.replicaSets[existing.key]? = some set
        ∧ set.generation = existing.sourceReplicaSetGeneration :=
    fun hvalid => ⟨set, hset, by simpa [hvalid] using hunmoved⟩
  have howner : existing.kind = .migration →
      (existing.kind == .migration || requiresSingleAuthoritativeOwner state.consistency) = true :=
    fun hkind => by simp [hkind]
  have hcommitted : ∀ {operation : OperationRecord} {bookkeeping : List Effect},
      out.effects = plan.extended inputs
        (retiringSource inputs.plane existing commit plan.committed) (some operation) bookkeeping →
      (∀ e ∈ bookkeeping, e.Silent) → operation.operationId = existing.operationId →
      operation.view = { existing.view with state := .complete } →
      operation.updatedAt = inputs.tick →
      OperationCommitted inputs commit existing destination plan operation out.effects :=
    fun heffects hsilent hid hview hdated =>
      ⟨guardOperation_ok hguard, Bool.eq_false_iff.mpr hlive, hunmoved', hdestination,
        by simpa using hprepared, hvalidated, hosts_of_live hcluster hhosted.1 hhosted.2,
        ⟨set, hset, by simpa using hroom⟩, ⟨_, _, _, _, _, howner, c⟩, hid, hview,
        hdated, ⟨_, heffects, hsilent⟩⟩
  refine .inr ⟨existing, destination, plan, ?_⟩
  simp only [operationCommitOutcome] at h
  split at h
  · rename_i hsource
    rw [hsource] at hcommitted
    exact ⟨_, hcommitted (commit_ok h).1 (by simp [Effect.Silent])
      (completedOperation_operationId ..) (completedOperation_view ..)
      (OperationRecord.note_updatedAt ..)⟩
  · rename_i source hsource
    rw [hsource] at hcommitted
    exact ⟨_, hcommitted (commit_ok h).1 (by simp [Effect.Silent])
      ((OperationRecord.note_operationId ..).trans (completedOperation_operationId ..))
      ((OperationRecord.note_view ..).trans (completedOperation_view ..))
      ((OperationRecord.note_updatedAt ..).trans (OperationRecord.note_updatedAt ..))⟩

namespace OperationCommitted

variable {commit : OperationCommit} {existing : OperationRecord} {destination : ReplicaRecord}
  {plan : CommitPlan} {operation : OperationRecord} {es : List Effect}

section

variable (c : OperationCommitted inputs commit existing destination plan operation es)
include c

theorem completable : inputs.plane.abs.Completable commit.operationId existing.view := by
  refine ⟨abs_operations c.recorded, OperationRecord.not_terminal c.live, ?_⟩
  intro hnonzero
  obtain ⟨set, hset, hsame⟩ := c.unmoved (bne_iff_ne.mpr hnonzero)
  rw [show existing.view.key = existing.key from rfl, abs_setGeneration hset, hsame]
  rfl

theorem retires (coherent : Coherent inputs.plane) {s : ReplicaRecord}
    (hs : s ∈ retiringSource inputs.plane existing commit plan.committed) :
    existing.destructiveMove = true ∧ s.replicaId = existing.sourceReplica
      ∧ inputs.plane.replicas[s.replicaId]? = some s ∧ s.isTerminal = false
      ∧ s.replicaId ≠ destination.replicaId := by
  obtain ⟨owner, takeover, authority, demoted, ownership, -, planned⟩ := c.planned
  obtain ⟨hdestructive, hrecorded, hterminal, hne⟩ := retiringSource_spec hs
  have hsid := (coherent.replicas hrecorded).1
  rw [planned.committed_replicaId] at hne
  exact ⟨hdestructive, hsid, hsid.symm ▸ hrecorded, hterminal, hne⟩

theorem batch (coherent : Coherent inputs.plane) {owner : Bool} {authority : ReplicaAuthorityState}
    {demoted : Option ReplicaRecord} {ownership : Option OwnershipRecord}
    (planned : PlannedCommit inputs destination commit.commitId owner takeover plan authority
      demoted ownership) :
    ∃ bookkeeping, HandoverBatch inputs
      { target := plan.committed, demoted := demoted, demotion := takeoverReason
        retired := retiringSource inputs.plane existing commit plan.committed
        ownership := ownership, operation := some operation, bookkeeping := bookkeeping } es := by
  obtain ⟨bookkeeping, heffects, hsilent⟩ := c.effects
  refine ⟨bookkeeping, planned.batch coherent _ (some operation) heffects hsilent ?_⟩
  intro s hs
  obtain ⟨-, -, hrecorded, hlive, hne⟩ := c.retires coherent hs
  exact ⟨hrecorded, hlive, planned.committed_replicaId ▸ hne⟩

theorem admissible (coherent : Coherent inputs.plane) :
    Admissible (.complete commit.operationId) inputs.plane es := by
  obtain ⟨owner, takeover, authority, demoted, ownership, howner, planned⟩ := c.planned
  obtain ⟨bookkeeping, heffects, hsilent⟩ := c.effects
  have hoid := (coherent.operations c.recorded).1
  have hdid := (coherent.replicas c.copied).1
  refine planned.admissible coherent _ (some operation) heffects hsilent
    ⟨hdid.symm ▸ c.copied, .inr ⟨_, _, rfl, c.completable, hdid.symm, c.prepared⟩,
      .inl c.prepared, c.validated, c.hosted⟩ (fun _ => ⟨_, rfl⟩) ?_ ?_
  · intro s hs
    obtain ⟨hdestructive, hsource, hrecorded, hterminal, hne⟩ := c.retires coherent hs
    exact ⟨⟨hrecorded, hterminal, hne⟩, commit.operationId, existing.view, rfl,
      abs_operations c.recorded, hdestructive, hsource.symm, hdid.symm, howner⟩
  · rintro o ⟨rfl⟩
    have hkey : operation.key = existing.key := congrArg OperationView.key c.completed
    refine ⟨hkey ▸ (coherent.operations c.recorded).2, fun p' hadvances => ?_⟩
    rw [c.operationId, hoid, c.recorded, c.completed]
    exact .complete existing.view destination.view rfl c.completable (abs_replicas c.copied)
      c.prepared hadvances

end

end OperationCommitted

theorem commitOperation_admissible (coherent : Coherent inputs.plane)
    (h : commitOperation commit inputs = .ok out) :
    Admissible (.complete commit.operationId) inputs.plane out.effects := by
  rcases commitOperation_committed h with ⟨hnil, -⟩ | ⟨existing, destination, plan, operation, c⟩
  · rw [hnil]
    exact admissible_of_silent (by simp)
  · exact c.admissible coherent

/-! ## Ownership handoff -/

/-- The contents of a handoff from a recorded owner to a replica. -/
def handoff (inputs : MutationInputs) (ownership : OwnershipRecord) (newOwner : ReplicaRecord)
    (commitId : CommitId) : Handover :=
  { target := promotedReplica inputs newOwner commitId
    demoted := inputs.plane.ownerToDemote newOwner.key newOwner.replicaId
    demotion := text "ownership handed over"
    ownership := some (handedOverOwnership inputs ownership newOwner commitId)
    bookkeeping := [.putCounters { inputs.plane.counters with
      ownershipTransfers := inputs.plane.counters.ownershipTransfers + 1 }] }

theorem handoff_batch (coherent : Coherent inputs.plane) {ownership : OwnershipRecord}
    {newOwner : ReplicaRecord} (owns : inputs.plane.abs.Owns newOwner.key ownership.ownerReplica)
    (effects : es = demoteOwner inputs
        (inputs.plane.replicas[ownership.ownerReplica]?.filter (·.replicaId != newOwner.replicaId))
        (text "ownership handed over")
      ++ [.putReplica (promotedReplica inputs newOwner commitId),
        bumpReplicaSetEffect inputs (promotedReplica inputs newOwner commitId).key true,
        .putOwnership (handedOverOwnership inputs ownership newOwner commitId),
        .putCounters { inputs.plane.counters with
          ownershipTransfers := inputs.plane.counters.ownershipTransfers + 1 }]) :
    HandoverBatch inputs (handoff inputs ownership newOwner commitId) es where
  mem e := by
    rw [effects]
    simp only [handoff, List.mem_append, mem_demoteOwner, coherent.mem_ownerToDemote_iff owns,
      List.mem_cons, List.not_mem_nil, or_false, Option.mem_def, Option.some.injEq,
      exists_eq_left', reduceCtorEq, false_and, exists_false, false_or]
    rfl
  silent := by simp [handoff, Effect.Silent]
  demoted d hd := by
    obtain ⟨hrecorded, hlive, hne, -⟩ := coherent.mem_ownerToDemote.mp hd
    exact ⟨hrecorded, hlive, hne⟩
  retired := by simp [handoff]

/-- What a handoff finds and writes. -/
structure HandedOver (inputs : MutationInputs) (request : OwnershipTransferRequest)
    (ownership : OwnershipRecord) (newOwner : ReplicaRecord) (es : List Effect) : Prop where
  held : inputs.plane.ownership[newOwner.key]? = some ownership
  active : ownership.active = true
  recorded : inputs.plane.replicas[request.newOwnerReplica]? = some newOwner
  key : newOwner.key = ⟨request.stateId, request.stateGeneration⟩
  integrity : newOwner.integrity = .verified
  compatibility : newOwner.compatibility = .compatible
  prepared : newOwner.commitRecorded = true ∨ newOwner.lifecycle = .prepared
  hosted : inputs.plane.abs.Hosts newOwner.view
  batch : HandoverBatch inputs (handoff inputs ownership newOwner request.handoffCommit) es

namespace HandedOver

variable {request : OwnershipTransferRequest} {ownership : OwnershipRecord}
  {newOwner : ReplicaRecord} {es : List Effect}

theorem owned (h : HandedOver inputs request ownership newOwner es) :
    inputs.plane.abs.Owns newOwner.key ownership.ownerReplica := by
  rw [Plane.Owns, abs_ownership h.held, OwnershipRecord.view, h.active]

theorem owns (h : HandedOver inputs request ownership newOwner es)
    (coherent : Coherent inputs.plane) :
    (inputs.plane.applyAll es).abs.Owns newOwner.key newOwner.replicaId := by
  have hokey : ownership.key = newOwner.key := (coherent.ownership h.held).1
  have howned := h.batch.owns rfl
  exact hokey ▸ howned

end HandedOver

theorem transferOwnership_handedOver {request : OwnershipTransferRequest}
    {out : Outcome OwnershipRecord} (coherent : Coherent inputs.plane)
    (h : transferOwnership request inputs = .ok out) :
    out.effects = [] ∨ ∃ ownership newOwner,
      HandedOver inputs request ownership newOwner out.effects := by
  simp only [transferOwnership, rejectIf_bind_eq_ok, found_bind_eq_ok] at h
  obtain ⟨state, -, -, -, ownership, hownership, hactive, h⟩ := h
  split at h
  · exact .inl (commit_ok h).1
  · simp only [↓rejectIf_bind_eq_ok, ↓found_bind_eq_ok] at h
    obtain ⟨-, r, hr, -, hevidence, hprepared, hgeneration, cluster, hcluster, hlive, -,
      hincarnation, -, h⟩ := h
    have hkey : r.key = ⟨request.stateId, request.stateGeneration⟩ := by
      simp only [Bool.or_eq_false_iff, bne_eq_false_iff_eq] at hgeneration
      simp [ReplicaRecord.key, hgeneration.1, hgeneration.2]
    rw [← hkey] at hownership
    have hactive' : ownership.active = true := by simpa using hactive
    have howns : inputs.plane.abs.Owns r.key ownership.ownerReplica := by
      rw [Plane.Owns, abs_ownership hownership, OwnershipRecord.view, hactive']
    simp only [Bool.or_eq_false_iff, bne_eq_false_iff_eq] at hevidence hincarnation
    rw [Bool.not_eq_false'] at hlive
    have hready : r.commitRecorded = true ∨ r.lifecycle = .prepared := by
      cases hc : r.commitRecorded with
      | true => exact .inl rfl
      | false => exact .inr (by simpa [hc] using hprepared)
    exact .inr ⟨ownership, r, hownership, hactive', hr, hkey, hevidence.1, hevidence.2, hready,
      hosts_of_live hcluster hlive hincarnation, handoff_batch coherent howns (commit_ok h).1⟩

theorem transferOwnership_admissible {request : OwnershipTransferRequest}
    {out : Outcome OwnershipRecord} (coherent : Coherent inputs.plane)
    (h : transferOwnership request inputs = .ok out) :
    Admissible (.handoff ⟨request.stateId, request.stateGeneration⟩ request.newOwnerReplica)
      inputs.plane out.effects := by
  rcases transferOwnership_handedOver coherent h with hnil | ⟨ownership, r, handed⟩
  · rw [hnil]
    exact admissible_of_silent (by simp)
  have hground := coherent.replicas handed.recorded
  have hokey : ownership.key = r.key := (coherent.ownership handed.held).1
  have batch := handed.batch
  rw [← handed.key, ← hground.1]
  refine ⟨batch.lawful coherent ?_ ?_ (by simp [handoff]) ?_ (by simp [handoff]),
    batch.grounded coherent hground.2.state hground.2.cluster ?_ (by simp [handoff])⟩
  · change ReplicaMove _ _ _ r.replicaId (inputs.plane.replicas[r.replicaId]?.map _) _
    rw [hground.1, handed.recorded]
    exact .promote r.view rfl handed.integrity handed.compatibility
      handed.prepared (batch.hosts handed.hosted) (batch.advances_target coherent)
      (hground.1 ▸ handed.owns coherent)
  · intro d hd
    exact ⟨(coherent.mem_ownerToDemote.mp hd).2.2.2, .inr ⟨_, rfl⟩⟩
  · rintro o ⟨rfl⟩
    exact batch.claim coherent hokey rfl rfl rfl rfl (.inr (.inr rfl))
  · rintro o ⟨rfl⟩
    exact hokey

/-! ## Cancellation -/

theorem cancelledOperation_advanced (reason : Text)
    (recorded : inputs.plane.operations[existing.operationId]? = some existing)
    (live : existing.isTerminal = false) :
    Advanced inputs.plane existing.operationId .cancelled
      (cancelledOperation inputs existing reason) := by
  have hid : (cancelledOperation inputs existing reason).operationId = existing.operationId :=
    OperationRecord.note_operationId _ _
  exact ⟨hid, existing, recorded, live, OperationRecord.note_view _ _⟩

/-- The destination the cancellation of an operation abandons. -/
def ControlPlane.abandonedBy (p : ControlPlane) (existing : OperationRecord) :
    Option ReplicaRecord :=
  if existing.state == .complete || existing.state == .addedToReplicaSet
      || existing.destinationCommitted || existing.isTerminal then none
  else p.replicas[existing.destinationReplica]?.filter fun destination =>
    !destination.isTerminal && !destination.commitRecorded

/-- What a cancellation writes: a line in the journal of an operation it refuses to cancel, nothing
for a terminal one, otherwise the cancelled operation with the destination abandoned. -/
inductive Cancels (inputs : MutationInputs) (existing : OperationRecord) (reason : Text)
    (es : List Effect) : Prop
  | refused (noted : OperationRecord) (id : noted.operationId = existing.operationId)
      (view : noted.view = existing.view) (spared : inputs.plane.abandonedBy existing = none)
      (effects : es = [.putOperation noted]) : Cancels inputs existing reason es
  | repeated (spared : inputs.plane.abandonedBy existing = none) (effects : es = []) :
      Cancels inputs existing reason es
  | spared (live : existing.isTerminal = false)
      (spared : inputs.plane.abandonedBy existing = none) (silent : List Effect)
      (effects : es = .putOperation (cancelledOperation inputs existing reason) :: silent)
      (hsilent : ∀ e ∈ silent, e.Silent) : Cancels inputs existing reason es
  | abandoned (live : existing.isTerminal = false) (r : ReplicaRecord)
      (destination : inputs.plane.abandonedBy existing = some r)
      (batch : ReplicaBatch inputs (abandonedReplica inputs r) true
        [cancelledOperation inputs existing reason] es) : Cancels inputs existing reason es

theorem cancelOperation_cancels (h : cancelOperation cancellation inputs = .ok out) :
    ∃ existing, inputs.plane.operations[cancellation.operationId]? = some existing
      ∧ Cancels inputs existing cancellation.reason out.effects := by
  simp only [cancelOperation] at h
  rw [bind_eq_ok] at h
  obtain ⟨existing, hguard, h⟩ := h
  refine ⟨existing, guardOperation_ok hguard, ?_⟩
  split at h
  · rename_i hcommitted
    refine .refused _ ?_ ?_ ?_ (commit_ok h).1
    · exact OperationRecord.note_operationId _ _
    · exact OperationRecord.note_view _ _
    · rw [ControlPlane.abandonedBy, hcommitted]
      rfl
  · rename_i hcommitted
    split at h
    · rename_i hterminal
      refine .repeated ?_ (commit_ok h).1
      rw [ControlPlane.abandonedBy, hterminal, Bool.or_true]
      rfl
    · rename_i hlive
      have hdestination : inputs.plane.abandonedBy existing =
          inputs.plane.replicas[existing.destinationReplica]?.filter fun destination =>
            !destination.isTerminal && !destination.commitRecorded := by
        rw [ControlPlane.abandonedBy, Bool.eq_false_iff.mpr hcommitted,
          Bool.eq_false_iff.mpr hlive]
        rfl
      split at h
      · rename_i hnone
        exact .spared (Bool.eq_false_iff.mpr hlive) (hdestination.trans hnone) _ (commit_ok h).1
          (by simp [Effect.Silent])
      · rename_i r hr
        refine .abandoned (Bool.eq_false_iff.mpr hlive) r (hdestination.trans hr) ?_
        rw [(commit_ok h).1]
        constructor <;> simp [bumped, bumpReplicaSetEffect, Effect.Silent]

theorem abandonedBy_spec (h : p.abandonedBy existing = some r) :
    p.replicas[existing.destinationReplica]? = some r ∧ r.isTerminal = false
      ∧ r.commitRecorded = false := by
  unfold ControlPlane.abandonedBy at h
  split at h
  · cases h
  · obtain ⟨hrecorded, hkeep⟩ := Option.filter_eq_some_iff.mp h
    simp only [Bool.and_eq_true, Bool.not_eq_true'] at hkeep
    exact ⟨hrecorded, hkeep⟩

theorem cancelOperation_admissible (coherent : Coherent inputs.plane)
    (h : cancelOperation cancellation inputs = .ok out) :
    Admissible (.cancel cancellation.operationId) inputs.plane out.effects := by
  obtain ⟨existing, hop, hcancels⟩ := cancelOperation_cancels h
  have hground := coherent.operations hop
  rw [← hground.1] at hop ⊢
  cases hcancels with
  | refused noted id view spared effects =>
    refine admissible_of_operation effects (by simp) (fun p' => ?_) ?_
    · rw [id, view, hop]
      exact .note existing.view rfl
    · rw [show noted.key = existing.key from congrArg OperationView.key view]
      exact hground.2
  | repeated spared effects =>
    rw [effects]
    exact admissible_of_silent (by simp)
  | spared live spared silent effects hsilent =>
    have hcancelled := cancelledOperation_advanced cancellation.reason hop live
    exact admissible_of_operation effects hsilent
      (fun p' => hcancelled.move (.inr (.inr (.inr ⟨rfl, rfl⟩))) (by decide))
      (hcancelled.registered coherent)
  | abandoned live r destination batch =>
    have hcancelled := cancelledOperation_advanced cancellation.reason hop live
    have hid : (cancelledOperation inputs existing cancellation.reason).operationId
        = existing.operationId := OperationRecord.note_operationId _ _
    obtain ⟨hrecorded, hlive, huncommitted⟩ := abandonedBy_spec destination
    have hgrounded := coherent.replicas hrecorded
    refine batch.admissible coherent hgrounded.2.state hgrounded.2.cluster ?_ ?_
    · change ReplicaMove _ _ _ r.replicaId (inputs.plane.replicas[r.replicaId]?.map _) _
      rw [hgrounded.1, hrecorded]
      refine .abandon r.view r.view.revalidation (.inr (.inl ⟨_, existing.view, rfl,
        abs_operations hop, rfl, huncommitted, ReplicaRecord.not_terminal hlive, ?_⟩))
      rw [← hcancelled.view_of_recorded hop, ← hid]
      exact abs_operations_applyAll (batch.operations _ List.mem_cons_self) fun w hw =>
        List.mem_singleton.mp (batch.mem_of_mem_putOperation hw)
    · intro o ho
      obtain rfl := List.mem_singleton.mp ho
      exact ⟨hcancelled.move (.inr (.inr (.inr ⟨rfl, rfl⟩))) (by decide),
        hcancelled.registered coherent⟩

/-! ## Authorization -/

theorem foldl_betterSource_mem (l : List ReplicaRecord) (best : Option ReplicaRecord)
    (h : l.foldl (betterSource preferred) best = some r) : r ∈ l ∨ best = some r := by
  induction l generalizing best with
  | nil => exact .inr h
  | cons w rest ih =>
    rcases ih _ h with hmem | hbest
    · exact .inl (List.mem_cons_of_mem _ hmem)
    · have hcases : betterSource preferred best w = some w
          ∨ betterSource preferred best w = best := by
        unfold betterSource
        cases best with
        | none => exact .inl rfl
        | some => simp only; split <;> split <;> simp
      rcases hcases with hw | hsame
      · rw [hw] at hbest
        exact .inl (Option.some.inj hbest ▸ List.mem_cons_self)
      · exact .inr (hsame ▸ hbest)

theorem selectSourceReplica_mem {K : StateKey} {policy : Option ReplicationPolicyRecord}
    (h : selectSourceReplica p K preferred policy = some r) : r ∈ p.replicasOfState K := by
  rcases foldl_betterSource_mem _ none h with hmem | hnone
  · exact List.mem_of_mem_filter hmem
  · simp at hnone

/-- What a transfer plan rests on. -/
structure TransferPlan.Grounds (plan : TransferPlan) (p : ControlPlane)
    (request : TransferRequest) : Prop where
  key : plan.key = request.key
  kind : plan.kind = request.kind
  destructive : plan.destructiveMove = request.destructiveMove
  state : p.states[plan.key]? = some plan.state
  current : plan.state.lifecycle = .current
  set : ∃ stored, p.replicaSets[plan.key]? = some stored
    ∧ plan.set.generation = stored.generation
  source : plan.source ∈ p.replicasOfState plan.key
  cluster : p.clusters[plan.chosen]? = some plan.destinationCluster

theorem planTransfer_grounds {request : TransferRequest} {plan : TransferPlan}
    (h : planTransfer request inputs = .ok plan) : plan.Grounds inputs.plane request := by
  simp only [planTransfer, rejectIf_bind_eq_ok, found_bind_eq_ok, pure_eq_ok] at h
  obtain ⟨-, state, hstate, hcurrent, stored, hstored, policy, -, placement, -, -, source,
    hsource, -, -, -, -, cluster, hcluster, -, rfl⟩ := h
  refine ⟨rfl, rfl, rfl, hstate, ?_, ⟨stored, hstored, rebuildReplicaSet_generation stored⟩,
    selectSourceReplica_mem hsource, hcluster⟩
  simpa [StateGenerationRecord.isCurrent] using hcurrent

/-- The effects of a plan as a batch: its operation, its destination and the set of both. -/
theorem TransferPlan.batch (plan : TransferPlan) (inputs : MutationInputs) :
    ReplicaBatch inputs (plan.destination inputs) false [plan.operation inputs]
      (plan.effects inputs) := by
  have hkey : (plan.destination inputs).key = plan.key := rfl
  constructor <;> simp only [hkey, TransferPlan.effects, bumped, bumpReplicaSetEffect]
  · simp [Effect.Silent]
  all_goals simp

theorem authorizeTransaction_batch {request : TransferRequest}
    {out : Outcome TransferAuthorization} (h : authorizeTransaction request inputs = .ok out) :
    ∃ plan, TransferPlan.Grounds plan inputs.plane request
      ∧ ReplicaBatch inputs (plan.destination inputs) false [plan.operation inputs]
        out.effects := by
  rw [authorizeTransaction, bind_eq_ok] at h
  obtain ⟨plan, hplan, h⟩ := h
  refine ⟨plan, planTransfer_grounds hplan, ?_⟩
  rw [(commit_ok h).1]
  exact plan.batch inputs

theorem authorizeTransaction_admissible {request : TransferRequest}
    {out : Outcome TransferAuthorization} (coherent : Coherent inputs.plane)
    (moves : request.destructiveMove = true → request.kind = .migration)
    (h : authorizeTransaction request inputs = .ok out) :
    Admissible (.authorize ⟨inputs.plane.nextId⟩) inputs.plane out.effects := by
  obtain ⟨plan, g, batch⟩ := authorizeTransaction_batch h
  have hoperation : (inputs.plane.applyAll out.effects).abs.operations ⟨inputs.plane.nextId⟩
      = some (plan.operation inputs).view :=
    abs_operations_applyAll (batch.operations _ List.mem_cons_self) fun w hw =>
      List.mem_singleton.mp (batch.mem_of_mem_putOperation hw)
  have hstate := Option.isSome_of_eq_some g.state
  obtain ⟨stored, hstored, hgeneration⟩ := g.set
  obtain ⟨hsource, hsourceKey⟩ := coherent.mem_replicasOfState.mp g.source
  refine ⟨batch.lawful coherent ?_ ?_, batch.grounded coherent hstate
    (Option.isSome_of_eq_some g.cluster) ?_⟩
  · exact .reserve _ _ ⟨inputs.plane.nextId⟩ rfl rfl ⟨rfl, rfl, rfl, rfl⟩
      ⟨_, hoperation, rfl⟩
  · intro o ho
    obtain rfl := List.mem_singleton.mp ho
    refine .authorize _ _ rfl rfl rfl ⟨_, abs_states g.state, g.current⟩ ?_
      ⟨_, abs_replicas hsource, hsourceKey⟩ ?_ ⟨_, batch.replica_eq, rfl, rfl, rfl, rfl, rfl⟩
    · rw [show (plan.operation inputs).view.key = plan.key from rfl, abs_setGeneration hstored,
        ← hgeneration]
      rfl
    · intro hdestructive
      exact g.kind.trans (moves (g.destructive ▸ hdestructive))
  · intro o ho
    obtain rfl := List.mem_singleton.mp ho
    exact hstate

theorem authorizeReplication_admissible {request : ReplicationRequest}
    {out : Outcome TransferAuthorization} (coherent : Coherent inputs.plane)
    (h : authorizeReplication request inputs = .ok out) :
    Admissible (.authorize ⟨inputs.plane.nextId⟩) inputs.plane out.effects :=
  authorizeTransaction_admissible coherent (by simp) h

theorem authorizeMigration_admissible {request : MigrationRequest}
    {out : Outcome TransferAuthorization} (coherent : Coherent inputs.plane)
    (h : authorizeMigration request inputs = .ok out) :
    Admissible (.authorize ⟨inputs.plane.nextId⟩) inputs.plane out.effects :=
  authorizeTransaction_admissible coherent (fun _ => rfl) h

end StateFabric
