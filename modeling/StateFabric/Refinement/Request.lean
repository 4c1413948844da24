import StateFabric.Library.Postcondition
import StateFabric.Refinement.Authorization
import StateFabric.Refinement.Report

/-!
# What a request checks and what it puts

Each body is walked once, check by check.  The walk ends in `Carried`: the request is executed
under the epoch it expects, it is acknowledged unless it is a report, and each of its effects is one
of the puts of `Put`.  A put revises a recorded replica, set or operation within what its creation
fixed, or belongs to the few requests that create records (`Mutation.charters`); and it is about a
state identity the request reaches (`Mutation.Reaches`).

What the development says about single effects, that charters are conserved, that copies are
stamped with the epoch, that other states are left alone, that commit identities are kept, follows
from `Put` by cases.
-/

/-! ## Rules for the checks of a body -/

namespace Fallible.Yields

open StateFabric

variable {ρ τ : Type} {Q : τ → Prop} {e : Error}

theorem rejectIf {condition : Bool} {f : Unit → Result τ} (h : condition = false → Yields (f ()) Q) :
    Yields (StateFabric.rejectIf condition e >>= f) Q :=
  .bind fun _ hok => h (rejectIf_eq_ok.mp hok)

theorem found {lookup : Option ρ} {f : ρ → Result τ} (h : ∀ a, lookup = some a → Yields (f a) Q) :
    Yields (StateFabric.found lookup e >>= f) Q :=
  .bind fun a hok => h a (found_eq_ok.mp hok)

end Fallible.Yields

namespace StateFabric

open Fallible Protocol ControlPlane MutationInputs

variable {m : Mutation} {e : Error} {transition : ReplicaTransition}

/-! ## What creation fixes -/

/-- What is fixed when a replica set is created: its identity and its requirements. -/
def ReplicaSetRecord.charter (s : ReplicaSetRecord) : ReplicaSetId × ReplicationRequirements :=
  (s.replicaSetId, s.requirements)

/-- What an authorization fixes: the replication policy with its generation, the destination
cluster and the reserved bytes. -/
def OperationRecord.charter (o : OperationRecord) :
    ReplicationPolicyId × ReplicationPolicyGeneration × ClusterId × SizeValue :=
  (o.replicationPolicyId, o.replicationPolicyGenerationRecorded, o.destinationCluster,
    o.transferBytes)

/-- An operation without its progress: what its authorization fixed. -/
def OperationRecord.terms (o : OperationRecord) : OperationRecord :=
  { o with
    state := .planned
    committedReplicaSetGeneration := {}
    lastEpoch := {}
    commitId := {}
    cancellation := .outcomeUnknown
    updatedAt := 0
    sourceRetired := false
    destinationVerified := false
    destinationCommitted := false
    recoveryRequired := false
    reason := []
    lastError := []
    journal := [] }

/-- The copy is stamped with the epoch, or flagged for revalidation. -/
def ReplicaRecord.Stamped (r : ReplicaRecord) (epoch : CoordinatorEpoch) : Prop :=
  r.lastEpoch = epoch ∨ r.evidence.revalidationRequired = true

@[simp] theorem OperationRecord.note_terms (o : OperationRecord) (line : Text) :
    (o.note line).terms = o.terms := by
  unfold OperationRecord.note
  split <;> rfl

@[simp] theorem OperationRecord.note_commitId (o : OperationRecord) (line : Text) :
    (o.note line).commitId = o.commitId := by
  unfold OperationRecord.note
  split <;> rfl

@[simp] theorem OperationRecord.note_state (o : OperationRecord) (line : Text) :
    (o.note line).state = o.state := congrArg OperationView.state (o.note_view line)

theorem OperationRecord.charter_eq_of_terms {o o' : OperationRecord} (h : o.terms = o'.terms) :
    o.charter = o'.charter := (congrArg OperationRecord.charter h :)

@[simp] theorem OperationRecord.note_charter (o : OperationRecord) (line : Text) :
    (o.note line).charter = o.charter := OperationRecord.charter_eq_of_terms (o.note_terms line)

/-! ## Requests -/

/-- The epoch a request expects; a request that carries none expects none. -/
def Mutation.expectedEpoch : Mutation → CoordinatorEpoch
  | .registerCluster registration => registration.expectedCoordinatorEpoch
  | .publishClusterEvidence update => update.expectedCoordinatorEpoch
  | .registerReplica registration => registration.expectedCoordinatorEpoch
  | .recordTransferProgress progress => progress.expectedCoordinatorEpoch
  | .recordTransferCompletion completion => completion.expectedCoordinatorEpoch
  | .verifyReplica report => report.expectedCoordinatorEpoch
  | .commitReplica commit => commit.expectedCoordinatorEpoch
  | .retireReplica transition | .quarantineReplica transition | .revalidateReplica transition =>
    transition.expectedCoordinatorEpoch
  | .authorizeReplication request => request.expectedCoordinatorEpoch
  | .authorizeMigration request => request.expectedCoordinatorEpoch
  | .commitOperation commit => commit.expectedCoordinatorEpoch
  | .cancelOperation cancellation => cancellation.expectedCoordinatorEpoch
  | .transferOwnership request => request.expectedCoordinatorEpoch
  | _ => {}

/-- The replica and the operation a transfer or verification report names. -/
def Mutation.report : Mutation → Option (ReplicaId × OperationId)
  | .recordTransferProgress progress => some (progress.replicaId, progress.operationId)
  | .recordTransferCompletion completion => some (completion.replicaId, completion.operationId)
  | .verifyReplica report => some (report.replicaId, report.operationId)
  | _ => none

/-- The requests that may write a charter. -/
def Mutation.charters : Mutation → Bool
  | .registerState _ | .publishStateGeneration _ | .registerReplica _
  | .authorizeReplication _ | .authorizeMigration _ => true
  | _ => false

theorem Mutation.charters_of_transfer {t : TransferRequest} (asks : m.transfer = some t) :
    m.charters = true := by
  cases m with
  | authorizeReplication | authorizeMigration => rfl
  | _ => cases asks

/-- The requests that write the requirements of a generation. -/
def Mutation.declares : Mutation → Bool
  | .registerState _ | .publishStateGeneration _ => true
  | _ => false

/-- The commit identity a request may leave on a replica or an operation. -/
def Mutation.commitIdentity : Mutation → Option CommitId
  | .commitReplica commit => some commit.commitId
  | .commitOperation commit => some commit.commitId
  | .transferOwnership request => some request.handoffCommit
  | _ => none

/-- The states of an operation whose destination commit is recorded. -/
def OperationState.concluded : OperationState → Bool
  | .committed | .addedToReplicaSet | .complete => true
  | _ => false

/-- The owner of a generation of one of the states is a copy of one of them. -/
def ControlPlane.OwnersWithin (p : ControlPlane) (about : StateId → Prop) : Prop :=
  ∀ (K : StateKey) (k : ReplicaId) (replica : ReplicaRecord), about K.stateId → p.abs.Owns K k →
    p.replicas[k]? = some replica → about replica.stateId

/-- The request reaches records of the given state identities only. -/
def Mutation.Reaches (p : ControlPlane) (about : StateId → Prop) : Mutation → Prop
  | .registerState spec | .publishStateGeneration spec => about spec.stateId
  | .commitStateGeneration stateId _ _ => about stateId
  | .registerReplica registration => about registration.stateId
  | .authorizeReplication request => about request.stateId
  | .authorizeMigration request => about request.stateId
  | .recordTransferProgress { replicaId := k, .. } | .recordTransferCompletion { replicaId := k, .. }
  | .verifyReplica { replicaId := k, .. } | .commitReplica { replicaId := k, .. }
  | .retireReplica { replicaId := k, .. } | .quarantineReplica { replicaId := k, .. }
  | .revalidateReplica { replicaId := k, .. } =>
    ∀ replica, p.replicas[k]? = some replica → about replica.stateId
  | .commitOperation { operationId := o, .. } | .cancelOperation { operationId := o, .. } =>
    p.OwnersWithin about ∧ ∀ op, p.operations[o]? = some op → ∀ k, k = op.sourceReplica
      ∨ k = op.destinationReplica → ∀ replica, p.replicas[k]? = some replica →
      about replica.stateId
  | .transferOwnership request => p.OwnersWithin about ∧ about request.stateId
  | .advanceTime _ | .advanceEpoch => True
  | _ => ∀ s, about s

theorem Mutation.reaches_true (p : ControlPlane) (m : Mutation) : m.Reaches p fun _ => True := by
  cases m <;> simp [Mutation.Reaches, ControlPlane.OwnersWithin]

/-! ## Puts -/

/-- The records that are of no state. -/
def Effect.Shared : Effect → Prop
  | .putCluster _ | .putCompatibility _ | .putPlacementPolicy _ | .putReplicationPolicy _ => True
  | _ => False

/-- What a request keeps of a replica it revises: its identity and charter, and its commitment
unless the request commits it. -/
structure Revised (inputs : MutationInputs) (m : Mutation) (old new : ReplicaRecord) : Prop where
  id : new.replicaId = old.replicaId
  charter : new.charter = old.charter
  stamped : new.Stamped inputs.plane.coordinatorEpoch
  commit : (new.commitRecorded = old.commitRecorded ∧ new.commitId = old.commitId)
    ∨ some new.commitId = m.commitIdentity

/-- What a replica keeps unless it is committed. -/
def ReplicaRecord.commitment (r : ReplicaRecord) :
    ReplicaId × (StateKey × ReplicaSetId) × Bool × CommitId :=
  (r.replicaId, r.charter, r.commitRecorded, r.commitId)

theorem Revised.of_commitment {inputs : MutationInputs} {old new : ReplicaRecord}
    (kept : new.commitment = old.commitment) (stamped : new.Stamped inputs.plane.coordinatorEpoch) :
    Revised inputs m old new := by
  simp only [ReplicaRecord.commitment, Prod.mk.injEq] at kept
  exact ⟨kept.1, kept.2.1, stamped, .inl kept.2.2⟩

/-- What a request puts, when it acts on the given state identities. -/
inductive Put (inputs : MutationInputs) (m : Mutation) (about : StateId → Prop) : Effect → Prop
  | counters (counters : FabricCounters) : Put inputs m about (.putCounters counters)
  | next (value : UInt64) : Put inputs m about (.setNextId value)
  | epoch (value : CoordinatorEpoch) : Put inputs m about (.setEpoch value)
  | shared {e : Effect} (kind : e.Shared) (all : ∀ s, about s) : Put inputs m about e
  | state {K : StateKey} {old new : StateGenerationRecord}
      (recorded : inputs.plane.states[K]? = some old) (key : new.key = old.key)
      (requirements : new.replicationRequirements = old.replicationRequirements)
      (acts : about old.stateId) : Put inputs m about (.putState new)
  | replica {k : ReplicaId} {old new : ReplicaRecord}
      (recorded : inputs.plane.replicas[k]? = some old) (revised : Revised inputs m old new)
      (acts : about old.stateId) : Put inputs m about (.putReplica new)
  | bump {K : StateKey} (registered : inputs.plane.states[K]?.isSome) (acts : about K.stateId)
      (adv : Bool) : Put inputs m about (.putReplicaSet (inputs.bumped K adv))
  | set {K : StateKey} {old new : ReplicaSetRecord}
      (recorded : inputs.plane.replicaSets[K]? = some old) (key : new.key = old.key)
      (charter : new.charter = old.charter)
      (count : new.authoritativeCount = old.authoritativeCount) (acts : about K.stateId) :
      Put inputs m about (.putReplicaSet new)
  | operation {o : OperationId} {old new : OperationRecord}
      (recorded : inputs.plane.operations[o]? = some old)
      (id : new.operationId = old.operationId) (terms : new.terms = old.terms)
      (commit : (new.commitId = old.commitId
          ∧ (new.state.concluded = true → old.state.concluded = true))
        ∨ some new.commitId = m.commitIdentity) : Put inputs m about (.putOperation new)
  | ownership {o : OwnershipRecord} (acts : about o.stateId) : Put inputs m about (.putOwnership o)
  | newState {r : StateGenerationRecord} (declares : m.declares = true) (acts : about r.stateId) :
      Put inputs m about (.putState r)
  | newSet {s : ReplicaSetRecord} (declares : m.declares = true) (acts : about s.stateId)
      (empty : s.authoritativeCount = 0) : Put inputs m about (.putReplicaSet s)
  | newReplica {r : ReplicaRecord} (charters : m.charters = true) (acts : about r.stateId)
      (fresh : inputs.plane.replicas[r.replicaId]? = none)
      (stamped : r.Stamped inputs.plane.coordinatorEpoch) (uncommitted : r.commitRecorded = false) :
      Put inputs m about (.putReplica r)
  | planned {t : TransferRequest} {plan : TransferPlan} {e : Effect} (asks : m.transfer = some t)
      (made : planTransfer t inputs = .ok plan) (put : e ∈ plan.effects inputs)
      (acts : about t.key.stateId) : Put inputs m about e

/-- How an executed request ends. -/
structure Carried {ρ : Type} (inputs : MutationInputs) (m : Mutation) (about : StateId → Prop)
    (out : Outcome ρ) : Prop where
  epoch : staleEpoch m.expectedEpoch inputs.plane.coordinatorEpoch = false
  acknowledged : m.report = none → out.status.isOk = true
  effects : ∀ e ∈ out.effects, Put inputs m about e

section Rules

variable {ρ : Type} {inputs : MutationInputs} {m : Mutation} {about : StateId → Prop}
  {es : List Effect}

theorem carried_commit {response : ρ}
    (epoch : staleEpoch m.expectedEpoch inputs.plane.coordinatorEpoch = false)
    (effects : ∀ e ∈ es, Put inputs m about e) :
    Yields (inputs.commit es response) (Carried inputs m about) :=
  .ok ⟨epoch, fun _ => rfl, effects⟩

theorem carried_nil {response : ρ}
    (epoch : staleEpoch m.expectedEpoch inputs.plane.coordinatorEpoch = false) :
    Yields (inputs.commit [] response) (Carried inputs m about) := carried_commit epoch (by simp)

theorem carried_commitBeforeReturn (report : m.report ≠ none)
    (epoch : staleEpoch m.expectedEpoch inputs.plane.coordinatorEpoch = false)
    (effects : ∀ e ∈ es, Put inputs m about e) :
    Yields (inputs.commitBeforeReturn (ρ := ρ) es e) (Carried inputs m about) :=
  .ok ⟨epoch, fun hnone => absurd hnone report, effects⟩

theorem Put.forall_mem_counters (counters : FabricCounters) :
    ∀ e ∈ [Effect.putCounters counters], Put inputs m about e :=
  List.forall_mem_singleton.mpr (.counters counters)

theorem Put.forall_mem_replica (coherent : Coherent inputs.plane) {k : ReplicaId}
    {old new : ReplicaRecord} (recorded : inputs.plane.replicas[k]? = some old)
    (revised : Revised inputs m old new) (acts : about old.stateId) (adv : Bool)
    {rest : List Effect} (behind : ∀ e ∈ rest, Put inputs m about e) :
    ∀ e ∈ .putReplica new :: bumpReplicaSetEffect inputs new.key adv :: rest,
      Put inputs m about e := by
  have hkey : new.key = old.key := congrArg Prod.fst revised.charter
  simp only [List.forall_mem_cons]
  exact ⟨.replica recorded revised acts,
    hkey ▸ .bump (coherent.replicas recorded).2.state acts adv, behind⟩

theorem Put.forall_mem_advance (o : OperationId) (generation : OperationGeneration)
    {next : OperationState} (inconclusive : next.concluded = false) (note : Text) :
    ∀ e ∈ advanceOperation inputs o generation next note, Put inputs m about e := by
  unfold advanceOperation
  cases hop : inputs.plane.operations[o]? with
  | none => simp
  | some =>
    simp only
    split
    · simp
    · split
      · simp
      · refine List.forall_mem_singleton.mpr (.operation hop ?_ ?_ (.inl ⟨?_, ?_⟩))
        · exact OperationRecord.note_operationId _ _
        · exact OperationRecord.note_terms _ _
        · exact OperationRecord.note_commitId _ _
        · simp [inconclusive]

theorem Put.forall_mem_fail (o : OperationId) (reason : Text) :
    ∀ e ∈ failOperation inputs o reason, Put inputs m about e := by
  unfold failOperation
  cases hop : inputs.plane.operations[o]? with
  | none => simp
  | some =>
    simp only
    split
    · simp
    · refine List.forall_mem_singleton.mpr (.operation hop ?_ ?_ (.inl ⟨?_, ?_⟩))
      · exact OperationRecord.note_operationId _ _
      · exact OperationRecord.note_terms _ _
      · exact OperationRecord.note_commitId _ _
      · simp [OperationState.concluded]

theorem Put.forall_mem_fence (coherent : Coherent inputs.plane) (all : ∀ s, about s)
    (fence : Fence) {fenced : List ReplicaRecord}
    (recorded : ∀ r ∈ fenced, r ∈ inputs.plane.replicaList) :
    ∀ e ∈ fenced.flatMap (fenceEffects inputs fence), Put inputs m about e := by
  intro e he
  obtain ⟨r, hr, he⟩ := List.mem_flatMap.mp he
  rcases mem_fenceEffects.mp he with rfl | ⟨set, hset, rfl⟩
  · exact .replica (coherent.mem_replicaList.mp (recorded r hr))
      (.of_commitment rfl (.inr rfl)) (all _)
  · exact .set hset rfl rfl rfl (all _)

/-- A commit plan revises the copy it commits and the owner it demotes. -/
theorem PlannedCommit.put {k : ReplicaId} {target : ReplicaRecord} {commitId : CommitId}
    {makeOwner takeover : Bool} {plan : CommitPlan} {authority : ReplicaAuthorityState}
    {demoted : Option ReplicaRecord} {ownership : Option OwnershipRecord}
    (c : PlannedCommit inputs target commitId makeOwner takeover plan authority demoted ownership)
    (coherent : Coherent inputs.plane) (recorded : inputs.plane.replicas[k]? = some target)
    (commits : some commitId = m.commitIdentity) (acts : about target.stateId)
    (owners : takeover = true → inputs.plane.OwnersWithin about) :
    ∀ e ∈ plan.effects, Put inputs m about e := by
  obtain ⟨set, hcommitted⟩ := c.committed
  have hrevised : Revised inputs m target plan.committed := by
    rw [hcommitted]
    exact ⟨rfl, rfl, .inl rfl, .inr commits⟩
  have hput : ∀ e ∈ [.putReplica plan.committed, bumpReplicaSetEffect inputs plan.committed.key true],
      Put inputs m about e := Put.forall_mem_replica coherent recorded hrevised acts true (by simp)
  intro e he
  rcases (c.mem e).mp he with ⟨d, hd, rfl⟩ | rfl | rfl | ⟨o, ho, rfl⟩
  · rcases c.owner with ⟨-, -, -, hdemoted⟩ | ⟨-, -, -, hdemoted⟩
    · rw [hdemoted] at hd
      obtain ⟨hrecorded, -, -, howns⟩ := coherent.mem_ownerToDemote.mp hd
      have htakeover : takeover = true := by
        refine Bool.eq_true_of_not_eq_false fun hpeaceful => ?_
        rw [← hdemoted, c.peaceful hpeaceful] at hd
        cases hd
      exact .replica hrecorded (.of_commitment rfl (.inl rfl))
        (owners htakeover _ _ _ acts howns hrecorded)
    · rw [hdemoted] at hd
      cases hd
  · exact hput _ (by simp)
  · exact hput _ (by simp [bumped, bumpReplicaSetEffect])
  · rcases c.owner with ⟨-, -, ⟨o', ho', hkey, -⟩, -⟩ | ⟨-, -, hnone, -⟩
    · obtain rfl := OrderedMap.some_unique ho' ho
      have hstate : o'.stateId = target.stateId := congrArg StateKey.stateId hkey
      exact .ownership (hstate ▸ acts)
    · rw [hnone] at ho
      cases ho

end Rules

/-! ## Bodies -/

section Bodies

variable {inputs : MutationInputs} {about : StateId → Prop}

/-! ### Generations, compatibility and policy -/

theorem registerState_carried {spec : StateGenerationSpec} (acts : about spec.stateId) :
    Yields (registerState spec inputs) (Carried inputs (.registerState spec) about) := by
  unfold registerState
  refine .bind fun _ _ => ?_
  split
  · exact .rejectIf fun _ => carried_nil rfl
  · refine .rejectIf fun _ => .rejectIf fun _ => carried_commit rfl ?_
    simp only [List.forall_mem_cons]
    exact ⟨.newState rfl acts, .newSet rfl acts rfl, .counters _, .next _, by simp⟩

theorem publishStateGeneration_carried {spec : StateGenerationSpec} (acts : about spec.stateId) :
    Yields (publishStateGeneration spec inputs)
      (Carried inputs (.publishStateGeneration spec) about) := by
  unfold publishStateGeneration
  refine .bind fun _ _ => .found fun existing _ => .ite (fun _ => ?_) fun _ => ?_
  · exact .rejectIf fun _ => carried_nil rfl
  · exact carried_commit rfl (List.forall_mem_singleton.mpr (.newState rfl acts))

theorem commitStateGeneration_carried (coherent : Coherent inputs.plane) {stateId : StateId}
    {generation : StateGeneration} {commitId : CommitId} (acts : about stateId) :
    Yields (commitStateGeneration stateId generation commitId inputs)
      (Carried inputs (.commitStateGeneration stateId generation commitId) about) := by
  unfold commitStateGeneration
  refine .rejectIf fun _ => .found fun existing recorded => .ite (fun _ => ?_) fun _ => ?_
  · exact .rejectIf fun _ => carried_nil rfl
  have hkey := coherent.states recorded
  have hstate : existing.stateId = stateId := congrArg StateKey.stateId hkey
  refine .rejectIf fun _ => .rejectIf fun _ => carried_commit rfl ?_
  simp only [List.forall_mem_append, List.forall_mem_cons]
  refine ⟨fun e he => ?_, .state recorded rfl rfl (hstate ▸ acts), .counters _, by simp⟩
  obtain ⟨old, hold, he⟩ := List.mem_flatMap.mp he
  have hmem : old ∈ inputs.plane.generationsOf stateId := by
    split at hold
    · simp at hold
    · exact List.mem_of_mem_filter (List.mem_of_mem_filter hold)
  obtain ⟨hrecorded, hid⟩ := coherent.mem_generationsOf.mp hmem
  have hacts : about old.stateId := hid ▸ acts
  rcases mem_supersede.mp he with rfl | ⟨r, hr, rfl⟩ | ⟨set, hset, rfl⟩
  · exact .state hrecorded rfl rfl hacts
  · obtain ⟨hreplica, hof⟩ := coherent.mem_replicasOfState.mp hr
    have hr : r.stateId = old.stateId := congrArg StateKey.stateId hof
    exact .replica hreplica (.of_commitment rfl (.inl rfl)) (hr ▸ hacts)
  · exact .set hset rfl rfl rfl hacts

theorem publishCompatibility_carried {record : CompatibilityRecord} (all : ∀ s, about s) :
    Yields (publishCompatibility record inputs)
      (Carried inputs (.publishCompatibility record) about) := by
  unfold publishCompatibility
  refine .rejectIf fun _ => .bind fun _ _ => .rejectIf fun _ => carried_commit rfl ?_
  exact List.forall_mem_singleton.mpr (.shared trivial all)

theorem publishPlacementPolicy_carried {policy : PlacementPolicyRecord} (all : ∀ s, about s) :
    Yields (publishPlacementPolicy policy inputs)
      (Carried inputs (.publishPlacementPolicy policy) about) := by
  unfold publishPlacementPolicy
  refine .rejectIf fun _ => .rejectIf fun _ => carried_commit rfl ?_
  exact List.forall_mem_singleton.mpr (.shared trivial all)

theorem publishReplicationPolicy_carried {policy : ReplicationPolicyRecord}
    (all : ∀ s, about s) :
    Yields (publishReplicationPolicy policy inputs)
      (Carried inputs (.publishReplicationPolicy policy) about) := by
  unfold publishReplicationPolicy
  refine .rejectIf fun _ => .rejectIf fun _ => carried_commit rfl ?_
  exact List.forall_mem_singleton.mpr (.shared trivial all)

/-! ### Clusters -/

theorem Put.forall_mem_cluster (coherent : Coherent inputs.plane) (all : ∀ s, about s)
    (record : ClusterRecord) (fence : Fence) {fenced : List ReplicaRecord}
    (recorded : ∀ r ∈ fenced, r ∈ inputs.plane.replicaList) {rest : List Effect}
    (behind : ∀ e ∈ rest, Put inputs m about e) :
    ∀ e ∈ .putCluster record :: fenced.flatMap (fenceEffects inputs fence) ++ rest,
      Put inputs m about e := by
  simp only [List.cons_append, List.forall_mem_cons, List.forall_mem_append]
  exact ⟨.shared trivial all, Put.forall_mem_fence coherent all fence recorded, behind⟩

theorem registerCluster_carried (coherent : Coherent inputs.plane)
    {registration : ClusterRegistration} (all : ∀ s, about s) :
    Yields (registerCluster registration inputs)
      (Carried inputs (.registerCluster registration) about) := by
  unfold registerCluster
  refine .rejectIf fun _ => .rejectIf fun epoch => .bind fun _ _ => .rejectIf fun _ => ?_
  split
  · refine carried_commit epoch ?_
    simp only [List.forall_mem_cons]
    exact ⟨.shared trivial all, .counters _, .next _, by simp⟩
  · refine carried_commit epoch (Put.forall_mem_cluster coherent all _ _ ?_ ?_)
    · intro r hr
      split at hr
      · exact List.mem_of_mem_filter hr
      · cases hr
    · simp only [List.forall_mem_cons]
      exact ⟨.counters _, .next _, by simp⟩

theorem publishClusterEvidence_carried {update : ClusterEvidenceUpdate} (all : ∀ s, about s) :
    Yields (publishClusterEvidence update inputs)
      (Carried inputs (.publishClusterEvidence update) about) := by
  unfold publishClusterEvidence
  refine .found fun existing _ => .rejectIf fun epoch => .rejectIf fun _ => .rejectIf fun _ =>
    carried_commit epoch ?_
  simp only [List.forall_mem_cons]
  exact ⟨.shared trivial all, .next _, by simp⟩

theorem markClusterUnreachable_carried (coherent : Coherent inputs.plane) {clusterId : ClusterId}
    {incarnation : ClusterIncarnationId} {reason : Text} (all : ∀ s, about s) :
    Yields (markClusterUnreachable clusterId incarnation reason inputs)
      (Carried inputs (.markClusterUnreachable clusterId incarnation reason) about) := by
  unfold markClusterUnreachable
  refine .found fun existing _ => .rejectIf fun _ => .ite (fun _ => carried_nil rfl) fun _ => ?_
  exact .bind fun _ _ => carried_commit rfl
    (Put.forall_mem_cluster coherent all _ _ (fun _ => List.mem_of_mem_filter)
      (Put.forall_mem_counters _))

theorem retireCluster_carried (coherent : Coherent inputs.plane) {clusterId : ClusterId}
    {incarnation : ClusterIncarnationId} (all : ∀ s, about s) :
    Yields (retireCluster clusterId incarnation inputs)
      (Carried inputs (.retireCluster clusterId incarnation) about) := by
  unfold retireCluster
  exact .found fun existing _ => .rejectIf fun _ => carried_commit rfl
    (Put.forall_mem_cluster coherent all _ _ (fun _ => List.mem_of_mem_filter)
      (Put.forall_mem_counters _))

/-! ### Replicas -/

theorem registerReplica_carried {registration : ReplicaRegistration}
    (acts : about registration.stateId) :
    Yields (registerReplica registration inputs)
      (Carried inputs (.registerReplica registration) about) := by
  unfold registerReplica
  refine .found fun state registered => .rejectIf fun epoch => .rejectIf fun _ =>
    .rejectIf fun _ => .found fun cluster _ => .rejectIf fun _ => .rejectIf fun _ => ?_
  split
  · exact .rejectIf fun _ => carried_nil epoch
  · refine .rejectIf fun unused => carried_commit epoch ?_
    have hunused := Option.isNone_iff_eq_none.mp (Option.isSome_eq_false_iff.mp unused)
    simp only [List.forall_mem_cons]
    exact ⟨.newReplica rfl acts hunused (.inl rfl) rfl,
      .bump (Option.isSome_of_eq_some registered) acts false, .counters _, .next _, by simp⟩

theorem guardReplica_recorded (p : ControlPlane) (k : ReplicaId) (generation : ReplicaGeneration)
    (incarnation : ClusterIncarnationId) (boot : WorkerBootId) (epoch : CoordinatorEpoch) :
    Yields (guardReplica p k generation incarnation boot epoch) fun replica =>
      p.replicas[k]? = some replica ∧ staleEpoch epoch p.coordinatorEpoch = false := by
  unfold guardReplica
  exact .found fun existing recorded => .rejectIf fun _ => .rejectIf fun current =>
    .rejectIf fun _ => .found fun cluster _ => .rejectIf fun _ => .rejectIf fun _ =>
    .rejectIf fun _ => .ok ⟨recorded, current⟩

section Copies

variable (coherent : Coherent inputs.plane)
include coherent

theorem recordTransferProgress_carried {progress : TransferProgress}
    (acts : Mutation.Reaches inputs.plane about (.recordTransferProgress progress)) :
    Yields (recordTransferProgress progress inputs)
      (Carried inputs (.recordTransferProgress progress) about) := by
  unfold recordTransferProgress
  refine .bind fun replica hguard => .bind fun _ _ => .rejectIf fun _ => .rejectIf fun _ => ?_
  obtain ⟨recorded, epoch⟩ := (guardReplica_recorded ..).holds hguard
  refine .ite (fun _ => carried_commitBeforeReturn (by simp [Mutation.report]) epoch ?_) fun _ =>
    carried_commit epoch ?_
  · refine List.forall_mem_append.mpr ⟨Put.forall_mem_fail _ _, Put.forall_mem_replica coherent
      recorded ?_ (acts _ recorded) false (Put.forall_mem_counters _)⟩
    exact .of_commitment rfl (.inl rfl)
  · refine List.forall_mem_append.mpr ⟨Put.forall_mem_advance _ _ (by decide) _,
      Put.forall_mem_replica coherent recorded ?_ (acts _ recorded) false
        (Put.forall_mem_counters _)⟩
    exact .of_commitment rfl (.inl rfl)

theorem recordTransferCompletion_carried {completion : TransferCompletion}
    (acts : Mutation.Reaches inputs.plane about (.recordTransferCompletion completion)) :
    Yields (recordTransferCompletion completion inputs)
      (Carried inputs (.recordTransferCompletion completion) about) := by
  unfold recordTransferCompletion
  refine .bind fun replica hguard => .bind fun _ _ => .rejectIf fun _ => .rejectIf fun _ => ?_
  obtain ⟨recorded, epoch⟩ := (guardReplica_recorded ..).holds hguard
  refine .ite (fun _ => carried_commitBeforeReturn (by simp [Mutation.report]) epoch ?_) fun _ =>
    .ite (fun _ => carried_commitBeforeReturn (by simp [Mutation.report]) epoch ?_) fun _ =>
      carried_commit epoch (List.forall_mem_append.mpr
        ⟨Put.forall_mem_advance _ _ (by decide) _, ?_⟩)
  all_goals
    refine Put.forall_mem_replica coherent recorded ?_ (acts _ recorded) false
      (Put.forall_mem_counters _)
    exact .of_commitment rfl (.inl rfl)

namespace Verification

/-- The replica as revised so far is stamped and keeps its commitment. -/
def Keeps (v : Verification) (inputs : MutationInputs) (old : ReplicaRecord) : Prop :=
  v.revised.commitment = old.commitment ∧ v.revised.lastEpoch = inputs.plane.coordinatorEpoch

variable {v : Verification} {k : ReplicaId} {old : ReplicaRecord} {report : ReplicaVerification}
  (recorded : inputs.plane.replicas[k]? = some old)
  (epoch : staleEpoch report.expectedCoordinatorEpoch inputs.plane.coordinatorEpoch = false)
  (acts : about old.stateId) (kept : v.Keeps inputs old)

include recorded acts kept

theorem closingEffects_put {front : List Effect}
    (ahead : ∀ e ∈ front, Put inputs (.verifyReplica report) about e) :
    ∀ e ∈ front ++ v.closingEffects inputs, Put inputs (.verifyReplica report) about e := by
  refine List.forall_mem_append.mpr ⟨ahead, Put.forall_mem_replica coherent recorded
    (.of_commitment kept.1 (.inl kept.2)) acts false ?_⟩
  simp only [List.forall_mem_cons]
  exact ⟨.counters _, .next _, by simp⟩

include epoch

theorem persistAndFail_carried (code : ErrorCode) (message : Text) :
    Yields (v.persistAndFail inputs code message)
      (Carried inputs (.verifyReplica report) about) :=
  carried_commitBeforeReturn (by simp [Mutation.report]) epoch (closingEffects_put coherent recorded
    acts kept (Put.forall_mem_advance _ _ (by decide) _))

theorem prepare_carried :
    Yields (v.prepare inputs) (Carried inputs (.verifyReplica report) about) :=
  carried_commit epoch (closingEffects_put coherent recorded acts kept
    (Put.forall_mem_advance _ _ (by decide) _))

theorem judgeCompatibility_carried (requirement : CompatibilityRequirement)
    (replica : ReplicaRecord) :
    Yields (v.judgeCompatibility inputs requirement replica)
      (Carried inputs (.verifyReplica report) about) := by
  have hjudged : v.Judged inputs _ _ := v.judgeCompatibility_judged requirement replica
  generalize v.finding inputs requirement replica = found at hjudged
  generalize v.judgeCompatibility inputs requirement replica = result at hjudged
  cases hjudged with
  | compatible =>
    refine prepare_carried coherent recorded epoch acts ?_
    exact kept
  | incompatible | undecided _ _ =>
    refine persistAndFail_carried coherent recorded epoch acts ?_ _ _
    exact kept

end Verification

theorem verifyReplica_carried {report : ReplicaVerification}
    (acts : Mutation.Reaches inputs.plane about (.verifyReplica report)) :
    Yields (verifyReplica report inputs) (Carried inputs (.verifyReplica report) about) := by
  unfold verifyReplica
  refine .bind fun replica hguard => .rejectIf fun _ => ?_
  obtain ⟨recorded, epoch⟩ := (guardReplica_recorded ..).holds hguard
  have hfail : ∀ {w : Verification}, w.Keeps inputs replica → ∀ code message,
      Yields (w.persistAndFail inputs code message) (Carried inputs (.verifyReplica report) about) :=
    fun hkept => Verification.persistAndFail_carried coherent recorded epoch (acts _ recorded) hkept
  refine .ite (fun _ => hfail ?_ _ _) fun _ => .ite (fun _ => hfail ?_ _ _) fun _ =>
    .ite (fun _ => hfail ?_ _ _) fun _ => ?_
  · exact ⟨rfl, rfl⟩
  · exact ⟨rfl, rfl⟩
  · exact ⟨rfl, rfl⟩
  · refine Verification.judgeCompatibility_carried coherent recorded epoch (acts _ recorded) ?_ _ _
    exact ⟨rfl, rfl⟩

theorem commitReplica_carried {commit : ReplicaCommit}
    (acts : Mutation.Reaches inputs.plane about (.commitReplica commit)) :
    Yields (commitReplica commit inputs) (Carried inputs (.commitReplica commit) about) := by
  unfold commitReplica
  refine .rejectIf fun _ => .found fun existing recorded => .rejectIf fun _ =>
    .rejectIf fun epoch => .ite (fun _ => .rejectIf fun _ => carried_nil epoch) fun _ => ?_
  refine .found fun state _ => .found fun cluster _ => .rejectIf fun _ => .found fun set _ =>
    .rejectIf fun _ => .rejectIf fun _ => .rejectIf fun _ => .rejectIf fun _ => .rejectIf fun _ =>
    .rejectIf fun _ => .bind fun plan hplan => carried_commit epoch ?_
  obtain ⟨authority, demoted, ownership, planned⟩ := planAuthoritativeCommit_spec hplan
  exact List.forall_mem_append.mpr ⟨planned.put coherent recorded rfl (acts _ recorded) (by simp),
    Put.forall_mem_counters _⟩

theorem retireReplica_carried
    (acts : Mutation.Reaches inputs.plane about (.retireReplica transition)) :
    Yields (retireReplica transition inputs)
      (Carried inputs (.retireReplica transition) about) := by
  unfold retireReplica
  refine .bind fun replica hguard => .rejectIf fun _ => ?_
  obtain ⟨recorded, epoch⟩ := (guardReplica_recorded ..).holds hguard
  refine carried_commit epoch (Put.forall_mem_replica coherent recorded ?_ (acts _ recorded) true
    (Put.forall_mem_counters _))
  exact .of_commitment rfl (.inl rfl)

theorem quarantineReplica_carried
    (acts : Mutation.Reaches inputs.plane about (.quarantineReplica transition)) :
    Yields (quarantineReplica transition inputs)
      (Carried inputs (.quarantineReplica transition) about) := by
  unfold quarantineReplica
  refine .bind fun replica hguard => ?_
  obtain ⟨recorded, epoch⟩ := (guardReplica_recorded ..).holds hguard
  refine carried_commit epoch (Put.forall_mem_replica coherent recorded ?_ (acts _ recorded) true
    (Put.forall_mem_counters _))
  exact .of_commitment rfl (.inl rfl)

theorem revalidateReplica_carried
    (acts : Mutation.Reaches inputs.plane about (.revalidateReplica transition)) :
    Yields (revalidateReplica transition inputs)
      (Carried inputs (.revalidateReplica transition) about) := by
  unfold revalidateReplica
  refine .found fun existing recorded => .rejectIf fun _ => .rejectIf fun epoch =>
    .rejectIf fun _ => .found fun cluster _ => .rejectIf fun _ => .rejectIf fun _ =>
    .rejectIf fun _ => .rejectIf fun _ => .rejectIf fun _ => .found fun state _ =>
    .rejectIf fun _ => carried_commit epoch ?_
  have hrebound : (reboundReplica existing cluster).commitment = existing.commitment := by
    unfold reboundReplica
    split <;> rfl
  refine Put.forall_mem_replica coherent recorded ?_ (acts _ recorded) true
    (List.forall_mem_singleton.mpr (.next _))
  exact .of_commitment hrebound (.inl rfl)

end Copies

/-! ### Operations and ownership -/

theorem authorizeTransaction_carried {request : TransferRequest} (asks : m.transfer = some request)
    (expects : m.expectedEpoch = request.expectedEpoch) (acts : about request.key.stateId) :
    Yields (authorizeTransaction request inputs) (Carried inputs m about) := by
  unfold authorizeTransaction
  refine .bind fun plan made => carried_commit ?_ fun e put => .planned asks made put acts
  rw [planTransfer, rejectIf_bind_eq_ok] at made
  exact expects ▸ made.1

/-- The checks a commit and a cancellation share find the operation under the epoch and the
generation expected. -/
theorem guardOperation_recorded (p : ControlPlane) (o : OperationId)
    (generation : OperationGeneration) (epoch : CoordinatorEpoch) (subject : Text) :
    Yields (guardOperation p o generation epoch subject) fun op =>
      p.operations[o]? = some op ∧ staleEpoch epoch p.coordinatorEpoch = false
        ∧ (generation.valid && generation != op.operationGeneration) = false := by
  unfold guardOperation
  exact .found fun existing recorded => .rejectIf fun current => .rejectIf fun named =>
    .ok ⟨recorded, current, named⟩

theorem commitOperation_carried (coherent : Coherent inputs.plane) {commit : OperationCommit}
    (reaches : Mutation.Reaches inputs.plane about (.commitOperation commit)) :
    Yields (commitOperation commit inputs) (Carried inputs (.commitOperation commit) about) := by
  obtain ⟨owners, acts⟩ := reaches
  unfold commitOperation
  refine .bind fun existing hguard => ?_
  obtain ⟨recorded, epoch, -⟩ := (guardOperation_recorded ..).holds hguard
  refine .ite (fun _ => .rejectIf fun _ => carried_nil epoch) fun _ => ?_
  refine .rejectIf fun _ => .found fun destination copied => .found fun state _ =>
    .found fun set _ => .rejectIf fun _ => .rejectIf fun _ => .rejectIf fun _ => .rejectIf fun _ =>
    .rejectIf fun _ => .found fun cluster _ => .rejectIf fun _ => .rejectIf fun _ =>
    .bind fun plan hplan => ?_
  obtain ⟨authority, demoted, ownership, planned⟩ := planAuthoritativeCommit_spec hplan
  have hplanned := planned.put (m := .commitOperation commit) coherent copied rfl
    (acts _ recorded _ (.inr rfl) _ copied) fun _ => owners
  simp only [operationCommitOutcome]
  cases hretiring : retiringSource inputs.plane existing commit plan.committed with
  | none =>
    refine carried_commit epoch (List.forall_mem_append.mpr ⟨hplanned, ?_⟩)
    simp only [List.forall_mem_cons]
    exact ⟨.operation recorded (OperationRecord.note_operationId _ _)
      (OperationRecord.note_terms _ _) (.inr (congrArg some (OperationRecord.note_commitId _ _))),
      .counters _, by simp⟩
  | some =>
    obtain ⟨-, hsource, -⟩ := retiringSource_spec hretiring
    refine carried_commit epoch (List.forall_mem_append.mpr ⟨hplanned, ?_⟩)
    refine Put.forall_mem_replica coherent hsource ?_ (acts _ recorded _ (.inl rfl) _ hsource) true ?_
    · exact .of_commitment rfl (.inl rfl)
    simp only [List.forall_mem_cons]
    refine ⟨.operation recorded ?_ ?_ (.inr (congrArg some ?_)), .counters _, by simp⟩
    · exact (OperationRecord.note_operationId _ _).trans (OperationRecord.note_operationId _ _)
    · exact (OperationRecord.note_terms _ _).trans (OperationRecord.note_terms _ _)
    · exact (OperationRecord.note_commitId _ _).trans (OperationRecord.note_commitId _ _)

theorem cancelOperation_carried (coherent : Coherent inputs.plane)
    {cancellation : OperationCancellation}
    (reaches : Mutation.Reaches inputs.plane about (.cancelOperation cancellation)) :
    Yields (cancelOperation cancellation inputs)
      (Carried inputs (.cancelOperation cancellation) about) := by
  unfold cancelOperation
  refine .bind fun existing hguard => ?_
  obtain ⟨recorded, epoch, -⟩ := (guardOperation_recorded ..).holds hguard
  have hcancelled : Put inputs (.cancelOperation cancellation) about
      (.putOperation (cancelledOperation inputs existing cancellation.reason)) :=
    .operation recorded (OperationRecord.note_operationId _ _) (OperationRecord.note_terms _ _)
      (.inl ⟨OperationRecord.note_commitId _ _, by simp [cancelledOperation, OperationState.concluded]⟩)
  refine .ite (fun _ => carried_commit epoch (List.forall_mem_singleton.mpr ?_)) fun _ =>
    .ite (fun _ => carried_nil epoch) fun _ => ?_
  · exact .operation recorded (OperationRecord.note_operationId _ _)
      (OperationRecord.note_terms _ _) (.inl ⟨OperationRecord.note_commitId _ _, by simp⟩)
  split
  · refine carried_commit epoch ?_
    simp only [List.forall_mem_cons]
    exact ⟨hcancelled, .counters _, by simp⟩
  · rename_i destination hdestination
    obtain ⟨copied, -⟩ := Option.filter_eq_some_iff.mp hdestination
    refine carried_commit epoch (Put.forall_mem_replica coherent copied ?_
      (reaches.2 _ recorded _ (.inr rfl) _ copied) true ?_)
    · exact .of_commitment rfl (.inl rfl)
    simp only [List.forall_mem_cons]
    exact ⟨hcancelled, .counters _, by simp⟩

theorem transferOwnership_carried (coherent : Coherent inputs.plane)
    {request : OwnershipTransferRequest} (owners : inputs.plane.OwnersWithin about)
    (acts : about request.stateId) :
    Yields (transferOwnership request inputs)
      (Carried inputs (.transferOwnership request) about) := by
  unfold transferOwnership
  refine .found fun state _ => .rejectIf fun _ => .rejectIf fun epoch => .found fun ownership held =>
    .rejectIf fun inactive => .ite (fun _ => carried_nil epoch) fun _ => ?_
  refine .rejectIf fun _ => .found fun newOwner recorded => .rejectIf fun _ => .rejectIf fun _ =>
    .rejectIf fun _ => .rejectIf fun other => .found fun cluster _ => .rejectIf fun _ =>
    .rejectIf fun _ => .rejectIf fun _ => .rejectIf fun _ => carried_commit epoch ?_
  simp only [Bool.or_eq_false_iff, bne_eq_false_iff_eq] at other
  have hstate : ownership.stateId = request.stateId :=
    congrArg StateKey.stateId (coherent.ownership held).1
  refine List.forall_mem_append.mpr ⟨fun e he => ?_, ?_⟩
  · obtain ⟨d, ⟨hd, -⟩, rfl⟩ := mem_demoteOwner.mp he
    obtain ⟨hrecorded, -⟩ := Option.filter_eq_some_iff.mp hd
    refine .replica hrecorded (.of_commitment rfl (.inl rfl)) ?_
    refine owners ⟨request.stateId, request.stateGeneration⟩ ownership.ownerReplica d acts ?_ hrecorded
    rw [Plane.Owns, abs_ownership held, OwnershipRecord.view, (Bool.not_eq_false' ..).mp inactive]
  · refine Put.forall_mem_replica coherent recorded ?_ (other.1 ▸ acts) true ?_
    · exact ⟨rfl, rfl, .inl rfl, .inr rfl⟩
    simp only [List.forall_mem_cons]
    exact ⟨.ownership (o := handedOverOwnership inputs ownership newOwner request.handoffCommit)
      (hstate ▸ acts), .counters _, by simp⟩

/-! ### Time and epoch -/

theorem advanceTime_carried {delta : Tick} :
    Yields (advanceTime delta inputs) (Carried inputs (.advanceTime delta) about) := by
  unfold advanceTime
  exact .rejectIf fun _ => .ok ⟨rfl, fun _ => rfl, by simp⟩

theorem advanceEpoch_carried : Yields (advanceEpoch inputs) (Carried inputs .advanceEpoch about) :=
  .ok ⟨rfl, fun _ => rfl, List.forall_mem_singleton.mpr (.epoch _)⟩

end Bodies

/-! ## Every request -/

section Requests

variable {inputs : MutationInputs} {m : Mutation} {about : StateId → Prop}

theorem Carried.map {ρ ρ' : Type} {out : Outcome ρ} (h : Carried inputs m about out)
    (f : ρ → ρ') : Carried inputs m about (out.map f) := by
  refine ⟨h.epoch, fun hnone => ?_, h.effects⟩
  have hok := h.acknowledged hnone
  cases hstatus : out.status with
  | error => simp [hstatus, Except.isOk, Except.toBool] at hok
  | ok => simp [Outcome.map, hstatus, Except.map, Except.isOk, Except.toBool]

theorem carried_map {ρ : Type} {x : Result (Outcome ρ)} (h : Yields x (Carried inputs m about))
    (f : ρ → Response) : Yields (x.map (·.map f)) (Carried inputs m about) :=
  .map (h.mono fun _ ho => ho.map f)

/-- How every executed request ends. -/
theorem mutationBody_carried (coherent : Coherent inputs.plane)
    (reaches : m.Reaches inputs.plane about) :
    Yields (mutationBody m inputs) (Carried inputs m about) := by
  cases m with
  | registerState => exact carried_map (registerState_carried reaches) _
  | publishStateGeneration => exact carried_map (publishStateGeneration_carried reaches) _
  | commitStateGeneration => exact carried_map (commitStateGeneration_carried coherent reaches) _
  | publishCompatibility => exact carried_map (publishCompatibility_carried reaches) _
  | publishPlacementPolicy => exact carried_map (publishPlacementPolicy_carried reaches) _
  | publishReplicationPolicy => exact carried_map (publishReplicationPolicy_carried reaches) _
  | registerCluster => exact carried_map (registerCluster_carried coherent reaches) _
  | publishClusterEvidence => exact carried_map (publishClusterEvidence_carried reaches) _
  | markClusterUnreachable => exact carried_map (markClusterUnreachable_carried coherent reaches) _
  | retireCluster => exact carried_map (retireCluster_carried coherent reaches) _
  | registerReplica => exact carried_map (registerReplica_carried reaches) _
  | recordTransferProgress =>
    exact carried_map (recordTransferProgress_carried coherent reaches) _
  | recordTransferCompletion =>
    exact carried_map (recordTransferCompletion_carried coherent reaches) _
  | verifyReplica => exact carried_map (verifyReplica_carried coherent reaches) _
  | commitReplica => exact carried_map (commitReplica_carried coherent reaches) _
  | retireReplica => exact carried_map (retireReplica_carried coherent reaches) _
  | quarantineReplica => exact carried_map (quarantineReplica_carried coherent reaches) _
  | revalidateReplica => exact carried_map (revalidateReplica_carried coherent reaches) _
  | authorizeReplication | authorizeMigration =>
    exact carried_map (authorizeTransaction_carried rfl rfl reaches) _
  | commitOperation =>
    exact carried_map (commitOperation_carried coherent reaches) _
  | cancelOperation => exact carried_map (cancelOperation_carried coherent reaches) _
  | transferOwnership =>
    exact carried_map (transferOwnership_carried coherent reaches.1 reaches.2) _
  | advanceTime => exact carried_map advanceTime_carried _
  | advanceEpoch => exact carried_map advanceEpoch_carried _

theorem Executes.carried {r : Runtime} {out : Outcome Response} (h : Executes r m out)
    (coherent : Coherent r.plane) (reaches : m.Reaches r.plane about) :
    Carried r.inputs m about out :=
  (mutationBody_carried coherent reaches).holds h.body

theorem Executes.puts {r : Runtime} {out : Outcome Response} (h : Executes r m out)
    (coherent : Coherent r.plane) : ∀ e ∈ out.effects, Put r.inputs m (fun _ => True) e :=
  (h.carried coherent (m.reaches_true r.plane)).effects

end Requests

end StateFabric
