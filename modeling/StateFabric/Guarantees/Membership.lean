import StateFabric.Guarantees.Operations
import StateFabric.Refinement.Membership

/-!
# Membership and the fence of a replica set

Operations are fenced by the generation of their replica set.  It should move on exactly when the
set really changed: a changed membership has to move it on, or an operation planned against the old
members commits over the new ones, and an unchanged set ought to stay, or operations are fenced for
nothing.  Both directions hold of most requests and fail for some; for every reachable runtime and
every request the two theorems say exactly when.

* `membership_change_advances`: the exceptions are a verification of a copy that counts already,
  which takes the copy out of the set without moving it on, and a destination reserved over a
  counting copy.
* `no_spurious_fencing`: the exceptions are listed by `warranted`, among them the cancellation of an
  operation, which moves the set on although the destination it abandons never counted.
-/

namespace StateFabric

open Protocol Transition ControlPlane Scenario

variable {p' : ControlPlane} {existing : OperationRecord} {reason : Text} {es : List Effect}

variable {p : ControlPlane} {k : ReplicaId} {r : Runtime} {K : StateKey} {m : Mutation}
  {out : Outcome Response} {replica : ReplicaRecord} {inputs : MutationInputs}

/-! ## Membership, as the records have it -/

/-- The replica is a counting copy of the generation. -/
def ControlPlane.CountsFor (p : ControlPlane) (K : StateKey) (k : ReplicaId) : Prop :=
  ∃ replica, p.replicas[k]? = some replica ∧ replica.key = K
    ∧ replicaCountsTowardReplicationFactor replica = true

/-- The replica is the recorded active owner of the generation. -/
def ControlPlane.ActiveOwner (p : ControlPlane) (K : StateKey) (k : ReplicaId) : Prop :=
  ∃ ownership, p.ownership[K]? = some ownership ∧ ownership.ownerReplica = k
    ∧ ownership.active = true

/-- The generation is CURRENT. -/
def ControlPlane.CurrentGeneration (p : ControlPlane) (K : StateKey) : Prop :=
  ∃ state, p.states[K]? = some state ∧ state.lifecycle = .current

theorem countsFor_iff : p.CountsFor K k ↔ p.abs.Member K k := by
  constructor
  · rintro ⟨replica, hreplica, hkey, hcounts⟩
    exact ⟨replica.view, abs_replicas hreplica, hkey, (counting_iff replica).mp hcounts⟩
  · rintro ⟨v, hv, hkey, hcounting⟩
    obtain ⟨replica, hreplica, rfl⟩ := abs_replicas_eq_some.mp hv
    exact ⟨replica, hreplica, hkey, (counting_iff replica).mpr hcounting⟩

theorem activeOwner_iff : p.ActiveOwner K k ↔ p.abs.Owns K k := by
  constructor
  · rintro ⟨ownership, hownership, rfl, hactive⟩
    rw [Plane.Owns, abs_ownership hownership, OwnershipRecord.view, hactive]
  · intro howns
    obtain ⟨ownership, hownership, hview⟩ := Option.map_eq_some_iff.mp howns
    obtain ⟨howner, hactive⟩ := OwnershipView.mk.inj hview
    exact ⟨ownership, hownership, howner, hactive⟩

theorem currentGeneration_iff : p.CurrentGeneration K ↔ p.abs.Current K := by
  constructor
  · rintro ⟨state, hstate, hcurrent⟩
    exact ⟨state.view, abs_states hstate, hcurrent⟩
  · rintro ⟨s, hs, hcurrent⟩
    obtain ⟨state, hstate, rfl⟩ := abs_states_eq_some.mp hs
    exact ⟨state, hstate, hcurrent⟩

/-- No stored generation of a replica set is 0, which only a wrapped counter leaves, or the last
one, which wraps when the set moves on. -/
def ControlPlane.setsInRange (p : ControlPlane) : Bool :=
  p.replicaSets.toList.all fun entry =>
    entry.2.generation.valid && entry.2.generation.value != lastIdentity

theorem generation_in_range {set : ReplicaSetRecord} (h : p.setsInRange = true)
    (hset : p.replicaSets[K]? = some set) :
    set.generation.value ≠ 0 ∧ set.generation.value ≠ lastIdentity := by
  have hentry := List.all_eq_true.mp h _ (OrderedMap.mem_toList_iff.mpr hset)
  simpa [StrongId.valid] using hentry

/-- A set that moved on within the range of its generations has a greater one. -/
theorem lt_of_moved (h : p.abs.Moved p'.abs K) (inRange : p.setsInRange = true) :
    ∃ set set', p.replicaSets[K]? = some set ∧ p'.replicaSets[K]? = some set'
      ∧ set.generation.value < set'.generation.value := by
  obtain ⟨g, hg, hnext⟩ := h
  obtain ⟨set, hset, rfl⟩ := Option.map_eq_some_iff.mp hg
  obtain ⟨set', hset', hgeneration⟩ := Option.map_eq_some_iff.mp hnext
  have hgeneration : set'.generation.value = set.generation.value + 1 := hgeneration
  refine ⟨set, set', hset, hset', ?_⟩
  rw [hgeneration]
  exact lt_add_one_of_ne_last (generation_in_range inRange hset).2

theorem generation_of_unmoved {set : ReplicaSetRecord} (h : p.abs.Unmoved p'.abs K)
    (hset : p.replicaSets[K]? = some set) :
    p'.replicaSets[K]?.map (·.generation) = some set.generation := by
  have hafter := h _ (abs_setGeneration hset)
  obtain ⟨set', hset', hvalue⟩ := Option.map_eq_some_iff.mp hafter
  rw [hset', Option.map_some]
  exact congrArg some (congrArg StrongId.mk hvalue)

theorem ReachableRuntime.covered (h : ReachableRuntime r) : r.plane.abs.Covered :=
  (h.invariant (I := Plane.Covered) (fun _ _ hs => by cases hs) fun hstep => hstep.covered).2

/-! ## A changed membership moves the set on -/

/-- Every generation whose counting copies differ after the request has a replica set of a greater
generation. -/
def MovesWithMembership (r : Runtime) (m : Mutation) : Prop :=
  ∀ K, (∃ k, ¬ (r.plane.CountsFor K k ↔ (r.after m).plane.CountsFor K k)) →
    ∃ set set', r.plane.replicaSets[K]? = some set
      ∧ (r.after m).plane.replicaSets[K]? = some set'
      ∧ set.generation.value < set'.generation.value

/-- The replica a request rewrites without moving its set on: the one a verification reports about,
and the destination an authorization mints. -/
def Mutation.rewrites (r : Runtime) : Mutation → Option ReplicaId
  | .verifyReplica report => some report.replicaId
  | .authorizeReplication _ | .authorizeMigration _ => some (destinationOf ⟨r.plane.nextId⟩)
  | _ => none

theorem sameMembers_iff :
    p.abs.SameMembers p'.abs K ↔ ∀ k, p.CountsFor K k ↔ p'.CountsFor K k := by
  simp only [Plane.SameMembers, countsFor_iff]

theorem rewrites_of_overwrites (h : (m.act r).Overwrites k) : m.rewrites r = some k := by
  rcases h with ⟨o, accepted, hact⟩ | ⟨o, hact, rfl⟩
  · cases m with
    | verifyReplica => exact congrArg some (Action.verify.inj hact).1
    | _ => cases hact
  · cases m with
    | authorizeReplication | authorizeMigration =>
      exact congrArg _ (congrArg _ (Action.authorize.inj hact))
    | _ => cases hact

/-- What an executed request that rewrites a replica without moving its set on writes. -/
theorem Executes.rewritten (h : Executes r m out) (coherent : Coherent r.plane)
    (rewrites : m.rewrites r = some k) :
    (m.act r).Overwrites k
      ∧ ∃ w ops, w.replicaId = k ∧ ReplicaBatch r.inputs w false ops out.effects := by
  have hinputs : Coherent r.inputs.plane := coherent
  cases m with
  | verifyReplica report =>
    obtain rfl := Option.some.inj rewrites
    obtain ⟨replica, revised, hreplica, hwritten, -⟩ := h.written coherent rfl
    obtain ⟨moved, hadvancement, -⟩ :=
      Runtime.advancement_spec coherent (m := .verifyReplica report) rfl
    exact ⟨.inl ⟨_, _, rfl⟩, revised, _, hwritten.id.trans hreplica.id,
      hwritten.batch hadvancement⟩
  | authorizeReplication | authorizeMigration =>
    obtain rfl := Option.some.inj rewrites
    obtain ⟨inner, hinner, heffects, -⟩ := map_outcome_eq_ok h.body
    obtain ⟨plan, -, batch⟩ := authorizeTransaction_batch hinner
    exact ⟨.inr ⟨_, rfl, rfl⟩, _, _, rfl, heffects ▸ batch⟩
  | _ => cases rewrites

theorem counting_eq_true : p.counting k = true ↔ ∃ K, p.abs.Member K k := by
  rw [ControlPlane.counting, Option.any_eq_true]
  constructor
  · rintro ⟨replica, hreplica, hcounts⟩
    exact ⟨replica.key, replica.view, abs_replicas hreplica, rfl, (counting_iff replica).mp hcounts⟩
  · rintro ⟨K, v, hv, -, hcounting⟩
    obtain ⟨replica, hreplica, rfl⟩ := abs_replicas_eq_some.mp hv
    exact ⟨replica, hreplica, (counting_iff replica).mpr hcounting⟩

/-- A request that rewrites a counting copy without moving its set on changes the members of a set
that stays. -/
theorem Executes.not_moves (h : Executes r m out) (coherent : Coherent r.plane)
    (inRange : r.plane.setsInRange = true) (rewrites : m.rewrites r = some k)
    (counting : r.plane.counting k = true) : ¬ MovesWithMembership r m := by
  intro hmoves
  have habs : (r.after m).plane.abs = (r.plane.applyAll out.effects).abs :=
    abs_eq_of_records h.records_eq
  obtain ⟨K, hmember⟩ := counting_eq_true.mp counting
  obtain ⟨hover, w, ops, rfl, batch⟩ := h.rewritten coherent rewrites
  have hlost : ¬ (r.after m).plane.abs.Member K w.replicaId := by
    have hmove := (h.admissible coherent).lawful.replicas w batch.replica
    have hafter : (r.plane.applyAll out.effects).abs.replicas w.replicaId = some w.view :=
      batch.replica_eq
    rw [habs, member_iff_of_replica hafter]
    exact fun hw => hmove.not_counting_of_overwrites hover hw.2
  obtain ⟨set, set', hset, hset', hlt⟩ := hmoves K ⟨w.replicaId, fun hsame =>
    hlost (countsFor_iff.mp (hsame.mp (countsFor_iff.mpr hmember)))⟩
  have hunmoved : r.plane.abs.Unmoved (r.after m).plane.abs K := by
    rw [habs]
    refine (batch.impact_keep coherent).unmoved K fun hzero => ?_
    exact (generation_in_range inRange hset).1
      (OrderedMap.some_unique (abs_setGeneration hset) hzero.2)
  have hkept := generation_of_unmoved hunmoved hset
  rw [hset', Option.map_some, Option.some_inj] at hkept
  exact absurd hlt (hkept ▸ UInt64.lt_irrefl _)

/-- A request that rewrites no counting copy without moving its set on moves on every set whose
members it changes. -/
theorem Executes.moves (h : Executes r m out) (coherent : Coherent r.plane)
    (covered : r.plane.abs.Covered) (inRange : r.plane.setsInRange = true)
    (spares : ∀ k, m.rewrites r = some k → r.plane.counting k = false) :
    MovesWithMembership r m := by
  rintro K ⟨k, hchanged⟩
  have habs : (r.after m).plane.abs = (r.plane.applyAll out.effects).abs :=
    abs_eq_of_records h.records_eq
  have hstep := (h.admissible coherent).lawful.step (m.act_ne_reopen r)
  refine lt_of_moved ?_ inRange
  rw [habs]
  refine hstep.moved_of_membership (fun k v hv hkey => ?_) (fun k hover hmember => ?_) ?_
  · obtain ⟨replica, hreplica, rfl⟩ := abs_replicas_eq_some.mp hv
    have hset := isSome_set covered (coherent.replicas hreplica).2.state
    obtain ⟨set, hset⟩ := Option.isSome_iff_exists.mp hset
    have hkey : replica.key = K := hkey
    exact ⟨_, abs_setGeneration (hkey ▸ hset)⟩
  · have hcounting := counting_eq_true.mpr ⟨K, hmember⟩
    rw [spares k (rewrites_of_overwrites hover)] at hcounting
    cases hcounting
  · rw [← habs, sameMembers_iff]
    exact fun hsame => hchanged (hsame k)

/-- While no stored set generation is 0 or the last one, a request moves on every set whose counting
copies it changes if and only if it has no effect or rewrites no counting copy without moving its
set on. -/
theorem membership_change_advances {r : Runtime} (reachable : ReachableRuntime r) (m : Mutation)
    (inRange : r.plane.setsInRange = true) :
    MovesWithMembership r m ↔
      r.effects m = [] ∨ ∀ k, m.rewrites r = some k → r.plane.counting k = false := by
  have hcoherent := reachable.accounted.1.coherent
  rcases r.effect_cases m with ⟨out, hexec, heffects⟩ | ⟨hempty, hsame⟩
  · rw [hexec.effects_eq, or_iff_right heffects]
    refine ⟨fun hmoves k hk => ?_, hexec.moves hcoherent reachable.covered inRange⟩
    by_contra hcounting
    exact hexec.not_moves hcoherent inRange hk (Bool.eq_true_of_not_eq_false hcounting) hmoves
  · refine iff_of_true ?_ (.inl hempty)
    rintro K ⟨k, hchanged⟩
    rw [countsFor_iff, countsFor_iff, abs_eq_of_records hsame] at hchanged
    exact absurd Iff.rfl hchanged

/-- A retirement takes a counting copy out of its set and moves the set on. -/
theorem membership_change_advances_of_retirement :
    (reach oneCopy).effects (Scenario.retirement 20) ≠ []
      ∧ MovesWithMembership (reach oneCopy) (Scenario.retirement 20) :=
  ⟨by decide +kernel, (membership_change_advances (reachable oneCopy) _ (by decide +kernel)).mpr
    (.inr fun k hk => by cases hk)⟩

/-- A committed copy that is verified again leaves the set, which stays at its generation. -/
theorem set_unmoved_of_second_verification :
    ReachableRuntime (reach oneCopy)
      ∧ (reach oneCopy).plane.CountsFor ⟨⟨1⟩, ⟨1⟩⟩ ⟨20⟩
      ∧ ¬ ((reach oneCopy).after (verification 20)).plane.CountsFor ⟨⟨1⟩, ⟨1⟩⟩ ⟨20⟩
      ∧ (reach oneCopy).plane.replicaSets[(⟨⟨1⟩, ⟨1⟩⟩ : StateKey)]?.map (·.generation)
        = some ⟨2⟩
      ∧ ((reach oneCopy).after (verification 20)).plane.replicaSets[
        (⟨⟨1⟩, ⟨1⟩⟩ : StateKey)]?.map (·.generation) = some ⟨2⟩ := by
  have hbefore : (reach oneCopy).plane.replicas[(⟨20⟩ : ReplicaId)]?.any (fun replica =>
      replica.key == ⟨⟨1⟩, ⟨1⟩⟩ && replicaCountsTowardReplicationFactor replica) = true := by
    decide +kernel
  have hafter : ((reach oneCopy).after (verification 20)).plane.counting ⟨20⟩ = false := by
    decide +kernel
  obtain ⟨replica, hreplica, hcounts⟩ := (Option.any_eq_true _ _).mp hbefore
  simp only [Bool.and_eq_true, beq_iff_eq] at hcounts
  refine ⟨reachable _, ⟨replica, hreplica, hcounts⟩, ?_, by decide +kernel, by decide +kernel⟩
  intro hcounting
  have htrue := counting_eq_true.mpr ⟨_, countsFor_iff.mp hcounting⟩
  rw [hafter] at htrue
  cases htrue

/-! ## An unchanged standing leaves the set alone -/

/-- The requests by which operations are authorized, progress, fail and are cancelled. -/
def Mutation.staging : Mutation → Bool
  | .registerReplica _ | .recordTransferProgress _ | .recordTransferCompletion _
  | .verifyReplica _ | .authorizeReplication _ | .authorizeMigration _ | .cancelOperation _ => true
  | _ => false

/-- The request moves no set on while its counting copies, its active owner and the CURRENT
status of its generation are the same, and a report, an authorization, a registration or a
cancellation leaves every operation that was authorized against the stored generation of its set
so. -/
structure SparesSets (r : Runtime) (m : Mutation) : Prop where
  unmoved : ∀ (K : StateKey) (set : ReplicaSetRecord),
    (∀ k, r.plane.CountsFor K k ↔ (r.after m).plane.CountsFor K k) →
    (∀ k, r.plane.ActiveOwner K k ↔ (r.after m).plane.ActiveOwner K k) →
    (r.plane.CurrentGeneration K ↔ (r.after m).plane.CurrentGeneration K) →
    r.plane.replicaSets[K]? = some set →
    (r.after m).plane.replicaSets[K]?.map (·.generation) = some set.generation
  committable : m.staging = true → ∀ (K : StateKey) (generation : ReplicaSetGeneration),
    r.plane.replicaSets[K]?.map (·.generation) = some generation →
    (r.after m).plane.replicaSets[K]?.map (·.generation) = some generation

/-- Each set that the fence moves on loses a counting copy. -/
def fencesCounting (fenced : List ReplicaRecord) : Bool :=
  fenced.all fun replica => fenced.any fun other =>
    other.key == replica.key && replicaCountsTowardReplicationFactor other

/-- The replica set of the generation is not at 0, which only a wrapped counter leaves and which a
rebuilt set does not keep. -/
def ControlPlane.numberedSet (p : ControlPlane) (K : StateKey) : Bool :=
  p.replicaSets[K]?.all (·.generation.valid)

/-- The replica set of the generation the copy is of is not at 0. -/
def ControlPlane.numberedCopy (p : ControlPlane) (k : ReplicaId) : Bool :=
  p.replicas[k]?.all fun replica => p.numberedSet replica.key

/-- Every set the request moves on has changed, and a staging request moves none on. -/
def warranted (r : Runtime) (m : Mutation) : Bool :=
  match m with
  | .registerReplica registration =>
    r.plane.numberedSet ⟨registration.stateId, registration.stateGeneration⟩
  | .recordTransferProgress progress => r.plane.numberedCopy progress.replicaId
  | .recordTransferCompletion completion => r.plane.numberedCopy completion.replicaId
  | .verifyReplica report => r.plane.numberedCopy report.replicaId
  | .authorizeReplication request =>
    r.plane.numberedSet ⟨request.stateId, request.stateGeneration⟩
  | .authorizeMigration request =>
    r.plane.numberedSet ⟨request.stateId, request.stateGeneration⟩
  | .registerCluster registration => fencesCounting (registrationFences registration r.inputs)
  | .markClusterUnreachable clusterId incarnation _ =>
    fencesCounting (r.plane.hostedUnder clusterId incarnation)
  | .retireCluster clusterId incarnation =>
    fencesCounting (r.plane.hostedUnder clusterId incarnation)
  | .retireReplica transition => r.plane.counting transition.replicaId
  | .quarantineReplica transition => r.plane.counting transition.replicaId
  | .revalidateReplica transition =>
    r.plane.replicas[transition.replicaId]?.all fun replica =>
      replicaCountsTowardReplicationFactor replica
        != (replica.commitRecorded && replica.compatibility == .compatible)
  | .cancelOperation cancellation =>
    r.plane.operations[cancellation.operationId]?.all fun operation =>
      (r.plane.abandonedBy operation).isNone
  | .commitOperation commit =>
    r.plane.operations[commit.operationId]?.all fun operation =>
      r.plane.replicas[operation.destinationReplica]?.all fun destination =>
        (retiringSource r.plane operation commit destination).all fun source =>
          source.key == destination.key || replicaCountsTowardReplicationFactor source
  | .transferOwnership request =>
    r.plane.ownership[(⟨request.stateId, request.stateGeneration⟩ : StateKey)]?.all
      (·.ownerReplica != request.newOwnerReplica) || !r.plane.counting request.newOwnerReplica
  | _ => true

theorem fencesCounting_iff {fenced : List ReplicaRecord} : fencesCounting fenced = true ↔
    ∀ r ∈ fenced, ∃ r' ∈ fenced, r'.key = r.key ∧ r'.view.Counting := by
  simp [fencesCounting, counting_iff]

theorem counting_iff_of_recorded (h : p.replicas[k]? = some replica) :
    p.counting k = true ↔ replica.view.Counting := by
  simp [ControlPlane.counting, h, counting_iff]

theorem counting_revalidatedReplica {cluster : ClusterRecord}
    (verified : replica.integrity = .verified) :
    (revalidatedReplica inputs replica cluster).view.Counting
      ↔ replica.commitRecorded = true ∧ replica.compatibility = .compatible := by
  rw [revalidatedReplica_view]
  cases hcommitted : replica.commitRecorded <;>
    simp [ReplicaView.Counting, ReplicaRecord.view, verified, hcommitted]

/-! ### Staging requests -/

theorem numberedSet_iff : p.numberedSet K = true ↔ p.abs.setGeneration K ≠ some 0 := by
  rw [ControlPlane.numberedSet, show p.abs.setGeneration K = p.replicaSets[K]?.map (·.view) from rfl]
  cases p.replicaSets[K]? <;> simp [StrongId.valid, ReplicaSetRecord.view]

/-- A batch that keeps the set of its replica leaves every set alone unless that one is at 0. -/
theorem ReplicaBatch.unmoved_iff {ops : List OperationRecord}
    (b : ReplicaBatch inputs replica false ops es) (coherent : Coherent inputs.plane) :
    (∀ K, inputs.plane.abs.Unmoved (inputs.plane.applyAll es).abs K)
      ↔ inputs.plane.numberedSet replica.key = true := by
  rw [(b.impact_keep coherent).unmoved_iff, numberedSet_iff]
  simp

/-- A cancellation leaves every set alone exactly when it abandons no copy. -/
theorem Cancels.unmoved_iff (h : Cancels inputs existing reason es)
    (coherent : Coherent inputs.plane) (covered : inputs.plane.abs.Covered) :
    (∀ K, inputs.plane.abs.Unmoved (inputs.plane.applyAll es).abs K)
      ↔ inputs.plane.abandonedBy existing = none := by
  have hspared : (∀ s, .putReplicaSet s ∉ es) → inputs.plane.abandonedBy existing = none →
      ((∀ K, inputs.plane.abs.Unmoved (inputs.plane.applyAll es).abs K)
        ↔ inputs.plane.abandonedBy existing = none) := by
    intro hnone hspared
    exact iff_of_true (fun K => (impact_of_not_mem hnone).unmoved K id) hspared
  cases h with
  | refused noted id view spared effects => exact hspared (by simp [effects]) spared
  | repeated spared effects => exact hspared (by simp [effects]) spared
  | spared live spared silent effects hsilent =>
    refine hspared (fun s hs => ?_) spared
    rw [effects] at hs
    rcases List.mem_cons.mp hs with hs | hs
    · cases hs
    · exact hsilent _ hs
  | abandoned live replica destination batch =>
    obtain ⟨hrecorded, -, -⟩ := abandonedBy_spec destination
    have hset : inputs.plane.replicaSets[(abandonedReplica inputs replica).key]?.isSome :=
      isSome_set covered (coherent.replicas hrecorded).2.state
    rw [(batch.impact coherent hset).unmoved_iff, destination]
    simp

theorem Executes.reports_unmoved_iff {o : OperationId} (h : Executes r m out)
    (coherent : Coherent r.plane) (report : m.report = some (k, o)) :
    (∀ K, r.plane.abs.Unmoved (r.plane.applyAll out.effects).abs K)
      ↔ r.plane.numberedCopy k = true := by
  obtain ⟨replica, revised, hreplica, hwritten, -⟩ := h.written coherent report
  obtain ⟨moved, hadvancement, -⟩ := Runtime.advancement_spec coherent report
  have hrecorded : r.plane.replicas[k]? = some replica := hreplica.id ▸ hreplica.recorded
  have hkey : revised.key = replica.key := congrArg Prod.fst hwritten.charter
  have hinputs : Coherent r.inputs.plane := coherent
  rw [ControlPlane.numberedCopy, hrecorded, Option.all_some, ← hkey]
  exact (hwritten.batch hadvancement).unmoved_iff hinputs

theorem authorizeTransaction_unmoved_iff {request : TransferRequest}
    {out : Outcome TransferAuthorization} (h : authorizeTransaction request inputs = .ok out)
    (coherent : Coherent inputs.plane) :
    (∀ K, inputs.plane.abs.Unmoved (inputs.plane.applyAll out.effects).abs K)
      ↔ inputs.plane.numberedSet request.key = true := by
  obtain ⟨plan, grounds, batch⟩ := authorizeTransaction_batch h
  rw [← grounds.key]
  exact batch.unmoved_iff coherent

/-- An executed staging request leaves every set alone exactly when it is warranted. -/
theorem Executes.unmoved_iff_of_staging (h : Executes r m out) (effective : out.effects ≠ [])
    (coherent : Coherent r.plane) (covered : r.plane.abs.Covered) (staging : m.staging = true) :
    (∀ K, r.plane.abs.Unmoved (r.plane.applyAll out.effects).abs K) ↔ warranted r m = true := by
  have hinputs : Coherent r.inputs.plane := coherent
  cases m with
  | registerReplica registration =>
    obtain ⟨inner, hinner, heffects, -⟩ := map_outcome_eq_ok h.body
    rw [heffects] at effective ⊢
    rcases registerReplica_batch hinner with hnil | ⟨replica, -, -, -, -, -, batch, hkey, -⟩
    · exact absurd hnil effective
    · rw [warranted, ← hkey]
      exact batch.unmoved_iff hinputs
  | recordTransferProgress | recordTransferCompletion | verifyReplica =>
    exact h.reports_unmoved_iff coherent rfl
  | authorizeReplication | authorizeMigration =>
    obtain ⟨inner, hinner, heffects, -⟩ := map_outcome_eq_ok h.body
    rw [heffects]
    exact authorizeTransaction_unmoved_iff hinner hinputs
  | cancelOperation cancellation =>
    obtain ⟨inner, hinner, heffects, -⟩ := map_outcome_eq_ok h.body
    obtain ⟨existing, hop, hcancels⟩ := cancelOperation_cancels hinner
    have hoperation : r.plane.operations[cancellation.operationId]? = some existing := hop
    rw [heffects, warranted, hoperation, Option.all_some, Option.isNone_iff_eq_none]
    exact hcancels.unmoved_iff hinputs covered
  | _ => cases staging

/-! ### The other requests -/

/-- The requests that put no replica set a generation already has. -/
def Mutation.quiet : Mutation → Bool
  | .registerState _ | .publishStateGeneration _ | .publishCompatibility _
  | .publishPlacementPolicy _ | .publishReplicationPolicy _ | .advanceTime _
  | .advanceEpoch => true
  | _ => false

theorem Executes.impact_of_quiet (h : Executes r m out) (coherent : Coherent r.plane)
    (quiet : m.quiet = true) :
    Impact r.plane.abs (r.plane.applyAll out.effects).abs fun _ => False := by
  have hsilent : ∀ {ρ : Type} {x : Result (Outcome ρ)} {f : ρ → Response},
      x.map (·.map f) = .ok out → (∀ {inner}, x = .ok inner → ∀ s, .putReplicaSet s ∉ inner.effects) →
      Impact r.plane.abs (r.plane.applyAll out.effects).abs fun _ => False := by
    intro ρ x f hbody hnone
    obtain ⟨inner, hinner, heffects, -⟩ := map_outcome_eq_ok hbody
    exact impact_of_not_mem (heffects ▸ hnone hinner)
  cases m with
  | registerState spec =>
    obtain ⟨inner, hinner, heffects, -⟩ := map_outcome_eq_ok h.body
    rw [heffects]
    refine impact_of_puts (fun _ hadv => hadv.elim) fun s hs stored hstored => ?_
    rcases registerState_effects hinner with hnil
      | ⟨record, set, counters, next, hnew, hes, -, -, -, -, -, hkey, -⟩
    · simp [hnil] at hs
    · -- The set of a new generation is new.
      obtain rfl : s = set := by simpa [hes] using hs
      obtain ⟨hskey, hground⟩ := coherent.replicaSets hstored
      have hstate := hground.state
      rw [hskey, hkey] at hstate
      have hnone : r.plane.states[spec.key]? = none := hnew
      simp [hnone] at hstate
  | publishStateGeneration =>
    refine hsilent h.body fun hinner s hs => ?_
    rcases publishStateGeneration_effects hinner with hnil | ⟨existing, record, -, -, hes, -⟩
    · simp [hnil] at hs
    · simp [hes] at hs
  | publishCompatibility =>
    refine hsilent h.body fun hinner s hs => ?_
    simp only [StateFabric.publishCompatibility, rejectIf_bind_eq_ok, validateText_bind_eq_ok]
      at hinner
    simp [(MutationInputs.commit_ok hinner.2.2.2).1] at hs
  | publishPlacementPolicy =>
    refine hsilent h.body fun hinner s hs => ?_
    simp only [StateFabric.publishPlacementPolicy, ↓rejectIf_bind_eq_ok] at hinner
    simp [(MutationInputs.commit_ok hinner.2.2).1] at hs
  | publishReplicationPolicy =>
    refine hsilent h.body fun hinner s hs => ?_
    simp only [StateFabric.publishReplicationPolicy, ↓rejectIf_bind_eq_ok] at hinner
    simp [(MutationInputs.commit_ok hinner.2.2).1] at hs
  | advanceTime =>
    refine hsilent h.body fun hinner s hs => ?_
    simp [advanceTime_silent hinner] at hs
  | advanceEpoch =>
    have hbody : (StateFabric.advanceEpoch r.inputs).map (·.map .epoch) = .ok out := h.body
    refine hsilent hbody fun hinner s hs => ?_
    simp [advanceEpoch_silent hinner] at hs
  | _ => cases quiet

/-- The request, carried out with these effects, moves no set on without need exactly when it is
warranted. -/
def JudgedBy (r : Runtime) (m : Mutation) (es : List Effect) : Prop :=
  Undisturbed r.plane.abs (r.plane.applyAll es).abs ↔ warranted r m = true

section Judgements

variable {transition : ReplicaTransition} {inner : Outcome ReplicaRecord}

theorem FenceBatch.undisturbed_iff_fencesCounting {fence : Fence} {fenced : List ReplicaRecord}
    {record : ClusterRecord} (b : FenceBatch inputs fence fenced record es)
    (coherent : Coherent inputs.plane) (covered : inputs.plane.abs.Covered) :
    Undisturbed inputs.plane.abs (inputs.plane.applyAll es).abs
      ↔ fencesCounting fenced = true := by
  rw [fencesCounting_iff]
  exact b.undisturbed_iff coherent covered

theorem retireReplica_judged (coherent : Coherent r.plane) (covered : r.plane.abs.Covered)
    (h : retireReplica transition r.inputs = .ok inner) :
    JudgedBy r (.retireReplica transition) inner.effects := by
  have hinputs : Coherent r.inputs.plane := coherent
  obtain ⟨replica, hreplica, -, batch⟩ := retireReplica_batch hinputs h
  have hrecorded : r.plane.replicas[transition.replicaId]? = some replica :=
    hreplica.id ▸ hreplica.recorded
  have hrevised : ¬ (retiredReplica r.inputs replica transition.reason).view.Counting := by
    rintro ⟨-, hcounts, -⟩
    cases hcounts
  rw [JudgedBy, warranted, counting_iff_of_recorded hrecorded]
  refine (batch.undisturbed_iff hinputs covered hreplica.recorded rfl).trans ?_
  simp [hrevised]

theorem quarantineReplica_judged (coherent : Coherent r.plane) (covered : r.plane.abs.Covered)
    (h : quarantineReplica transition r.inputs = .ok inner) :
    JudgedBy r (.quarantineReplica transition) inner.effects := by
  have hinputs : Coherent r.inputs.plane := coherent
  obtain ⟨replica, revised, hreplica, batch, hid, -, hview⟩ := quarantineReplica_batch hinputs h
  have hrecorded : r.plane.replicas[transition.replicaId]? = some replica :=
    hreplica.id ▸ hreplica.recorded
  have hrevised : ¬ revised.view.Counting := by
    rw [hview]
    rintro ⟨-, hcounts, -⟩
    cases hcounts
  rw [JudgedBy, warranted, counting_iff_of_recorded hrecorded]
  refine (batch.undisturbed_iff hinputs covered (hid ▸ hreplica.recorded)
    (congrArg ReplicaView.key hview).symm).trans ?_
  simp [hrevised]

theorem revalidateReplica_judged (coherent : Coherent r.plane) (covered : r.plane.abs.Covered)
    (h : revalidateReplica transition r.inputs = .ok inner) :
    JudgedBy r (.revalidateReplica transition) inner.effects := by
  have hinputs : Coherent r.inputs.plane := coherent
  obtain ⟨replica, cluster, hrecorded, hid, -, hverified, -, -, batch⟩ :=
    revalidateReplica_batch hinputs h
  have hreplica : r.plane.replicas[transition.replicaId]? = some replica := hrecorded
  have hrecorded' : r.inputs.plane.replicas[
      (revalidatedReplica r.inputs replica cluster).replicaId]? = some replica := by
    rw [revalidatedReplica_replicaId, hid]
    exact hrecorded
  refine (batch.undisturbed_iff hinputs covered hrecorded'
    (revalidatedReplica_key ..).symm).trans ?_
  rw [counting_revalidatedReplica hverified, ← counting_iff, warranted, hreplica, Option.all_some,
    bne_iff_ne, ← beq_iff_eq (a := replica.compatibility), ← Bool.and_eq_true, ← Bool.eq_iff_iff]

theorem OperationCommitted.judged {commit : OperationCommit} {destination : ReplicaRecord}
    {plan : CommitPlan} {operation : OperationRecord} (coherent : Coherent r.plane)
    (covered : r.plane.abs.Covered)
    (committed : OperationCommitted r.inputs commit existing destination plan operation es) :
    JudgedBy r (.commitOperation commit) es := by
  have hinputs : Coherent r.inputs.plane := coherent
  have hop : r.plane.operations[commit.operationId]? = some existing := committed.recorded
  have hcopy : r.plane.replicas[existing.destinationReplica]? = some destination :=
    committed.copied
  refine (committed.undisturbed_iff hinputs covered).trans ?_
  obtain ⟨owner, takeover, authority, demoted, ownership, -, planned⟩ := committed.planned
  have hsource : retiringSource r.plane existing commit plan.committed
      = retiringSource r.plane existing commit destination := by
    rw [retiringSource, retiringSource, planned.committed_replicaId]
  have hplane : r.inputs.plane = r.plane := rfl
  rw [hplane, hsource, warranted, hop, Option.all_some, hcopy, Option.all_some,
    Option.all_eq_true]
  simp only [Bool.or_eq_true, beq_iff_eq, counting_iff, Option.mem_def]

theorem HandedOver.judged {request : OwnershipTransferRequest} {ownership : OwnershipRecord}
    {newOwner : ReplicaRecord} (coherent : Coherent r.plane) (covered : r.plane.abs.Covered)
    (handed : HandedOver r.inputs request ownership newOwner es) :
    JudgedBy r (.transferOwnership request) es := by
  have hinputs : Coherent r.inputs.plane := coherent
  have hheld : r.plane.ownership[(⟨request.stateId, request.stateGeneration⟩ : StateKey)]?
      = some ownership := handed.key ▸ handed.held
  have hrecorded : r.plane.replicas[request.newOwnerReplica]? = some newOwner := handed.recorded
  have hid := (coherent.replicas hrecorded).1
  refine (handed.undisturbed_iff hinputs covered).trans ?_
  rw [warranted, hheld, Option.all_some, Bool.or_eq_true, bne_iff_ne, Bool.not_eq_true', hid,
    ← counting_iff_of_recorded hrecorded, Bool.not_eq_true]

end Judgements

/-- An executed request that is no staging request moves no set on without need exactly when it is
warranted. -/
theorem Executes.undisturbed_iff (h : Executes r m out) (effective : out.effects ≠ [])
    (coherent : Coherent r.plane) (covered : r.plane.abs.Covered) (other : m.staging = false) :
    Undisturbed r.plane.abs (r.plane.applyAll out.effects).abs ↔ warranted r m = true := by
  have hinputs : Coherent r.inputs.plane := coherent
  by_cases hquiet : m.quiet = true
  · refine iff_of_true (h.impact_of_quiet coherent hquiet).undisturbed ?_
    cases m <;> first | rfl | cases hquiet
  cases m with
  | commitStateGeneration =>
    obtain ⟨inner, hinner, heffects, -⟩ := map_outcome_eq_ok h.body
    rw [heffects] at effective ⊢
    refine iff_of_true ?_ rfl
    rcases commitStateGeneration_batch hinputs hinner with hnil | ⟨_, _, _, _, -, batch⟩
    · exact absurd hnil effective
    · exact batch.undisturbed hinputs covered
  | registerCluster =>
    obtain ⟨inner, hinner, heffects, -⟩ := map_outcome_eq_ok h.body
    obtain ⟨fence, record, batch, -⟩ := registerCluster_batch hinputs hinner
    rw [heffects]
    exact batch.undisturbed_iff_fencesCounting hinputs covered
  | publishClusterEvidence =>
    obtain ⟨inner, hinner, heffects, -⟩ := map_outcome_eq_ok h.body
    obtain ⟨existing, record, -, -, batch, -⟩ := publishClusterEvidence_batch hinner
    rw [heffects]
    exact batch.undisturbed_iff_fencesCounting hinputs covered
  | markClusterUnreachable =>
    obtain ⟨inner, hinner, heffects, -⟩ := map_outcome_eq_ok h.body
    rw [heffects] at effective ⊢
    rcases markClusterUnreachable_batch hinputs hinner with
      hnil | ⟨existing, fence, lifecycle, health, -, rfl, batch⟩
    · exact absurd hnil effective
    · exact batch.undisturbed_iff_fencesCounting hinputs covered
  | retireCluster =>
    obtain ⟨inner, hinner, heffects, -⟩ := map_outcome_eq_ok h.body
    obtain ⟨existing, fence, lifecycle, health, -, rfl, batch⟩ := retireCluster_batch hinputs hinner
    rw [heffects]
    exact batch.undisturbed_iff_fencesCounting hinputs covered
  | commitReplica =>
    obtain ⟨inner, hinner, heffects, -⟩ := map_outcome_eq_ok h.body
    rw [heffects] at effective ⊢
    rcases commitReplica_committed hinner with ⟨hnil, -⟩ | ⟨target, plan, committed⟩
    · exact absurd hnil effective
    · exact iff_of_true (committed.undisturbed hinputs covered) rfl
  | retireReplica =>
    obtain ⟨inner, hinner, heffects, -⟩ := map_outcome_eq_ok h.body
    exact heffects ▸ retireReplica_judged coherent covered hinner
  | quarantineReplica =>
    obtain ⟨inner, hinner, heffects, -⟩ := map_outcome_eq_ok h.body
    exact heffects ▸ quarantineReplica_judged coherent covered hinner
  | revalidateReplica =>
    obtain ⟨inner, hinner, heffects, -⟩ := map_outcome_eq_ok h.body
    exact heffects ▸ revalidateReplica_judged coherent covered hinner
  | commitOperation =>
    obtain ⟨inner, hinner, heffects, -⟩ := map_outcome_eq_ok h.body
    rw [heffects] at effective ⊢
    rcases commitOperation_committed hinner with
      ⟨hnil, -⟩ | ⟨existing, destination, plan, operation, committed⟩
    · exact absurd hnil effective
    · exact committed.judged coherent covered
  | transferOwnership =>
    obtain ⟨inner, hinner, heffects, -⟩ := map_outcome_eq_ok h.body
    rw [heffects] at effective ⊢
    rcases transferOwnership_handedOver hinputs hinner with hnil | ⟨ownership, newOwner, handed⟩
    · exact absurd hnil effective
    · exact handed.judged coherent covered
  | _ => first | exact absurd rfl hquiet | cases other

/-! ### Both together -/

theorem sameStanding_iff_records :
    p.abs.SameStanding p'.abs K ↔ (∀ k, p.CountsFor K k ↔ p'.CountsFor K k)
      ∧ (∀ k, p.ActiveOwner K k ↔ p'.ActiveOwner K k)
      ∧ (p.CurrentGeneration K ↔ p'.CurrentGeneration K) := by
  simp only [countsFor_iff, activeOwner_iff, currentGeneration_iff]
  exact ⟨fun h => ⟨h.members, h.owner, h.current⟩, fun ⟨hm, ho, hc⟩ => ⟨hm, ho, hc⟩⟩

theorem unmoved_iff_generation : p.abs.Unmoved p'.abs K ↔ ∀ set, p.replicaSets[K]? = some set →
    p'.replicaSets[K]?.map (·.generation) = some set.generation := by
  refine ⟨fun h set hset => generation_of_unmoved h hset, fun h g hg => ?_⟩
  obtain ⟨set, hset, rfl⟩ := Option.map_eq_some_iff.mp hg
  obtain ⟨set', hset', hgeneration⟩ := Option.map_eq_some_iff.mp (h set hset)
  rw [abs_setGeneration hset', hgeneration]
  rfl

theorem sparesSets_iff : SparesSets r m ↔ Undisturbed r.plane.abs (r.after m).plane.abs
    ∧ (m.staging = true → ∀ K, r.plane.abs.Unmoved (r.after m).plane.abs K) := by
  simp only [Undisturbed, sameStanding_iff_records, unmoved_iff_generation]
  constructor
  · intro h
    refine ⟨fun K hstanding set hset => ?_, fun hstaging K set hset => ?_⟩
    · exact h.unmoved K set hstanding.1 hstanding.2.1 hstanding.2.2 hset
    · exact h.committable hstaging K set.generation (by rw [hset, Option.map_some])
  · rintro ⟨hundisturbed, hstaging⟩
    refine ⟨fun K set hmembers howner hcurrent hset => ?_, fun hs K generation hset => ?_⟩
    · exact hundisturbed K ⟨hmembers, howner, hcurrent⟩ set hset
    · obtain ⟨set, hstored, rfl⟩ := Option.map_eq_some_iff.mp hset
      exact hstaging hs K set hstored

/-- A request moves no set on without need, and no staging request fences an operation, if and only
if the request has no effect or is warranted. -/
theorem no_spurious_fencing {r : Runtime} (reachable : ReachableRuntime r) (m : Mutation) :
    SparesSets r m ↔ r.effects m = [] ∨ warranted r m = true := by
  have hcoherent := reachable.accounted.1.coherent
  rw [sparesSets_iff]
  rcases r.effect_cases m with ⟨out, hexec, heffects⟩ | ⟨hempty, hsame⟩
  · rw [hexec.effects_eq, or_iff_right heffects, abs_eq_of_records hexec.records_eq]
    cases hstaging : m.staging with
    | true =>
      -- A staging request that leaves every set alone disturbs none.
      rw [← hexec.unmoved_iff_of_staging heffects hcoherent reachable.covered hstaging]
      exact ⟨fun h => h.2 rfl, fun h => ⟨fun K _ => h K, fun _ => h⟩⟩
    | false =>
      rw [← hexec.undisturbed_iff heffects hcoherent reachable.covered hstaging]
      exact ⟨And.left, fun h => ⟨h, by simp⟩⟩
  · rw [abs_eq_of_records hsame]
    exact iff_of_true ⟨fun _ _ _ => id, fun _ _ _ => id⟩ (.inl hempty)

/-- A completion report leaves the operation it belongs to committable. -/
theorem no_spurious_fencing_of_completion :
    (reach replicating).effects (completion 28) ≠ []
      ∧ SparesSets (reach replicating) (completion 28) :=
  ⟨by decide +kernel,
    (no_spurious_fencing (reachable replicating) _).mpr (.inr (by decide +kernel))⟩

/-- The counting copies, listed. -/
def ControlPlane.countingCopies (p : ControlPlane) : List (StateKey × ReplicaId) :=
  (p.replicaList.filter replicaCountsTowardReplicationFactor).map fun replica =>
    (replica.key, replica.replicaId)

theorem Coherent.countsFor_iff_mem (coherent : Coherent p) :
    p.CountsFor K k ↔ (K, k) ∈ p.countingCopies := by
  simp only [ControlPlane.countingCopies, List.mem_map, List.mem_filter, coherent.mem_replicaList,
    Prod.mk.injEq]
  constructor
  · rintro ⟨replica, hreplica, hkey, hcounts⟩
    have hid := (coherent.replicas hreplica).1
    exact ⟨replica, ⟨hid.symm ▸ hreplica, hcounts⟩, hkey, hid⟩
  · rintro ⟨replica, ⟨hreplica, hcounts⟩, hkey, rfl⟩
    exact ⟨replica, hreplica, hkey, hcounts⟩

/-- Two operations replicate one generation; the copy of the second is received and verified. -/
def Scenario.sideBySide : List Mutation :=
  [cluster 1, cluster 2, cluster 3, state 1 1 .immutable, stateCommit 1 1 5]
    ++ copy 20 1 1 1 7 false ++ [replication 1 1 2, replication 1 1 3, completion 38,
      verification 38]

/-- Cancelling the first operation changes neither the counting copies nor the owner nor the status
of the generation, moves the set on, and leaves the second operation uncommittable. -/
theorem cancellation_fences_of_sideBySide :
    ReachableRuntime (reach sideBySide)
      ∧ (∀ k, (reach sideBySide).plane.CountsFor ⟨⟨1⟩, ⟨1⟩⟩ k
        ↔ ((reach sideBySide).after (cancellation 29)).plane.CountsFor ⟨⟨1⟩, ⟨1⟩⟩ k)
      ∧ (∀ k, (reach sideBySide).plane.ActiveOwner ⟨⟨1⟩, ⟨1⟩⟩ k
        ↔ ((reach sideBySide).after (cancellation 29)).plane.ActiveOwner ⟨⟨1⟩, ⟨1⟩⟩ k)
      ∧ ((reach sideBySide).plane.CurrentGeneration ⟨⟨1⟩, ⟨1⟩⟩
        ↔ ((reach sideBySide).after (cancellation 29)).plane.CurrentGeneration ⟨⟨1⟩, ⟨1⟩⟩)
      ∧ (reach sideBySide).plane.replicaSets[(⟨⟨1⟩, ⟨1⟩⟩ : StateKey)]?.map (·.generation)
        = some ⟨2⟩
      ∧ ((reach sideBySide).after (cancellation 29)).plane.replicaSets[
        (⟨⟨1⟩, ⟨1⟩⟩ : StateKey)]?.map (·.generation) = some ⟨3⟩
      ∧ ((reach sideBySide).answer (operationCommit 34 9)).isOk = true
      ∧ (match ((reach sideBySide).after (cancellation 29)).answer (operationCommit 34 9) with
        | .ok _ => none
        | .error e => some e.code) = some .staleReplicaSetGeneration := by
  have hkept := (reachable sideBySide).accounted.1
  have hcopies : ((reach sideBySide).after (cancellation 29)).plane.countingCopies
      = (reach sideBySide).plane.countingCopies := by decide +kernel
  have howner : (reach sideBySide).plane.ownership[(⟨⟨1⟩, ⟨1⟩⟩ : StateKey)]? = none := by
    decide +kernel
  have howner' : ((reach sideBySide).after (cancellation 29)).plane.ownership[
      (⟨⟨1⟩, ⟨1⟩⟩ : StateKey)]? = none := by decide +kernel
  have hstates : ((reach sideBySide).after (cancellation 29)).plane.states[
      (⟨⟨1⟩, ⟨1⟩⟩ : StateKey)]?.map (·.lifecycle)
      = (reach sideBySide).plane.states[(⟨⟨1⟩, ⟨1⟩⟩ : StateKey)]?.map (·.lifecycle) := by
    decide +kernel
  refine ⟨reachable _, fun k => ?_, fun k => ?_, ?_, by decide +kernel, by decide +kernel,
    by decide +kernel, by decide +kernel⟩
  · rw [hkept.coherent.countsFor_iff_mem, (hkept.after _).coherent.countsFor_iff_mem, hcopies]
  · simp [ControlPlane.ActiveOwner, howner, howner']
  · simp only [ControlPlane.CurrentGeneration, ← Option.map_eq_some_iff, hstates]

end StateFabric
