import StateFabric.Guarantees.Invariants
import StateFabric.Refinement.Charter

/-!
# Enrolment in replica sets

Two copies of one fact are kept apart in the records, and only registration ties them together.

* A replica set stores the requirements of its generation.  `requirements_agree` says that they
  stay equal except where a publication rewrites the requirements of a staged generation, which
  leaves the set with the old ones.
* A replica stores the identity of its replica set.  `counting_implies_membership` says that every
  counting replica is a member of the set of its generation when registrations name no other set
  and no set is registered under the invalid identity.
-/

namespace StateFabric

open Protocol Transition ControlPlane OrderedMap Scenario

variable {inputs : MutationInputs} {p : ControlPlane} {spec : StateGenerationSpec}
  {out : Outcome StateGenerationRecord} {r : Runtime}

/-! ## Requirements -/

/-- Every replica set stores the requirements its generation declares. -/
def RequirementsAgree (p : ControlPlane) : Prop :=
  ∀ (K : StateKey) (set : ReplicaSetRecord), p.replicaSets[K]? = some set →
    ∃ state, p.states[K]? = some state ∧ set.requirements = state.replicationRequirements

/-- The request does not change the requirements of a registered generation. -/
def repeatsRequirements (r : Runtime) : Mutation → Bool
  | .publishStateGeneration spec =>
    r.plane.states[spec.key]?.all (·.replicationRequirements == spec.replicationRequirements)
  | _ => true

theorem requirementsAgree_iff : RequirementsAgree p ↔
    ∀ (K : StateKey) c, p.replicaSets[K]?.map (·.charter) = some c →
      p.states[K]?.map (·.replicationRequirements) = some c.2 := by
  constructor
  · intro h K c hc
    obtain ⟨set, hset, rfl⟩ := Option.map_eq_some_iff.mp hc
    obtain ⟨state, hstate, hagree⟩ := h K set hset
    rw [hstate, Option.map_some, ← hagree]
    rfl
  · intro h K set hset
    have hcharter : p.replicaSets[K]?.map (·.charter) = some set.charter := by rw [hset]; rfl
    obtain ⟨state, hstate, hagree⟩ := Option.map_eq_some_iff.mp (h K set.charter hcharter)
    exact ⟨state, hstate, hagree.symm⟩

theorem RequirementsAgree.of_sameSets {p' : ControlPlane} (h : RequirementsAgree p)
    (same : SameSets p p') : RequirementsAgree p' := by
  rw [requirementsAgree_iff] at h ⊢
  intro K c hc
  rw [same.states]
  exact h K c (same.replicaSets K ▸ hc)

theorem requirementsAgree_registerState (h : registerState spec inputs = .ok out)
    (agree : RequirementsAgree inputs.plane) :
    RequirementsAgree (inputs.plane.applyAll out.effects) := by
  rcases registerState_effects h with hnil
    | ⟨record, set, counters, next, -, heffects, hkey, -, -, -, -, hsetKey, -, -, -,
        hrequirements⟩
  · rw [hnil]
    exact agree
  · rw [heffects]
    intro K stored hstored
    change (inputs.plane.replicaSets.insert set.key set)[K]? = some stored at hstored
    change ∃ state, (inputs.plane.states.insert record.key record)[K]? = some state ∧ _
    rw [OrderedMap.getElem?_insert_eq, hsetKey] at hstored
    rw [OrderedMap.getElem?_insert_eq, hkey]
    split at hstored
    · rename_i hK
      obtain rfl := Option.some.inj hstored
      exact ⟨record, if_pos hK, hrequirements⟩
    · rename_i hK
      rw [if_neg hK]
      exact agree K stored hstored

/-- After a publication with an effect the requirements agree exactly when it repeats those
registered. -/
theorem requirementsAgree_publish_iff (h : publishStateGeneration spec inputs = .ok out)
    (covered : inputs.plane.abs.Covered) (effective : out.effects ≠ [])
    (agree : RequirementsAgree inputs.plane) :
    RequirementsAgree (inputs.plane.applyAll out.effects) ↔
      inputs.plane.states[spec.key]?.all
        (·.replicationRequirements == spec.replicationRequirements) = true := by
  rcases publishStateGeneration_effects h with hnil
    | ⟨existing, record, hexisting, -, heffects, hkey, -, -, -, -, -, -, hrequirements⟩
  · exact absurd hnil effective
  obtain ⟨set, hset⟩ := Option.isSome_iff_exists.mp
    (isSome_set covered (Option.isSome_of_eq_some hexisting))
  obtain ⟨state, hstate, hagree⟩ := agree spec.key set hset
  obtain rfl := some_unique hexisting hstate
  have hstates : ∀ K, (inputs.plane.applyAll out.effects).states[K]?
      = if spec.key = K then some record else inputs.plane.states[K]? := fun K => by
    rw [heffects, ← hkey]
    exact OrderedMap.getElem?_insert_eq _ _ _ _
  have hsets : (inputs.plane.applyAll out.effects).replicaSets = inputs.plane.replicaSets := by
    rw [heffects]
    rfl
  rw [hexisting, Option.all_some, beq_iff_eq, ← hagree, ← hrequirements]
  constructor
  · intro hafter
    obtain ⟨state, hstate, hafter⟩ := hafter spec.key set (hsets ▸ hset)
    rw [hstates, if_pos rfl] at hstate
    obtain rfl := Option.some.inj hstate
    exact hafter
  · intro hrepeats K stored hstored
    rw [hsets] at hstored
    rw [hstates]
    split
    · rename_i hK
      subst hK
      obtain rfl := some_unique hset hstored
      exact ⟨record, rfl, hrepeats⟩
    · exact agree K stored hstored

/-- A step keeps the requirements in agreement exactly when it repeats those registered. -/
theorem WellKept.requirementsAgree_iff_step {r' : Runtime} {e : Event} (h : WellKept r)
    (covered : r.plane.abs.Covered) (hstep : Step r e r') (agree : RequirementsAgree r.plane) :
    RequirementsAgree r'.plane ↔ OnEffect repeatsRequirements r e := by
  cases hstep with
  | mutation m =>
    rcases r.effect_cases m with ⟨out, hexec, heffects⟩ | ⟨hnil, hsame⟩
    · have hrecords : RequirementsAgree (r.after m).plane
          ↔ RequirementsAgree (r.plane.applyAll out.effects) := by
        rw [RequirementsAgree, RequirementsAgree, states_eq_of_records hexec.records_eq,
          replicaSets_eq_of_records hexec.records_eq]
      have hmeets : OnEffect repeatsRequirements r (.mutation m)
          ↔ repeatsRequirements r m = true := by
        simp [OnEffect, hexec.effects_eq, heffects]
      rw [hrecords, hmeets]
      cases m with
      | registerState =>
        obtain ⟨inner, hinner, hinner_effects, -⟩ := map_outcome_eq_ok hexec.body
        have hafter := requirementsAgree_registerState hinner agree
        exact ⟨fun _ => rfl, fun _ => hinner_effects ▸ hafter⟩
      | publishStateGeneration =>
        obtain ⟨inner, hinner, hinner_effects, -⟩ := map_outcome_eq_ok hexec.body
        rw [hinner_effects]
        exact requirementsAgree_publish_iff hinner covered (hinner_effects ▸ heffects) agree
      | _ =>
        have hafter := agree.of_sameSets (hexec.sameSets h.coherent covered rfl)
        exact ⟨fun _ => rfl, fun _ => hrecords.mp hafter⟩
    · have hmeets : OnEffect repeatsRequirements r (.mutation m) := fun heffects =>
        absurd hnil heffects
      exact ⟨fun _ => hmeets, fun _ => agree.of_sameSets (SameCharters.of_records hsame).toSameSets⟩
  | persist =>
    exact ⟨fun _ => trivial, fun _ => agree.of_sameSets (h.sameSets covered (.persist r) (by simp))⟩
  | shutdown =>
    exact ⟨fun _ => trivial,
      fun _ => agree.of_sameSets (h.sameSets covered (.shutdown r) (by simp))⟩
  | reopen kept persistent opened =>
    exact ⟨fun _ => trivial, fun _ =>
      agree.of_sameSets (h.sameSets covered (.reopen kept persistent opened) (by simp))⟩

/-- Requirements agree along every run whose publications repeat the registered requirements, and
the first step that does not breaks the agreement. -/
theorem requirements_agree {r : Runtime}
    (h : Reachable Opened (Restrict Step (OnEffect repeatsRequirements)) r) :
    RequirementsAgree r.plane
      ∧ ∀ e r', Step r e r' → (RequirementsAgree r'.plane ↔ OnEffect repeatsRequirements r e) := by
  obtain ⟨hkept, hcovered, hagree⟩ := records_invariant (I := RequirementsAgree)
    (fun p _ hempty K set hset => by
      have hnone := abs_setGeneration hset
      rw [hempty] at hnone
      cases hnone)
    (fun r e r' hkept hcovered hstep hmeets hagree =>
      (hkept.requirementsAgree_iff_step hcovered hstep hagree).mpr hmeets) h
  exact ⟨hagree, fun e r' hstep => hkept.requirementsAgree_iff_step hcovered hstep hagree⟩

/-- A staged generation whose publication asks for three copies where it was registered with the
default requirements. -/
def Scenario.raisedRequirements : Mutation :=
  .publishStateGeneration
    { stateSpec 1 1 .immutable with
      replicationRequirements :=
        { minimumAuthoritativeReplicas := 3, desiredReplicas := 3, maximumReplicas := 4 } }

theorem requirements_agree_of_one_copy :
    RequirementsAgree (reach oneCopy).plane
      ∧ (reach oneCopy).plane.replicaSets[(⟨⟨1⟩, ⟨1⟩⟩ : StateKey)]?.isSome = true :=
  ⟨(requirements_agree (reachable_of_complies (by decide +kernel))).1, by decide +kernel⟩

/-- The publication raises the requirements of the generation and leaves those of its set. -/
theorem requirements_disagree_of_publication :
    ReachableRuntime (reach [state 1 1 .immutable, raisedRequirements])
      ∧ ¬ RequirementsAgree (reach [state 1 1 .immutable, raisedRequirements]).plane := by
  refine ⟨reachable _, fun hagree => ?_⟩
  have hdiffer : (reach [state 1 1 .immutable, raisedRequirements]).plane.replicaSets[
      (⟨⟨1⟩, ⟨1⟩⟩ : StateKey)]?.any (fun set =>
        (reach [state 1 1 .immutable, raisedRequirements]).plane.states[
          (⟨⟨1⟩, ⟨1⟩⟩ : StateKey)]?.all
            (set.requirements != ·.replicationRequirements)) = true := by
    decide +kernel
  obtain ⟨set, hset, hstate⟩ := (Option.any_eq_true _ _).mp hdiffer
  obtain ⟨state, hrecorded, hequal⟩ := hagree _ set hset
  simp [hrecorded, hequal] at hstate

/-! ## Membership -/

/-- Every counting replica carries the identity of the stored set of its generation, and authority
assessment finds it a member of that set. -/
def CountingAreMembers (p : ControlPlane) : Prop :=
  ∀ (k : ReplicaId) (replica : ReplicaRecord), p.replicas[k]? = some replica →
    replicaCountsTowardReplicationFactor replica = true →
    ∃ set, p.replicaSets[replica.key]? = some set ∧ replica.replicaSetId = set.replicaSetId
      ∧ ∀ policy, (assessReplicaAuthority replica (p.authorityContext replica.key
          replica.location.clusterId p.replicaSets[replica.key]? policy)
        ).memberOfCurrentReplicaSetGeneration = true

/-- A registered replica names no set or the one of its generation, and a set is registered under
a valid identity. -/
def enrolsByGeneration (r : Runtime) : Mutation → Bool
  | .registerState _ => r.plane.nextId != 0
  | .registerReplica registration =>
    !registration.replicaSetId.valid
      || r.plane.replicaSets[(⟨registration.stateId, registration.stateGeneration⟩ :
          StateKey)]?.all (·.replicaSetId == registration.replicaSetId)
  | _ => true

/-- Every set has a valid identity and every replica is enrolled in the set of its generation. -/
structure Enrolled (p : ControlPlane) : Prop where
  identities : ∀ (K : StateKey) c, p.replicaSets[K]?.map (·.charter) = some c → c.1.valid = true
  replicas : ∀ (k : ReplicaId) c, p.replicas[k]?.map (·.charter) = some c →
    (p.replicaSets[c.1]?.map (·.charter)).map Prod.fst = some c.2

namespace Enrolled

variable {p p' : ControlPlane}

theorem of_sameCharters (h : Enrolled p) (same : SameCharters p p') : Enrolled p' where
  identities K c hc := h.identities K c (same.replicaSets K ▸ hc)
  replicas k c hc := by
    rw [same.replicaSets]
    exact h.replicas k c (same.replicas k ▸ hc)

theorem of_batch {r : ReplicaRecord} {ops : List OperationRecord} {es : List Effect}
    (h : Enrolled inputs.plane) (b : ReplicaBatch inputs r false ops es)
    (same : SameSets inputs.plane (inputs.plane.applyAll es))
    (enrolled : (inputs.plane.replicaSets[r.key]?.map (·.charter)).map Prod.fst
      = some r.replicaSetId) :
    Enrolled (inputs.plane.applyAll es) where
  identities K c hc := h.identities K c (same.replicaSets K ▸ hc)
  replicas k c hc := by
    rw [same.replicaSets]
    rcases inputs.plane.replicas_applyAll_cases _ k with hold | ⟨w, hw, hput⟩
    · exact h.replicas k c (hold ▸ hc)
    · rw [hput, Option.map_some] at hc
      obtain rfl := Option.some.inj hc
      obtain rfl := b.eq_of_mem_putReplica hw.1
      exact enrolled

/-- A registered generation comes with a set of its own, which no replica is enrolled in yet. -/
theorem registerState (h : Enrolled inputs.plane) (coherent : Coherent inputs.plane)
    (hout : registerState spec inputs = .ok out) (valid : inputs.plane.nextId ≠ 0) :
    Enrolled (inputs.plane.applyAll out.effects) := by
  rcases registerState_effects hout with hnil
    | ⟨record, set, counters, next, hnew, heffects, hkey, -, -, -, -, hsetKey, -, -, hset, -⟩
  · rw [hnil]
    exact h
  have hsets : ∀ K, (inputs.plane.applyAll out.effects).replicaSets[K]?
      = if spec.key = K then some set else inputs.plane.replicaSets[K]? := fun K => by
    rw [heffects, ← hsetKey]
    exact OrderedMap.getElem?_insert_eq _ _ _ _
  have hreplicas : (inputs.plane.applyAll out.effects).replicas = inputs.plane.replicas := by
    rw [heffects]
    rfl
  constructor
  · intro K c hc
    rw [hsets] at hc
    split at hc
    · obtain rfl := Option.some.inj hc
      change set.replicaSetId.valid = true
      rw [hset]
      simpa [StrongId.valid] using valid
    · exact h.identities K c hc
  · intro k c hc
    rw [hreplicas] at hc
    have henrolled := h.replicas k c hc
    rw [hsets]
    split
    · rename_i hK
      obtain ⟨c', hc', -⟩ := Option.map_eq_some_iff.mp henrolled
      obtain ⟨stored, hstored, -⟩ := Option.map_eq_some_iff.mp hc'
      obtain ⟨hstoredKey, hgrounds⟩ := coherent.replicaSets hstored
      have hstate := hgrounds.state
      rw [hstoredKey, ← hK, hnew] at hstate
      cases hstate
    · exact henrolled

end Enrolled

theorem Executes.enrolled {m : Mutation} {out : Outcome Response} (h : Executes r m out)
    (coherent : Coherent r.plane) (covered : r.plane.abs.Covered)
    (enrols : enrolsByGeneration r m = true) (enrolled : Enrolled r.plane) :
    Enrolled (r.after m).plane := by
  have hsame := SameCharters.of_records h.records_eq
  have hinputs : Coherent r.inputs.plane := coherent
  have hplane : r.inputs.plane = r.plane := rfl
  cases hcharters : m.charters with
  | false => exact enrolled.of_sameCharters (h.sameCharters coherent covered hcharters)
  | true =>
    refine Enrolled.of_sameCharters ?_ hsame
    cases m with
    | registerState =>
      obtain ⟨inner, hinner, heffects, -⟩ := map_outcome_eq_ok h.body
      have hvalid : r.plane.nextId ≠ 0 := by simpa [enrolsByGeneration] using enrols
      exact heffects ▸ enrolled.registerState hinputs hinner hvalid
    | publishStateGeneration =>
      obtain ⟨inner, hinner, heffects, -⟩ := map_outcome_eq_ok h.body
      rw [heffects]
      rcases publishStateGeneration_effects hinner with hnil | ⟨_, record, -, -, hputs, -⟩
      · rw [hnil]
        exact enrolled
      · rw [hputs]
        exact ⟨enrolled.identities, enrolled.replicas⟩
    | registerReplica registration =>
      obtain ⟨inner, hinner, heffects, -⟩ := map_outcome_eq_ok h.body
      rw [heffects]
      rcases registerReplica_batch hinner with
        hnil | ⟨replica, -, -, hstate, -, -, batch, hkey, hset⟩
      · rw [hnil]
        exact enrolled
      obtain ⟨stored, hstored⟩ := Option.isSome_iff_exists.mp (isSome_set covered hstate)
      refine enrolled.of_batch batch (heffects ▸ h.sameSets_effects coherent covered rfl) ?_
      rw [hplane] at hset ⊢
      rw [hstored] at hset ⊢
      simp only [enrolsByGeneration, ← hkey, hstored] at enrols
      rw [hset]
      unfold StrongId.orElse
      split
      · rename_i hvalid
        simp only [hvalid, Bool.not_true, Bool.false_or, Option.all_some, beq_iff_eq] at enrols
        exact congrArg some enrols
      · rfl
    | authorizeReplication | authorizeMigration =>
      obtain ⟨inner, hinner, heffects, -⟩ := map_outcome_eq_ok h.body
      obtain ⟨replica, ops, set, batch, hstate, hstored, hset⟩ :=
        authorizeTransaction_charters hinner
      rw [heffects]
      refine enrolled.of_batch batch (heffects ▸ h.sameSets_effects coherent covered rfl) ?_
      rw [hstored, hset]
      rfl
    | _ => cases hcharters

theorem enrolled_of_empty (empty : p.abs = Plane.empty) : Enrolled p := by
  constructor
  · intro K c hc
    obtain ⟨set, hset, -⟩ := Option.map_eq_some_iff.mp hc
    have hnone := abs_setGeneration hset
    rw [empty] at hnone
    cases hnone
  · intro k c hc
    obtain ⟨replica, hreplica, -⟩ := Option.map_eq_some_iff.mp hc
    have hnone := abs_replicas hreplica
    rw [empty] at hnone
    cases hnone

theorem WellKept.enrolled {r' : Runtime} {e : Event} (h : WellKept r)
    (covered : r.plane.abs.Covered) (hstep : Step r e r') (enrols : OnEffect enrolsByGeneration r e)
    (enrolled : Enrolled r.plane) : Enrolled r'.plane := by
  rcases hstep.effect_cases enrols with ⟨m, out, rfl, rfl, hexec, -, hmeets⟩ | hsame | ⟨config, rfl⟩
  · exact hexec.enrolled h.coherent covered hmeets enrolled
  · exact enrolled.of_sameCharters (.of_records hsame)
  · exact enrolled.of_sameCharters (h.sameCharters covered hstep (by simp))

/-- Counting implies membership, in every run that enrols by generation. -/
theorem counting_implies_membership {r : Runtime}
    (h : Reachable Opened (Restrict Step (OnEffect enrolsByGeneration)) r) :
    CountingAreMembers r.plane := by
  obtain ⟨hkept, -, henrolled⟩ := records_invariant (I := Enrolled)
    (fun p _ hempty => enrolled_of_empty hempty)
    (fun r e r' hkept hcovered hstep hmeets henrolled =>
      hkept.enrolled hcovered hstep hmeets henrolled) h
  intro k replica hreplica hcounts
  have hmember := henrolled.replicas k replica.charter (by rw [hreplica]; rfl)
  obtain ⟨c, hc, hid⟩ := Option.map_eq_some_iff.mp hmember
  have hvalid := henrolled.identities _ c hc
  obtain ⟨set, hset, rfl⟩ := Option.map_eq_some_iff.mp hc
  have hset : r.plane.replicaSets[replica.key]? = some set := hset
  have hid : set.replicaSetId = replica.replicaSetId := hid
  have hkey : set.key = replica.key := (hkept.coherent.replicaSets hset).1
  have hgeneration : set.stateGeneration = replica.stateGeneration :=
    congrArg StateKey.generation hkey
  refine ⟨set, hset, hid.symm, fun policy => ?_⟩
  obtain ⟨hcommitted, hcounted, -⟩ := (counting_iff replica).mp hcounts
  have hcommitted : replica.commitRecorded = true := hcommitted
  have hcounted : replica.countsTowardFactor = true := hcounted
  have hvalid : replica.replicaSetId.valid = true := hid ▸ hvalid
  simp [assessReplicaAuthority_member, authorityEvidence, authorityContext, hset, hid, hgeneration,
    hcommitted, hcounted, hvalid]

theorem counting_implies_membership_of_one_copy :
    CountingAreMembers (reach oneCopy).plane
      ∧ (reach oneCopy).plane.replicas[(⟨20⟩ : ReplicaId)]?.any
        replicaCountsTowardReplicationFactor = true :=
  ⟨counting_implies_membership (reachable_of_complies (by decide +kernel)), by decide +kernel⟩

/-- A copy registered under the identity of a set that does not exist, and committed. -/
def Scenario.strayCopy : List Mutation :=
  [cluster 1, state 1 1 .immutable,
    .registerReplica
      { replicaId := ⟨20⟩, stateId := ⟨1⟩, stateGeneration := ⟨1⟩, replicaSetId := ⟨99⟩
        location := { clusterId := ⟨1⟩ } },
    completion 20, verification 20, commit 20 7 false]

/-- The stray copy counts and is a member of no set. -/
theorem counting_without_membership_of_stray_copy :
    ReachableRuntime (reach strayCopy) ∧ ¬ CountingAreMembers (reach strayCopy).plane := by
  refine ⟨reachable _, fun hmembers => ?_⟩
  have hstray : (reach strayCopy).plane.replicas[(⟨20⟩ : ReplicaId)]?.any (fun replica =>
      replicaCountsTowardReplicationFactor replica
        && (reach strayCopy).plane.replicaSets[replica.key]?.all
          (replica.replicaSetId != ·.replicaSetId)) = true := by
    decide +kernel
  obtain ⟨replica, hreplica, hfields⟩ := (Option.any_eq_true _ _).mp hstray
  obtain ⟨hcounts, hother⟩ := Bool.and_eq_true_iff.mp hfields
  obtain ⟨set, hset, hid, -⟩ := hmembers _ replica hreplica hcounts
  simp [hset, hid] at hother

end StateFabric
