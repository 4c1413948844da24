import StateFabric.Guarantees.Authorization

/-!
# State isolation

Every request about a state generation, a replica, an operation or an ownership record acts on one
state identity (`Mutation.actsOn`).  The records it reaches indirectly, the previous owner and the
copies of an operation, are of the same state because of what the protocol keeps about owners and
operations; so its effects are within that identity, and in runs that wrap no counter nothing of
another state is changed, removed or created.
-/

namespace StateFabric

open Protocol Transition ControlPlane OrderedMap MutationInputs Scenario

variable {s : StateId} {p : ControlPlane} {m : Mutation}

/-! ## Effects within a state identity -/

/-- An effect that puts records of one state identity over records of the same identity, and no
cluster, compatibility or policy record. -/
def Effect.Within (s : StateId) (p : ControlPlane) : Effect → Prop
  | .putState r => r.stateId = s
  | .putReplica r => r.stateId = s ∧ ∀ old, p.replicas[r.replicaId]? = some old → old.stateId = s
  | .putReplicaSet set => set.stateId = s
  | .putOwnership o => o.stateId = s
  | .putAuthorization a =>
    a.stateId = s ∧ ∀ old, p.authorizations[a.operationId]? = some old → old.stateId = s
  | .putOperation _ | .putCounters _ | .setEpoch _ | .setNextId _ => True
  | .putCluster _ | .putCompatibility _ | .putPlacementPolicy _ | .putReplicationPolicy _ => False

/-- Two planes that agree on everything that is not of one state identity. -/
structure Isolated (s : StateId) (p p' : ControlPlane) : Prop where
  states : ∀ K : StateKey, K.stateId ≠ s → p'.states[K]? = p.states[K]?
  replicaSets : ∀ K : StateKey, K.stateId ≠ s → p'.replicaSets[K]? = p.replicaSets[K]?
  ownership : ∀ K : StateKey, K.stateId ≠ s → p'.ownership[K]? = p.ownership[K]?
  replicas : ∀ (k : ReplicaId) (replica : ReplicaRecord), replica.stateId ≠ s →
    (p'.replicas[k]? = some replica ↔ p.replicas[k]? = some replica)
  authorizations : ∀ (o : OperationId) (a : TransferAuthorization), a.stateId ≠ s →
    (p'.authorizations[o]? = some a ↔ p.authorizations[o]? = some a)
  clusters : p'.clusters = p.clusters
  compatibilityRecords : p'.compatibilityRecords = p.compatibilityRecords
  placementPolicies : p'.placementPolicies = p.placementPolicies
  replicationPolicies : p'.replicationPolicies = p.replicationPolicies

theorem Isolated.refl (s : StateId) (p : ControlPlane) : Isolated s p p :=
  ⟨fun _ _ => rfl, fun _ _ => rfl, fun _ _ => rfl, fun _ _ _ => .rfl, fun _ _ _ => .rfl, rfl, rfl,
    rfl, rfl⟩

theorem Isolated.applyAll {es : List Effect} (within : ∀ e ∈ es, e.Within s p) :
    Isolated s p (p.applyAll es) where
  states K other := by
    rw [applyAll_states]
    refine getElem?_insertAll_of_not_mem fun r hr => ?_
    obtain ⟨hput, rfl⟩ := mem_statePuts.mp hr
    exact other (within _ hput)
  replicaSets K other := by
    rw [applyAll_replicaSets]
    refine getElem?_insertAll_of_not_mem fun r hr => ?_
    obtain ⟨hput, rfl⟩ := mem_replicaSetPuts.mp hr
    exact other (within _ hput)
  ownership K other := by
    rw [applyAll_ownership]
    refine getElem?_insertAll_of_not_mem fun r hr => ?_
    obtain ⟨hput, rfl⟩ := mem_ownershipPuts.mp hr
    exact other (within _ hput)
  replicas k replica other := by
    rw [applyAll_replicas]
    refine getElem?_insertAll_eq_some_iff (P := fun r => r.stateId = s) (fun k r hr => ?_) other
    obtain ⟨hput, rfl⟩ := mem_replicaPuts.mp hr
    exact within _ hput
  authorizations o a other := by
    rw [applyAll_authorizations]
    refine getElem?_insertAll_eq_some_iff (P := fun a => a.stateId = s) (fun o a ha => ?_) other
    obtain ⟨hput, rfl⟩ := mem_authorizationPuts.mp ha
    exact within _ hput
  clusters := clusters_applyAll_of_not_mem fun _ hput => within _ hput
  compatibilityRecords := by
    rw [applyAll_compatibilityRecords, List.filterMap_eq_nil_iff.mpr, insertAll_nil]
    intro e he
    cases e <;> first | rfl | exact (within _ he).elim
  placementPolicies := by
    rw [applyAll_placementPolicies, List.filterMap_eq_nil_iff.mpr, insertAll_nil]
    intro e he
    cases e <;> first | rfl | exact (within _ he).elim
  replicationPolicies := by
    rw [applyAll_replicationPolicies, List.filterMap_eq_nil_iff.mpr, insertAll_nil]
    intro e he
    cases e <;> first | rfl | exact (within _ he).elim

theorem Isolated.of_records {q q' : ControlPlane} (h : Isolated s p q) (eq : q'.records = q.records) :
    Isolated s p q' where
  states := states_eq_of_records eq ▸ h.states
  replicaSets := replicaSets_eq_of_records eq ▸ h.replicaSets
  ownership := ownership_eq_of_records eq ▸ h.ownership
  replicas := replicas_eq_of_records eq ▸ h.replicas
  authorizations := authorizations_eq_of_records eq ▸ h.authorizations
  clusters := (clusters_eq_of_records eq).trans h.clusters
  compatibilityRecords :=
    (congrArg ControlPlane.compatibilityRecords eq :).trans h.compatibilityRecords
  placementPolicies := (congrArg ControlPlane.placementPolicies eq :).trans h.placementPolicies
  replicationPolicies :=
    (congrArg ControlPlane.replicationPolicies eq :).trans h.replicationPolicies

/-! ## What a request acts on -/

/-- The state identity a state, replica, operation or ownership request acts on: the one it names,
or that of the replica or operation it names. -/
def Mutation.actsOn (p : ControlPlane) : Mutation → Option StateId
  | .registerState spec | .publishStateGeneration spec => some spec.stateId
  | .commitStateGeneration stateId _ _ => some stateId
  | .registerReplica { stateId := s, .. } | .authorizeReplication { stateId := s, .. }
  | .authorizeMigration { stateId := s, .. } | .transferOwnership { stateId := s, .. } => some s
  | .recordTransferProgress { replicaId := k, .. } | .recordTransferCompletion { replicaId := k, .. }
  | .verifyReplica { replicaId := k, .. } | .commitReplica { replicaId := k, .. }
  | .retireReplica { replicaId := k, .. } | .quarantineReplica { replicaId := k, .. }
  | .revalidateReplica { replicaId := k, .. } => p.replicas[k]?.map (·.stateId)
  | .commitOperation { operationId := o, .. } | .cancelOperation { operationId := o, .. } =>
    p.operations[o]?.map (·.stateId)
  | _ => none

theorem Protocol.Owned.reaches (owned : Owned p.abs) (acts : m.actsOn p = some s) :
    m.Reaches p (· = s) := by
  have hnamed : ∀ {k : ReplicaId}, p.replicas[k]?.map (·.stateId) = some s →
      ∀ replica, p.replicas[k]? = some replica → replica.stateId = s := by
    intro k hk replica hreplica
    rw [hreplica] at hk
    exact Option.some.inj hk
  have howners : p.OwnersWithin (· = s) := by
    rintro K k replica rfl howns hreplica
    obtain ⟨v, hv, hkey, -⟩ := owned.held K k howns
    obtain rfl := some_unique hv (abs_replicas hreplica)
    exact congrArg StateKey.stateId hkey
  have hcopies : ∀ {o : OperationId}, p.operations[o]?.map (·.stateId) = some s →
      ∀ op, p.operations[o]? = some op → ∀ k, k = op.sourceReplica ∨ k = op.destinationReplica →
      ∀ replica, p.replicas[k]? = some replica → replica.stateId = s := by
    intro o ho op hop k hk replica hreplica
    rw [hop] at ho
    have hkey : replica.view.key = op.view.key := by
      rcases hk with rfl | rfl
      · obtain ⟨v, hv, hkey⟩ := owned.source o op.view (abs_operations hop)
        rw [some_unique (abs_replicas hreplica) hv, hkey]
      · obtain ⟨v, hv, hkey⟩ := owned.destination o op.view (abs_operations hop)
        rw [some_unique (abs_replicas hreplica) hv, hkey]
    exact (congrArg StateKey.stateId hkey).trans (Option.some.inj ho)
  cases m with
  | registerState | publishStateGeneration | commitStateGeneration | registerReplica
  | authorizeReplication | authorizeMigration => exact Option.some.inj acts
  | recordTransferProgress | recordTransferCompletion | verifyReplica | commitReplica
  | retireReplica | quarantineReplica | revalidateReplica => exact hnamed acts
  | commitOperation | cancelOperation => exact ⟨howners, hcopies acts⟩
  | transferOwnership => exact ⟨howners, Option.some.inj acts⟩
  | _ => cases acts

/-- What a request that acts on a state puts is within that state, if it mints unused
identities. -/
theorem Put.within {inputs : MutationInputs} {e : Effect} (h : Put inputs m (· = s) e)
    (coherent : Coherent inputs.plane) (unused : m.isAuthorization = true →
      inputs.plane.authorizations[(⟨inputs.plane.nextId⟩ : OperationId)]? = none
        ∧ inputs.plane.replicas[(⟨inputs.plane.nextId + 4⟩ : ReplicaId)]? = none) :
    e.Within s inputs.plane := by
  have hbump : ∀ {K : StateKey} (adv : Bool), K.stateId = s →
      (Effect.putReplicaSet (inputs.bumped K adv)).Within s inputs.plane := fun adv state =>
    (congrArg StateKey.stateId (coherent.bumped_key _ adv)).trans state
  cases h with
  | counters | next | epoch | operation => trivial
  | shared kind all =>
    -- No request about a single state puts a record all states share.
    exact absurd ((all ⟨0⟩).trans (all ⟨1⟩).symm) (by decide)
  | state recorded key requirements acts => exact (congrArg StateKey.stateId key).trans acts
  | replica recorded revised acts =>
    have hkey := congrArg (fun c => c.1.stateId) revised.charter
    refine ⟨hkey.trans acts, fun old hold => ?_⟩
    rw [revised.id, (coherent.replicas recorded).1, recorded] at hold
    exact Option.some.inj hold ▸ acts
  | bump registered acts adv => exact hbump adv acts
  | set recorded key charter count acts =>
    have hkey := key.trans (coherent.replicaSets recorded).1
    exact (congrArg StateKey.stateId hkey).trans acts
  | ownership acts | newState declares acts | newSet declares acts => exact acts
  | newReplica charters acts fresh => exact ⟨acts, fun old hold => by simp [fresh] at hold⟩
  | planned asks made put acts =>
    obtain ⟨hgrant, hreplica⟩ := unused (Mutation.isAuthorization_of_transfer asks)
    have hkey := congrArg StateKey.stateId (planTransfer_derived made).key
    simp only [TransferPlan.effects, List.mem_cons, List.not_mem_nil, or_false] at put
    rcases put with rfl | rfl | rfl | rfl | rfl | rfl
    · trivial
    · refine ⟨hkey.trans acts, fun old hold => ?_⟩
      cases hgrant.symm.trans hold
    · refine ⟨hkey.trans acts, fun old hold => ?_⟩
      cases hreplica.symm.trans hold
    · exact hbump false (hkey.trans acts)
    · trivial
    · trivial

/-- State isolation: in every run that wraps no counter, a request that acts on a state changes no
record of another state and no cluster, compatibility or policy record. -/
theorem state_isolation {r : Runtime} (reachable : Reachable Opened (Restrict Step NoWrap) r)
    {m : Mutation} (nowrap : NoWrap r (.mutation m)) {s : StateId}
    (acts : m.actsOn r.plane = some s) : Isolated s r.plane (r.after m).plane := by
  obtain ⟨hkept, habove⟩ := counterAbove_of_noWrap reachable
  have howned := (bounded_invariant owned_empty
    (fun _ _ _ _ _ hmints hstep hI => hstep.owned hmints hI) reachable).2.2
  rcases r.after_cases m with ⟨out, hexec⟩ | ⟨hsame, -⟩
  · have hrange : ∀ effect ∈ out.effects, effect.InRange := hexec.effects_eq ▸ nowrap
    refine (Isolated.applyAll fun e he => ?_).of_records hexec.records_eq
    exact ((hexec.carried hkept.coherent (howned.reaches acts)).effects e he).within
      hkept.coherent fun hauthorizes => (hexec.mints_unused hauthorizes habove hrange).2
  · rw [hsame]
    exact Isolated.refl s r.plane

/-- Ownership is handed back to a copy of the same state. -/
theorem state_isolation_of_handedOver :
    Isolated ⟨1⟩ (reach handedOver).plane
      ((reach handedOver).after (Scenario.handoff 1 1 21 20 1 9)).plane :=
  state_isolation (reachable_of_complies (by decide +kernel)) (by decide +kernel)
    (by decide +kernel)

end StateFabric
