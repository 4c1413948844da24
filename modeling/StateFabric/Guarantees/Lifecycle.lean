import StateFabric.Guarantees.Recovery
import StateFabric.Protocol.Lifecycle

/-!
# Lifecycles that end, and authority that is taken away

A RETIRED or ABANDONED replica stays so in every run that lasts and whose handoffs, authorizations
and restarts spare such replicas.  `transfer_ownership` does not ask for the lifecycle of the new
owner, so without the condition a RETIRED replica can return as the owner.

A replica that was fenced regains authority only through a verification or a revalidation of its
own, in every run that lasts and in which no commit and no handover touches a disarmed replica.
Handovers demote the previous owner to AUTHORITATIVE_FOR_REUSE whatever its authority was, so without
the condition a fenced owner becomes reusable by losing its ownership.

A run that does not last takes a retirement or a fence back: an acknowledged request whose append
failed is unknown to the next re-open.
-/

namespace StateFabric

open Protocol Transition ControlPlane Scenario

variable {k : ReplicaId} {r : Runtime} {replica : ReplicaRecord} {p : ControlPlane}

/-! ## Terminal replicas -/

/-- The request hands ownership to no terminal replica and reserves the identity of none. -/
def sparesEnded (r : Runtime) : Mutation → Bool
  | .transferOwnership request => r.plane.replicas[request.newOwnerReplica]?.all (!·.isTerminal)
  | .authorizeReplication _ | .authorizeMigration _ =>
    r.plane.replicas[destinationOf ⟨r.plane.nextId⟩]?.all (!·.isTerminal)
  | _ => true

/-- No operation that a restart abandons has a RETIRED destination that was never committed. -/
def restartSparesEnded (r : Runtime) : Bool :=
  r.plane.operationList.all fun operation =>
    !(classifyRecovery operation.state).destinationAbandoned
      || r.plane.replicas[operation.destinationReplica]?.all fun replica =>
        replica.commitRecorded || replica.lifecycle != .retired

/-- The event writes no terminal replica anew. -/
def SparesEnded (r : Runtime) (e : Event) : Prop :=
  OnEffect sparesEnded r e ∧ OnRestart restartSparesEnded r e

instance SparesEnded.decidable (r : Runtime) (e : Event) : Decidable (SparesEnded r e) :=
  inferInstanceAs (Decidable (OnEffect sparesEnded r e ∧ OnRestart restartSparesEnded r e))

/-- The replica has no authority and is no candidate for it. -/
def ReplicaRecord.disarmed (replica : ReplicaRecord) : Bool :=
  replica.authority == .fenced || replica.authority == .historical || replica.authority == .none

theorem ReplicaRecord.disarmed_iff (replica : ReplicaRecord) :
    replica.disarmed = true ↔ replica.view.Disarmed := by
  simp [ReplicaRecord.disarmed, ReplicaView.Disarmed, ReplicaRecord.view, or_assoc]

/-- The replica, if it is registered, is not disarmed. -/
def ControlPlane.armed (p : ControlPlane) (k : ReplicaId) : Bool :=
  p.replicas[k]?.all (!·.disarmed)

/-- The recorded owner of a generation, if there is one, is not disarmed. -/
def ControlPlane.ownerArmed (p : ControlPlane) (key : StateKey) : Bool :=
  p.ownership[key]?.all fun ownership => !ownership.active || p.armed ownership.ownerReplica

/-- The request commits and promotes no disarmed replica, demotes no disarmed owner, and reserves
an unused identity. -/
def sparesDisarmed (r : Runtime) : Mutation → Bool
  | .commitReplica commit => r.plane.armed commit.replicaId
  | .commitOperation commit =>
    r.plane.operations[commit.operationId]?.all fun operation =>
      r.plane.armed operation.destinationReplica
        && r.plane.replicas[operation.destinationReplica]?.all (r.plane.ownerArmed ·.key)
  | .transferOwnership request =>
    r.plane.armed request.newOwnerReplica
      && r.plane.ownerArmed ⟨request.stateId, request.stateGeneration⟩
  | .authorizeReplication _ | .authorizeMigration _ =>
    r.plane.replicas[destinationOf ⟨r.plane.nextId⟩]?.isNone
  | _ => true

theorem ControlPlane.not_disarmed (armed : p.armed k = true) {v : ReplicaView}
    (hv : p.abs.replicas k = some v) : ¬ v.Disarmed := by
  obtain ⟨replica, hreplica, rfl⟩ := abs_replicas_eq_some.mp hv
  rw [← replica.disarmed_iff]
  simpa [ControlPlane.armed, hreplica] using armed

theorem ControlPlane.armed_of_owns {K : StateKey} (armed : p.ownerArmed K = true)
    (owns : p.abs.Owns K k) : p.armed k = true := by
  obtain ⟨ownership, hownership, hview⟩ := Option.map_eq_some_iff.mp owns
  have hactive : ownership.active = true := congrArg OwnershipView.active hview
  have howner : ownership.ownerReplica = k := congrArg OwnershipView.owner hview
  rw [← howner]
  simpa [ControlPlane.ownerArmed, hownership, hactive] using armed

theorem sparesDisarmed_spec {m : Mutation} (h : sparesDisarmed r m = true) :
    SparesDisarmed (m.act r) r.plane.abs where
  fresh o hact := by
    cases m with
    | authorizeReplication | authorizeMigration =>
      obtain rfl := Action.authorize.inj hact
      exact Option.map_eq_none_iff.mpr (Option.isNone_iff_eq_none.mp h)
    | _ => simp [Mutation.act] at hact
  committed k v hact hv := by
    cases m with
    | commitReplica commit =>
      obtain rfl : commit.replicaId = k := by simpa [Mutation.act] using hact
      exact not_disarmed h hv
    | commitOperation commit =>
      obtain ⟨op, hop, hdest⟩ : ∃ op, r.plane.abs.operations commit.operationId = some op
          ∧ op.destination = k := by simpa [Mutation.act] using hact
      obtain ⟨operation, hoperation, rfl⟩ := abs_operations_eq_some.mp hop
      rw [sparesDisarmed, hoperation, Option.all_some, Bool.and_eq_true] at h
      have hk : operation.destinationReplica = k := hdest
      exact not_disarmed (hk ▸ h.1) hv
    | _ => simp [Mutation.act] at hact
  promoted k v hact hv := by
    cases m with
    | transferOwnership =>
      obtain ⟨-, rfl⟩ := Action.handoff.inj hact
      exact not_disarmed ((Bool.and_eq_true _ _).mp h).1 hv
    | _ => simp [Mutation.act] at hact
  demoted K k v hact howns hv := by
    refine not_disarmed (armed_of_owns (K := K) ?_ howns) hv
    cases m with
    | commitOperation commit =>
      obtain ⟨op, hop, w, hw, hkey⟩ : ∃ op, r.plane.abs.operations commit.operationId = some op
          ∧ ∃ w, r.plane.abs.replicas op.destination = some w ∧ w.key = K := by
        simpa [Mutation.act] using hact
      obtain ⟨operation, hoperation, rfl⟩ := abs_operations_eq_some.mp hop
      obtain ⟨destination, hdestination, rfl⟩ := abs_replicas_eq_some.mp hw
      rw [sparesDisarmed, hoperation, Option.all_some, Bool.and_eq_true,
        show r.plane.replicas[operation.destinationReplica]? = some destination from hdestination,
        Option.all_some] at h
      exact hkey ▸ h.2
    | transferOwnership request =>
      obtain ⟨n, hkey⟩ : ∃ n, Action.handoff ⟨request.stateId, request.stateGeneration⟩
          request.newOwnerReplica = .handoff K n := by simpa [Mutation.act] using hact
      obtain ⟨rfl, -⟩ := Action.handoff.inj hkey
      exact ((Bool.and_eq_true _ _).mp h).2
    | _ => simp [Mutation.act] at hact

/-- A step that meets the condition leaves the replicas as they are or is a protocol step that
spares disarmed copies. -/
theorem spares_or_same {r' : Runtime} {e : Event} (hstep : Step r e r')
    (meets : OnEffect sparesDisarmed r e) :
    SparesDisarmed (e.action r) r.plane.abs ∨ r'.plane.abs = r.plane.abs := by
  rcases hstep.effect_cases meets with ⟨m, out, rfl, -, hexec, -, hspares⟩ | hsame | ⟨config, rfl⟩
  · rw [hexec.action_eq]
    exact .inl (sparesDisarmed_spec hspares)
  · exact .inr (abs_eq_of_records hsame)
  · exact .inl
      { fresh := fun o act => by cases act
        committed := fun k v act => by simp [Event.action] at act
        promoted := fun k v act => by cases act
        demoted := fun K k v act => by simp [Event.action] at act }

/-- What every step that spares disarmed replicas keeps. -/
def AllDisarming (r : Runtime) : Prop := ∀ k v, r.plane.abs.replicas k = some v → Disarming v

theorem AllDisarming.step {r' : Runtime} {e : Event} (h : AllDisarming r) (kept : WellKept r)
    (hstep : Step r e r') (meets : OnEffect sparesDisarmed r e) : AllDisarming r' := by
  rcases spares_or_same hstep meets with hspares | hsame
  · exact (kept.step hstep).2.disarming hspares h
  · exact fun k v hv => h k v (hsame ▸ hv)

end StateFabric
