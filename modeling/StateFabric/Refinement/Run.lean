import StateFabric.Fabric.Run
import StateFabric.Protocol.Evidence
import StateFabric.Protocol.Fencing
import StateFabric.Protocol.Ownership
import StateFabric.Refinement.Cluster
import StateFabric.Refinement.Durability
import StateFabric.Refinement.Operation
import StateFabric.Refinement.State

/-!
# Runs of the fabric are runs of the protocol

Every request stands for one protocol action (`Event.action`), and executing it is a protocol
step between the abstractions of the planes before and after (`Step.refines`).  The record maps
stay coherent and the directory stays in step with the plane, so re-opening the directory is
the protocol's restart.
-/

namespace StateFabric

open Protocol Transition OrderedMap

variable {e : Event} {inputs : MutationInputs} {config : FabricConfig} {p : ControlPlane}

variable {r : Runtime} {out : Outcome Response} {m : Mutation} {ρ : Type} {x : Result (Outcome ρ)}

/-! ## Actions -/

/-- The protocol action of a request that is executed. -/
def Mutation.act (r : Runtime) (m : Mutation) : Action :=
  match m with
  | .registerState spec => .registerState spec.key
  | .publishStateGeneration spec => .publish spec.key
  | .commitStateGeneration stateId generation _ => .commitState ⟨stateId, generation⟩
  | .publishCompatibility _ | .publishPlacementPolicy _ | .publishReplicationPolicy _ => .idle
  | .registerCluster registration => .cluster registration.clusterId
  | .publishClusterEvidence update => .cluster update.clusterId
  | .markClusterUnreachable clusterId _ _ => .cluster clusterId
  | .retireCluster clusterId _ => .cluster clusterId
  | .registerReplica registration =>
    .registerReplica (orMint registration.replicaId r.plane.nextId).1
  | .recordTransferProgress progress =>
    .report progress.replicaId progress.operationId
      (if progress.failed then .failed else .transferring)
  | .recordTransferCompletion completion =>
    .report completion.replicaId completion.operationId .transferred
  | .verifyReplica report =>
    .verify report.replicaId report.operationId (r.answer (.verifyReplica report)).isOk
  | .commitReplica commit => .commitReplica commit.replicaId
  | .retireReplica transition => .retire transition.replicaId
  | .quarantineReplica transition => .quarantine transition.replicaId
  | .revalidateReplica transition => .revalidate transition.replicaId
  | .authorizeReplication _ | .authorizeMigration _ => .authorize ⟨r.plane.nextId⟩
  | .commitOperation commit => .complete commit.operationId
  | .cancelOperation cancellation => .cancel cancellation.operationId
  | .transferOwnership request =>
    .handoff ⟨request.stateId, request.stateGeneration⟩ request.newOwnerReplica
  | .advanceTime _ | .advanceEpoch => .idle

/-- The protocol action of an event.  A request that is refused changes nothing. -/
def Event.action (r : Runtime) : Event → Action
  | .mutation m =>
    if r.shuttingDown || !(mutationBody m r.inputs).isOk then .idle else m.act r
  | .persist | .shutdown => .idle
  | .reopen _ => .reopen

/-! ## Executed requests -/

/-- A request is executed: the runtime accepts requests and the body does not refuse. -/
structure Executes (r : Runtime) (m : Mutation) (out : Outcome Response) : Prop where
  running : r.shuttingDown = false
  body : mutationBody m r.inputs = .ok out

namespace Executes

variable {r : Runtime} {m : Mutation} {out : Outcome Response}

theorem after_eq (h : Executes r m out) :
    r.after m = r.commit out.effects out.tick out.epoch := by
  simp only [Runtime.after, Runtime.mutate, h.running, h.body, Bool.false_eq_true, if_false]
  rfl

theorem answer_eq (h : Executes r m out) : r.answer m = out.status := by
  simp only [Runtime.answer, Runtime.mutate, h.running, h.body, Bool.false_eq_true, if_false,
    Runtime.persistAndApply_none]
  rfl

theorem effects_eq (h : Executes r m out) : r.effects m = out.effects := by
  simp only [Runtime.effects, h.running, h.body, Bool.false_eq_true, if_false]

theorem action_eq (h : Executes r m out) : Event.action r (.mutation m) = m.act r := by
  simp [Event.action, h.running, h.body, Except.isOk, Except.toBool]

end Executes

/-- A request is executed, or changes nothing and is answered with an error. -/
theorem Runtime.after_cases (r : Runtime) (m : Mutation) :
    (∃ out, Executes r m out)
      ∨ (r.after m = r ∧ (∃ e, r.answer m = .error e) ∧ Event.action r (.mutation m) = .idle) := by
  cases hrun : r.shuttingDown with
  | true => exact .inr ⟨by simp [Runtime.after, Runtime.mutate, hrun],
      by simp [Runtime.answer, Runtime.mutate, hrun], by simp [Event.action, hrun]⟩
  | false =>
    cases hbody : mutationBody m r.inputs with
    | ok out => exact .inl ⟨out, hrun, hbody⟩
    | error => exact .inr ⟨by simp [Runtime.after, Runtime.mutate, hrun, hbody],
        by simp [Runtime.answer, Runtime.mutate, hrun, hbody],
        by simp [Event.action, hbody, Except.isOk, Except.toBool]⟩

/-- What every batch of effects does to a part of the plane that time and checkpoints leave alone. -/
theorem Runtime.commit_plane {α : Type} (part : ControlPlane → α)
    (time : ∀ p tick, part (p.observeTick tick) = part p)
    (counts : ∀ (p : ControlPlane) sequence count,
      part { p with durableSequence := sequence, journalRecords := count } = part p)
    (marks : ∀ (p : ControlPlane) count,
      part { p with
        persistenceHealthy := true
        persistenceDetail := []
        snapshotsWritten := count } = part p)
    (r : Runtime) (es : List Effect) (tick : Tick) (epoch : CoordinatorEpoch) :
    part (r.commit es tick epoch).plane = part (r.plane.applyAll es) := by
  cases hempty : es.isEmpty with
  | true =>
    rw [List.isEmpty_iff.mp hempty]
    exact time r.plane tick
  | false =>
    have happlied : part ((r.appended (r.record es tick epoch)).applied
        (r.record es tick epoch)).plane = part (r.plane.applyAll es) :=
      (counts _ _ _).trans (time _ tick)
    rw [Runtime.commit_of_nonempty r hempty, Runtime.settled]
    split
    · exact (marks _ _).trans happlied
    · exact happlied

theorem commit_records (r : Runtime) (es : List Effect) (tick : Tick)
    (epoch : CoordinatorEpoch) :
    (r.commit es tick epoch).plane.records = (r.plane.applyAll es).records :=
  r.commit_plane ControlPlane.records ControlPlane.records_observeTick (fun _ _ _ => rfl)
    (fun _ _ => rfl) es tick epoch

theorem Executes.records_eq (h : Executes r m out) :
    (r.after m).plane.records = (r.plane.applyAll out.effects).records := by
  rw [h.after_eq]
  exact commit_records r _ _ _

theorem Executes.states_eq (h : Executes r m out) :
    (r.after m).plane.states = (r.plane.applyAll out.effects).states :=
  ControlPlane.states_eq_of_records h.records_eq

theorem Executes.replicas_eq (h : Executes r m out) :
    (r.after m).plane.replicas = (r.plane.applyAll out.effects).replicas :=
  ControlPlane.replicas_eq_of_records h.records_eq

theorem Executes.operations_eq (h : Executes r m out) :
    (r.after m).plane.operations = (r.plane.applyAll out.effects).operations :=
  ControlPlane.operations_eq_of_records h.records_eq

theorem Runtime.effect_cases (r : Runtime) (m : Mutation) :
    (∃ out, Executes r m out ∧ out.effects ≠ [])
      ∨ (r.effects m = [] ∧ (r.after m).plane.records = r.plane.records) := by
  by_cases hempty : r.effects m = []
  · refine .inr ⟨hempty, ?_⟩
    rcases r.after_cases m with ⟨out, hexec⟩ | ⟨hsame, -⟩
    · rw [hexec.records_eq, ← hexec.effects_eq, hempty]
      rfl
    · rw [hsame]
  · left
    unfold Runtime.effects at hempty
    split at hempty
    · exact absurd rfl hempty
    · rename_i hrunning
      split at hempty
      · rename_i out hbody
        exact ⟨out, ⟨Bool.eq_false_iff.mpr hrunning, hbody⟩, hempty⟩
      · exact absurd rfl hempty

/-- A body whose response is wrapped has the effects and the status of the body itself. -/
theorem map_outcome_eq_ok {f : ρ → Response} (h : x.map (·.map f) = .ok out) :
    ∃ inner, x = .ok inner ∧ out.effects = inner.effects
      ∧ out.status.isOk = inner.status.isOk := by
  cases x with
  | error => cases h
  | ok inner =>
    obtain rfl := Except.ok.inj h
    refine ⟨inner, rfl, rfl, ?_⟩
    cases hs : inner.status <;> simp [Outcome.map, hs, Except.map, Except.isOk, Except.toBool]

theorem effects_of_body {f : ρ → Response} {P : List Effect → Prop}
    (body : x.map (·.map f) = .ok out) (h : ∀ {inner}, x = .ok inner → P inner.effects) :
    P out.effects := by
  obtain ⟨inner, hinner, heffects, -⟩ := map_outcome_eq_ok body
  exact heffects ▸ h hinner

theorem map_outcome_status {f : ρ → Response} {inner : Outcome ρ} (h : x.map (·.map f) = .ok out)
    (hinner : x = .ok inner) : out.status = inner.status.map f := by
  rw [hinner] at h
  obtain rfl := Except.ok.inj h
  rfl

/-! ## Admissibility of every request -/

theorem advanceTime_silent {delta : Tick} {out : Outcome Tick}
    (h : advanceTime delta inputs = .ok out) : out.effects = [] := by
  simp only [advanceTime, rejectIf_bind_eq_ok, pure_eq_ok] at h
  rw [← h.2]

theorem advanceEpoch_silent {out : Outcome CoordinatorEpoch} (h : advanceEpoch inputs = .ok out) :
    out.effects = [.setEpoch inputs.plane.coordinatorEpoch.next] := by
  rw [← Except.ok.inj h]

/-- Every executed request is admissible for its action. -/
theorem Executes.admissible (h : Executes r m out) (coherent : Coherent r.plane) :
    Admissible (m.act r) r.plane out.effects := by
  have hanswer := h.answer_eq
  obtain ⟨-, hbody⟩ := h
  have hplane : r.inputs.plane = r.plane := rfl
  cases m with
  | registerState => exact effects_of_body hbody (registerState_admissible coherent)
  | publishStateGeneration => exact effects_of_body hbody publishStateGeneration_admissible
  | commitStateGeneration =>
    exact effects_of_body hbody (commitStateGeneration_admissible coherent)
  | publishCompatibility => exact effects_of_body hbody publishCompatibility_admissible
  | publishPlacementPolicy =>
    exact effects_of_body hbody publishPlacementPolicy_admissible
  | publishReplicationPolicy =>
    exact effects_of_body hbody publishReplicationPolicy_admissible
  | registerCluster =>
    exact effects_of_body hbody (registerCluster_admissible coherent)
  | publishClusterEvidence =>
    exact effects_of_body hbody (publishClusterEvidence_admissible coherent)
  | markClusterUnreachable =>
    exact effects_of_body hbody (markClusterUnreachable_admissible coherent)
  | retireCluster =>
    exact effects_of_body hbody (retireCluster_admissible coherent)
  | registerReplica =>
    exact effects_of_body hbody (registerReplica_admissible coherent)
  | recordTransferProgress =>
    exact effects_of_body hbody (recordTransferProgress_admissible coherent)
  | recordTransferCompletion =>
    exact effects_of_body hbody (recordTransferCompletion_admissible coherent)
  | verifyReplica =>
    obtain ⟨inner, hinner, heffects, hstatus⟩ := map_outcome_eq_ok hbody
    rw [Mutation.act, hanswer, hstatus, heffects]
    exact verifyReplica_admissible coherent hinner
  | commitReplica => exact effects_of_body hbody (commitReplica_admissible coherent)
  | retireReplica => exact effects_of_body hbody (retireReplica_admissible coherent)
  | quarantineReplica =>
    exact effects_of_body hbody (quarantineReplica_admissible coherent)
  | revalidateReplica =>
    exact effects_of_body hbody (revalidateReplica_admissible coherent)
  | authorizeReplication =>
    exact effects_of_body hbody (authorizeReplication_admissible coherent)
  | authorizeMigration =>
    exact effects_of_body hbody (authorizeMigration_admissible coherent)
  | commitOperation => exact effects_of_body hbody (commitOperation_admissible coherent)
  | cancelOperation =>
    exact effects_of_body hbody (cancelOperation_admissible coherent)
  | transferOwnership =>
    exact effects_of_body hbody (transferOwnership_admissible coherent)
  | advanceTime =>
    obtain ⟨inner, hinner, heffects, -⟩ := map_outcome_eq_ok hbody
    rw [heffects, advanceTime_silent hinner]
    exact admissible_of_silent (by simp)
  | advanceEpoch =>
    obtain ⟨inner, hinner, heffects, -⟩ :=
      map_outcome_eq_ok (x := StateFabric.advanceEpoch r.inputs) (f := .epoch) hbody
    rw [heffects, advanceEpoch_silent hinner]
    exact admissible_of_silent (by simp [Effect.Silent])

theorem Mutation.act_ne_reopen (r : Runtime) (m : Mutation) : m.act r ≠ .reopen := by
  cases m <;> simp [Mutation.act]

/-! ## Steps -/

/-- A step that changes nothing is a step of every action but a restart. -/
theorem Protocol.Step.refl {a : Action} (p : Plane) (live : a ≠ .reopen) : Protocol.Step a p p where
  states _ := .inl rfl
  clusters _ := .inl rfl
  replicas _ := .inl rfl
  sets _ := .inl rfl
  operations _ := .inl rfl
  ownership _ := .inl rfl
  settles reopen := absurd reopen live
  withholds reopen := absurd reopen live

/-- What every reachable runtime satisfies before anything is said about authority. -/
structure WellKept (r : Runtime) : Prop where
  coherent : Coherent r.plane
  durable : Durable r

namespace WellKept

variable {r r' : Runtime}

theorem after (h : WellKept r) (m : Mutation) : WellKept (r.after m) := by
  rcases r.after_cases m with ⟨out, hexec⟩ | ⟨hsame, -⟩
  · refine ⟨?_, h.durable.mutate _⟩
    exact (h.coherent.applyAll (hexec.admissible h.coherent).grounded).of_records hexec.records_eq
  · rwa [hsame]

theorem after_step (h : WellKept r) (m : Mutation) :
    Protocol.Step (Event.action r (.mutation m)) r.plane.abs (r.after m).plane.abs := by
  rcases r.after_cases m with ⟨out, hexec⟩ | ⟨hsame, -, hidle⟩
  · rw [hexec.action_eq, ControlPlane.abs_eq_of_records hexec.records_eq]
    exact (hexec.admissible h.coherent).lawful.step (m.act_ne_reopen r)
  · rw [hsame, hidle]
    exact .refl _ (by simp)

theorem persist_plane (r : Runtime) : r.persist.1.plane.records = r.plane.records := by
  unfold Runtime.persist
  split <;> rfl

theorem shutdown_plane (r : Runtime) : r.shutdown.1.plane.records = r.plane.records := by
  unfold Runtime.shutdown
  split
  · rfl
  · simp only
    split <;> rfl

/-- The plane a directory opens to, in terms of the records it holds. -/
theorem reopened {disk : Directory} (coherent : Coherent p) (contents : disk.contents = p.records)
    (persistent : config.persistenceDirectory ≠ []) (opened : openFabric config disk = .ok r') :
    WellKept r' ∧ ∃ q, Coherent q ∧ q.abs = p.abs ∧ r'.plane.abs = q.recover.abs := by
  obtain ⟨loaded, hload, rfl⟩ := openFabric_ok persistent opened
  have hrecords : loaded.records = p.records := (Directory.load_ok hload).1.trans contents
  have hloaded : Coherent (loaded.configure config) :=
    (coherent.of_records hrecords).configure config
  have habs : (loaded.configure config).abs = p.abs := by
    rw [← ControlPlane.abs_eq_of_records hrecords]
    simp only [ControlPlane.abs, ControlPlane.configure]
  exact ⟨⟨hloaded.recover.of_maps rfl rfl rfl rfl rfl rfl, Durable.checkpoint _⟩,
    loaded.configure config, hloaded, habs, rfl⟩

theorem reopened_records (h : WellKept r) (hstep : Step r (.reopen config) r') :
    ∃ loaded : ControlPlane, loaded.records = r.plane.records
      ∧ r'.plane.records = (loaded.configure config).recover.records := by
  cases hstep with
  | reopen kept persistent opened =>
    obtain ⟨loaded, hload, rfl⟩ := openFabric_ok persistent opened
    refine ⟨loaded, (Directory.load_ok hload).1.trans (h.durable _ kept), ?_⟩
    simp only [Runtime.checkpoint, ControlPlane.records]

/-- Every step keeps the maps coherent and the directory in step, and is a protocol step. -/
theorem step (h : WellKept r) (hstep : Step r e r') :
    WellKept r' ∧ Protocol.Step (e.action r) r.plane.abs r'.plane.abs := by
  cases hstep with
  | mutation m => exact ⟨h.after m, h.after_step m⟩
  | persist =>
    have hrecords := persist_plane r
    refine ⟨⟨h.coherent.of_records hrecords, h.durable.persist⟩, ?_⟩
    rw [ControlPlane.abs_eq_of_records hrecords]
    exact .refl _ (by simp [Event.action])
  | shutdown =>
    have hrecords := shutdown_plane r
    refine ⟨⟨h.coherent.of_records hrecords, h.durable.shutdown⟩, ?_⟩
    rw [ControlPlane.abs_eq_of_records hrecords]
    exact .refl _ (by simp [Event.action])
  | reopen kept persistent opened =>
    obtain ⟨hkept, q, hq, habs, hrecovered⟩ :=
      reopened h.coherent (h.durable _ kept) persistent opened
    refine ⟨hkept, ?_⟩
    rw [← habs, hrecovered]
    exact hq.recover_step

/-- What a step leaves of the records: all of them, what the effects of an executed request make
of them, or what a restart recovers from them. -/
theorem records_cases (h : WellKept r) (hstep : Step r e r') :
    r'.plane.records = r.plane.records
      ∨ (∃ m out, e = .mutation m ∧ r' = r.after m ∧ Executes r m out)
      ∨ ∃ config, ∃ loaded : ControlPlane, e = .reopen config ∧ loaded.records = r.plane.records
        ∧ Coherent (loaded.configure config)
        ∧ r'.plane.records = (loaded.configure config).recover.records := by
  cases hstep with
  | mutation m =>
    rcases r.after_cases m with ⟨out, hexec⟩ | ⟨hsame, -⟩
    · exact .inr (.inl ⟨m, out, rfl, rfl, hexec⟩)
    · exact .inl (congrArg (·.plane.records) hsame)
  | persist => exact .inl (persist_plane r)
  | shutdown => exact .inl (shutdown_plane r)
  | @reopen _ _ config kept persistent opened =>
    obtain ⟨loaded, hloaded, hrecords⟩ := h.reopened_records (.reopen kept persistent opened)
    exact .inr (.inr ⟨config, loaded, rfl, hloaded,
      (h.coherent.of_records hloaded).configure config, hrecords⟩)

/-- What a step leaves of a replica: the record, one that an executed request puts, or what a
restart makes of it. -/
theorem replica_cases (h : WellKept r) (hstep : Step r e r') (k : ReplicaId) :
    r'.plane.replicas[k]? = r.plane.replicas[k]?
      ∨ (∃ m out w, e = .mutation m ∧ Executes r m out ∧ .putReplica w ∈ out.effects
        ∧ w.replicaId = k ∧ r'.plane.replicas[k]? = some w)
      ∨ ∃ abandoned suspended, r'.plane.replicas[k]?
        = r.plane.replicas[k]?.map (settledCopy abandoned suspended <| recoveredReplica ·) := by
  rcases h.records_cases hstep with hsame | ⟨m, out, rfl, rfl, hexec⟩
    | ⟨config, loaded, rfl, hloaded, -, hrecords⟩
  · exact .inl (congrArg (·[k]?) (ControlPlane.replicas_eq_of_records hsame))
  · rw [hexec.replicas_eq]
    rcases r.plane.replicas_applyAll_cases out.effects k with hk | ⟨w, ⟨hput, hid⟩, hk⟩
    · exact .inl hk
    · exact .inr (.inl ⟨m, out, w, rfl, hexec, hput, hid, hk⟩)
  · refine .inr (.inr ⟨(loaded.configure config).abandonsCopy k,
      (loaded.configure config).suspendsCopy k, ?_⟩)
    rw [ControlPlane.replicas_eq_of_records hrecords, ControlPlane.getElem?_recover_replicas,
      ← ControlPlane.replicas_eq_of_records hloaded]
    rfl

theorem operation_cases (h : WellKept r) (hstep : Step r e r') (o : OperationId) :
    r'.plane.operations[o]? = r.plane.operations[o]?
      ∨ (∃ m out w, e = .mutation m ∧ Executes r m out ∧ .putOperation w ∈ out.effects
        ∧ w.operationId = o ∧ r'.plane.operations[o]? = some w)
      ∨ ∃ epoch tick, r'.plane.operations[o]?
        = r.plane.operations[o]?.map (restartedOperation · epoch tick) := by
  rcases h.records_cases hstep with hsame | ⟨m, out, rfl, rfl, hexec⟩
    | ⟨config, loaded, rfl, hloaded, hcoherent, hrecords⟩
  · exact .inl (congrArg (·[o]?) (ControlPlane.operations_eq_of_records hsame))
  · rw [hexec.operations_eq]
    rcases r.plane.operations_applyAll_cases out.effects o with hk | ⟨w, ⟨hput, hid⟩, hk⟩
    · exact .inl hk
    · exact .inr (.inl ⟨m, out, w, rfl, hexec, hput, hid, hk⟩)
  · obtain ⟨tick, htick⟩ := hcoherent.getElem?_recover_operations o
    refine .inr (.inr ⟨(loaded.configure config).coordinatorEpoch.next, tick, ?_⟩)
    rw [ControlPlane.operations_eq_of_records hrecords, htick,
      ← ControlPlane.operations_eq_of_records hloaded]
    rfl

/-- A property of set generations that every put of a step has is kept by the step; a restart leaves
the generations as they are. -/
theorem sets_step {P : UInt64 → Prop} (h : WellKept r) (hstep : Step r e r')
    (puts : ∀ m set, e = .mutation m → .putReplicaSet set ∈ r.effects m → P set.generation.value)
    (held : ∀ K g, r.plane.abs.setGeneration K = some g → P g) {K : StateKey} {g : UInt64}
    (hg : r'.plane.abs.setGeneration K = some g) : P g := by
  rcases h.records_cases hstep with hsame | ⟨m, out, rfl, rfl, hexec⟩
    | ⟨config, loaded, rfl, hloaded, -, hrecords⟩
  · rw [ControlPlane.abs_eq_of_records hsame] at hg
    exact held K g hg
  · rw [ControlPlane.abs_eq_of_records hexec.records_eq] at hg
    obtain ⟨set, hset, rfl⟩ := Option.map_eq_some_iff.mp hg
    rcases r.plane.replicaSets_applyAll_cases out.effects K with hk | ⟨w, ⟨hput, -⟩, hk⟩
    · exact held K _ (ControlPlane.abs_setGeneration (hk.symm.trans hset))
    · rw [some_unique hset hk]
      exact puts m w rfl (hexec.effects_eq ▸ hput)
  · rw [ControlPlane.abs_eq_of_records hrecords] at hg
    obtain ⟨set, hset, rfl⟩ := Option.map_eq_some_iff.mp hg
    rw [ControlPlane.getElem?_recover_replicaSets] at hset
    obtain ⟨old, hold, rfl⟩ := Option.map_eq_some_iff.mp hset
    rw [ReplicaSetRecord.view, rebuildReplicaSet_generation]
    refine held K _ ?_
    rw [← ControlPlane.abs_eq_of_records hloaded]
    exact ControlPlane.abs_setGeneration (r := old) hold

end WellKept

/-- A condition on the requests of a run, asked of those that have an effect. -/
def OnEffect (ok : Runtime → Mutation → Bool) (r : Runtime) : Event → Prop
  | .mutation m => r.effects m ≠ [] → ok r m = true
  | .persist | .shutdown | .reopen _ => True

instance OnEffect.decidable (ok : Runtime → Mutation → Bool) (r : Runtime) (e : Event) :
    Decidable (OnEffect ok r e) :=
  match e with
  | .mutation m => inferInstanceAs (Decidable (r.effects m ≠ [] → ok r m = true))
  | .persist | .shutdown | .reopen _ => inferInstanceAs (Decidable True)

/-- A condition on the restarts of a run. -/
def OnRestart (ok : Runtime → Bool) (r : Runtime) : Event → Prop
  | .reopen _ => ok r = true
  | .mutation _ | .persist | .shutdown => True

instance OnRestart.decidable (ok : Runtime → Bool) (r : Runtime) (e : Event) :
    Decidable (OnRestart ok r e) :=
  match e with
  | .reopen _ => inferInstanceAs (Decidable (ok r = true))
  | .mutation _ | .persist | .shutdown => inferInstanceAs (Decidable True)

/-- A step is an executed request that meets the condition, leaves the records as they are, or is
a restart. -/
theorem Step.effect_cases {ok : Runtime → Mutation → Bool} {r' : Runtime} (h : Step r e r')
    (meets : OnEffect ok r e) :
    (∃ m out, e = .mutation m ∧ r' = r.after m ∧ Executes r m out ∧ out.effects ≠ []
        ∧ ok r m = true)
      ∨ r'.plane.records = r.plane.records ∨ ∃ config, e = .reopen config := by
  cases h with
  | mutation m =>
    rcases r.effect_cases m with ⟨out, hexec, heffects⟩ | ⟨-, hsame⟩
    · exact .inl ⟨m, out, rfl, rfl, hexec, heffects, meets (hexec.effects_eq ▸ heffects)⟩
    · exact .inr (.inl hsame)
  | persist => exact .inr (.inl (WellKept.persist_plane r))
  | shutdown => exact .inr (.inl (WellKept.shutdown_plane r))
  | reopen => exact .inr (.inr ⟨_, rfl⟩)

/-! ## Opening an empty directory -/

theorem coherent_empty : Coherent ({} : ControlPlane) where
  states h := by simp at h
  clusters h := by simp at h
  replicas h := by simp at h
  replicaSets h := by simp at h
  operations h := by simp at h
  ownership h := by simp at h

theorem abs_empty : ({} : ControlPlane).abs = Plane.empty := by
  simp [ControlPlane.abs, Plane.empty]

theorem Coherent.abs_recover_of_empty (h : Coherent p) (empty : p.abs = Plane.empty) :
    p.recover.abs = Plane.empty := by
  have hclusters : ∀ c, p.clusters[c]? = none := fun c =>
    Option.map_eq_none_iff.mp (congrFun (congrArg Plane.clusters empty) c)
  have hreplicas : ∀ k, p.replicas[k]? = none := fun k =>
    Option.map_eq_none_iff.mp (congrFun (congrArg Plane.replicas empty) k)
  have hsets : ∀ K, p.replicaSets[K]? = none := fun K =>
    Option.map_eq_none_iff.mp (congrFun (congrArg Plane.setGeneration empty) K)
  have hoperations : ∀ o, p.recover.operations[o]? = p.operations[o]? := fun o => by
    obtain ⟨tick, htick⟩ := h.getElem?_recover_operations o
    have hnone : p.operations[o]? = none :=
      Option.map_eq_none_iff.mp (congrFun (congrArg Plane.operations empty) o)
    rw [htick, hnone, Option.map_none]
  calc p.recover.abs = p.abs := by
        simp only [ControlPlane.abs, ControlPlane.recover_states, ControlPlane.recover_ownership,
          ControlPlane.getElem?_recover_clusters, ControlPlane.getElem?_recover_replicas,
          ControlPlane.getElem?_recover_replicaSets, hoperations, hclusters, hreplicas, hsets,
          Option.map_none]
    _ = Plane.empty := empty

theorem Opened.start (h : Opened r) : WellKept r ∧ r.plane.abs = Plane.empty := by
  obtain ⟨config, hopen⟩ := h
  by_cases hpersistent : config.persistenceDirectory = []
  · simp only [openFabric, hpersistent, List.isEmpty_nil, if_true, initializeFabric,
      rejectIf_bind_eq_ok, Option.isSome_none, Bool.false_eq_true, if_false] at hopen
    obtain rfl := Except.ok.inj hopen.2.2
    refine ⟨⟨coherent_empty.of_maps rfl rfl rfl rfl rfl rfl, fun disk hdisk => by cases hdisk⟩, ?_⟩
    rw [← abs_empty]
    simp only [ControlPlane.abs, ControlPlane.configure]
  · obtain ⟨hkept, q, hq, habs, hrecovered⟩ :=
      WellKept.reopened coherent_empty rfl hpersistent hopen
    exact ⟨hkept, hrecovered.trans (hq.abs_recover_of_empty (habs.trans abs_empty))⟩

end StateFabric
