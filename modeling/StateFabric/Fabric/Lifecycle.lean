import StateFabric.Fabric.Operation
import StateFabric.Persistence.Directory

/-!
# Runtime lifecycle, recovery and persistence

`src/fabric_lifecycle.cpp` and `Fabric::Impl` (`src/detail/fabric_impl.hpp`): a mutation is
computed against the plane, made durable, then applied; opening a directory replays it and
recovers conservatively.  Nothing destructive is reissued blindly: an operation whose outcome
is not certain becomes OUTCOME_UNKNOWN and its destination copy is quarantined.

A runtime is its plane together with the directory it keeps.  Its writes may fail: every request is
executed with what goes wrong with them, which is nothing unless it is said.
-/

namespace StateFabric

/-! ## Recovery -/

/-- What recovery does with an operation that was in flight. -/
structure RecoveryOutcome where
  state : OperationState := .outcomeUnknown
  destinationTrusted : Bool := false
  destinationAbandoned : Bool := false
  reason : Text := []

def classifyRecovery (state : OperationState) : RecoveryOutcome :=
  match state with
  | .planned | .reserved | .stagingDestination | .transferring =>
    { state := .abandoned
      destinationAbandoned := true
      reason := text ("abandoned during coordinator recovery: the transfer had not completed, "
        ++ "so the destination copy carries no authority") }
  | .transferred | .verifying | .prepared =>
    { state := .outcomeUnknown
      reason := text ("outcome unknown after coordinator restart: a completed transfer was never "
        ++ "committed, so the destination requires explicit revalidation") }
  | .committed | .addedToReplicaSet =>
    { state := .complete
      destinationTrusted := true
      reason := text ("completed: the destination commit was already durable before the "
        ++ "restart") }
  | .sourceRetiring =>
    { state := .outcomeUnknown
      reason := text ("source retirement was interrupted: the source is preserved and the "
        ++ "retirement requires explicit reissue") }
  | state => { state := state, reason := text "terminal state preserved" }

/-- A cluster after a restart: its evidence is gone. -/
def recoveredCluster (cluster : ClusterRecord) : ClusterRecord :=
  { cluster with
    evidence := { cluster.evidence with revalidationRequired := true, present := false }
    lifecycle := if cluster.lifecycle = .active then .suspect else cluster.lifecycle }

/-- A replica after a restart: committed membership survives, live evidence does not. -/
def recoveredReplica (replica : ReplicaRecord) : ReplicaRecord :=
  if replica.isTerminal then replica
  else
    { replica with
      evidence := { replica.evidence with revalidationRequired := true }
      availability := .unknown }

/-- The destination of an operation whose transfer had not completed. -/
def abandonedByRecovery (replica : ReplicaRecord) : ReplicaRecord :=
  { replica with
    lifecycle := .abandoned
    authority := .none
    countsTowardFactor := false
    availability := .absent
    lastError := text "abandoned during coordinator recovery" }

/-- The destination of an operation whose outcome is unknown. -/
def quarantinedByRecovery (replica : ReplicaRecord) : ReplicaRecord :=
  { replica with
    lifecycle := .quarantined
    authority := .fenced
    countsTowardFactor := false
    availability := .unknown
    evidence := { replica.evidence with revalidationRequired := true }
    lastError := text "quarantined during coordinator recovery" }

/-- The operation as recovery leaves it. -/
def recoveredOperation (operation : OperationRecord) (epoch : CoordinatorEpoch) (tick : Tick) :
    OperationRecord :=
  let outcome := classifyRecovery operation.state
  let trusted := !outcome.destinationAbandoned && outcome.state != .outcomeUnknown
  { OperationRecord.note
      { operation with
        state := outcome.state
        recoveryRequired := !outcome.destinationTrusted
        lastEpoch := epoch
        updatedAt := tick }
      (text "recovery: " ++ outcome.reason) with
    destinationCommitted := trusted
    destinationVerified := if trusted then true else operation.destinationVerified }

/-- What recovery writes for the destination of an in-flight operation, if anything. -/
def recoveredDestination (operation : OperationRecord) (destination : ReplicaRecord) :
    Option ReplicaRecord :=
  let outcome := classifyRecovery operation.state
  if outcome.destinationAbandoned then
    if destination.commitRecorded then none else some (abandonedByRecovery destination)
  else if outcome.state = .outcomeUnknown then
    if !destination.commitRecorded && !destination.isTerminal then
      some (quarantinedByRecovery destination)
    else none
  else none

/-- The counters after one operation was recovered. -/
def recoveryCounters (operation : OperationRecord) (destinationWritten : Bool)
    (counters : FabricCounters) : FabricCounters :=
  let outcome := classifyRecovery operation.state
  let counters := { counters with operationsRecovered := counters.operationsRecovered + 1 }
  if outcome.destinationAbandoned then
    let counters := { counters with operationsAbandoned := counters.operationsAbandoned + 1 }
    if destinationWritten then
      { counters with replicasAbandoned := counters.replicasAbandoned + 1 }
    else counters
  else if outcome.state = .outcomeUnknown then
    if destinationWritten then
      { counters with replicasQuarantined := counters.replicasQuarantined + 1 }
    else counters
  else { counters with operationsCommitted := counters.operationsCommitted + 1 }

namespace ControlPlane

/-- One iteration of the recovery loop over operations. -/
def recoverOperation (p : ControlPlane) (operation : OperationRecord) : ControlPlane :=
  if operation.isTerminal then p
  else
    let tick := p.logicalTime + 1
    let destination :=
      p.replicas[operation.destinationReplica]?.bind (recoveredDestination operation)
    { p with
      logicalTime := tick
      counters := recoveryCounters operation destination.isSome p.counters
      operations := p.operations.insert operation.operationId
        (recoveredOperation operation p.coordinatorEpoch tick)
      replicas := match destination with
        | some replica => p.replicas.insert operation.destinationReplica replica
        | none => p.replicas }

/-- The replica sets after a restart: to be revalidated, under the new epoch, with their
membership rebuilt from the recovered replicas. -/
def recoverReplicaSets (p : ControlPlane) : ControlPlane :=
  { p with
    replicaSets := p.replicaSets.map fun _ set =>
      p.rebuildReplicaSet { set with revalidationRequired := true, epoch := p.coordinatorEpoch } }

/-- What `initialize` does to a plane that came from durable state. -/
def recover (p : ControlPlane) : ControlPlane :=
  let p := { p with
    coordinatorEpoch := p.coordinatorEpoch.next
    replayGeneration := p.replayGeneration + 1
    clusters := p.clusters.map fun _ cluster => recoveredCluster cluster
    replicas := p.replicas.map fun _ replica => recoveredReplica replica }
  let p := p.operationList.foldl recoverOperation p
  let p := p.recoverReplicaSets.recomputeDerivedCounters
  { p with persistenceDetail := text "control plane recovered after coordinator restart" }

/-- The identity and the starting points a configuration imposes on a plane. -/
def configure (p : ControlPlane) (config : FabricConfig) : ControlPlane :=
  let epoch := if p.coordinatorEpoch < config.epochStart then config.epochStart
    else p.coordinatorEpoch
  { p with
    coordinatorId := config.coordinatorId
    coordinatorEpoch := if epoch.valid then epoch else ⟨1⟩
    logicalTime := if p.logicalTime < config.logicalStart then config.logicalStart
      else p.logicalTime }

end ControlPlane

/-! ## The runtime -/

/-- A running coordinator and the directory it keeps, if it keeps one. -/
structure Runtime where
  plane : ControlPlane
  config : FabricConfig
  store : Option Directory := none
  shuttingDown : Bool := false
  recoveredFromDurable : Bool := false
  journalSinceCheckpoint : UInt64 := 0

namespace Runtime

/-- A checkpoint that succeeds, for a runtime with a store. -/
def checkpoint (r : Runtime) : Runtime :=
  { r with
    store := some (Directory.checkpoint r.plane)
    plane := { r.plane with
      persistenceHealthy := true
      persistenceDetail := []
      snapshotsWritten := r.plane.snapshotsWritten + 1 }
    journalSinceCheckpoint := 0 }

/-- The runtime after a write that failed, which the plane remembers. -/
def unhealthy (r : Runtime) (e : Error) : Runtime :=
  { r with plane := { r.plane with persistenceHealthy := false, persistenceDetail := e.str } }

/-- `force_checkpoint_locked`, for a runtime with a store. -/
def forceCheckpoint (r : Runtime) (fault : Option CheckpointFault) : Runtime × Result Unit :=
  match fault with
  | none => (r.checkpoint, .ok ())
  | some (step, e) =>
    (unhealthy { r with store := r.store.map (·.checkpointUntil r.plane step) } e, .error e)

/-- Whether an automatic checkpoint is due. -/
def due (r : Runtime) : Bool :=
  r.store.isSome && r.config.journalRecordsBeforeSnapshot ≤ r.journalSinceCheckpoint

/-- The automatic checkpoint; its failure is reported only when commits must be durable. -/
def checkpointWhenDue (r : Runtime) (fault : Option CheckpointFault) : Runtime × Result Unit :=
  if r.due then
    ((r.forceCheckpoint fault).1,
      if r.config.requireDurableCommits then (r.forceCheckpoint fault).2 else .ok ())
  else (r, .ok ())

/-- The journal record of a batch of effects. -/
def record (r : Runtime) (effects : List Effect) (tick : Tick) (epoch : CoordinatorEpoch) :
    JournalRecord :=
  { effects := effects, sequence := r.plane.durableSequence + 1, tick := tick, epoch := epoch }

/-- Applies a journal record in memory. -/
def applied (r : Runtime) (record : JournalRecord) : Runtime :=
  let p := (r.plane.applyAll record.effects).observeTick record.tick
  { r with
    plane := { p with
      durableSequence := record.sequence
      journalRecords := p.journalRecords + 1 }
    journalSinceCheckpoint := r.journalSinceCheckpoint + 1 }

/-- Appends a journal record to the directory. -/
def appended (r : Runtime) (record : JournalRecord) : Runtime :=
  { r with store := r.store.map (·.append record) }

/-- `persist_and_apply`.  A mutation whose append fails is refused when commits must be durable;
otherwise it is applied and acknowledged although the directory does not have it. -/
def persistAndApply (r : Runtime) (faults : Faults) (effects : List Effect) (tick : Tick)
    (epoch : CoordinatorEpoch) : Runtime × Result Unit :=
  if effects.isEmpty then ({ r with plane := r.plane.observeTick tick }, .ok ())
  else
    let record := r.record effects tick epoch
    match r.store, faults.append with
    | some _, some (_, e) =>
      if r.config.requireDurableCommits then (r, .error e)
      else ((r.unhealthy e).applied record).checkpointWhenDue faults.checkpoint
    | _, _ => ((r.appended record).applied record).checkpointWhenDue faults.checkpoint

/-- The runtime after a batch of effects whose writes succeed. -/
def commit (r : Runtime) (effects : List Effect) (tick : Tick) (epoch : CoordinatorEpoch) :
    Runtime :=
  (r.persistAndApply {} effects tick epoch).1

/-- The runtime after the automatic checkpoint, if it is due and succeeds. -/
def settled (r : Runtime) : Runtime := if r.due then r.checkpoint else r

/-- An automatic checkpoint without a fault reports nothing. -/
theorem checkpointWhenDue_none (r : Runtime) : r.checkpointWhenDue none = (r.settled, .ok ()) := by
  unfold checkpointWhenDue settled
  cases r.due with
  | true => simp [forceCheckpoint]
  | false => rfl

/-- Without faults a batch of effects is committed and acknowledged. -/
theorem persistAndApply_none (r : Runtime) (effects : List Effect) (tick : Tick)
    (epoch : CoordinatorEpoch) :
    r.persistAndApply {} effects tick epoch = (r.commit effects tick epoch, .ok ()) := by
  refine Prod.ext rfl ?_
  unfold persistAndApply
  split
  · rfl
  · cases r.store <;> simp only [checkpointWhenDue_none]

/-- No effects move the logical time at most. -/
theorem commit_nil (r : Runtime) (tick : Tick) (epoch : CoordinatorEpoch) :
    r.commit [] tick epoch = { r with plane := r.plane.observeTick tick } := rfl

/-- A batch of effects is appended and applied, and the automatic checkpoint follows. -/
theorem commit_of_nonempty (r : Runtime) {effects : List Effect} (h : effects.isEmpty = false)
    (tick : Tick) (epoch : CoordinatorEpoch) :
    r.commit effects tick epoch
      = ((r.appended (r.record effects tick epoch)).applied (r.record effects tick epoch)).settled
      := by
  simp only [commit, persistAndApply, h, Bool.false_eq_true, if_false]
  cases r.store <;> simp only [checkpointWhenDue_none]

/-- What a mutation body is given. -/
def inputs (r : Runtime) : MutationInputs :=
  { plane := r.plane
    config := r.config
    tick := r.plane.logicalTime + 1
    epoch := r.plane.coordinatorEpoch }

/-- `mutate`: refusals leave the runtime alone; everything else is persisted and applied
before it is reported. -/
def mutate {ρ : Type} (r : Runtime) (body : MutationInputs → Result (Outcome ρ))
    (faults : Faults := {}) : Runtime × Result ρ :=
  if r.shuttingDown then
    (r, .error (makeError .shuttingDown (text "the runtime is shutting down")))
  else
    match body r.inputs with
    | .error e => (r, .error e)
    | .ok outcome =>
      let persisted := r.persistAndApply faults outcome.effects outcome.tick outcome.epoch
      (persisted.1, persisted.2.bind fun _ => outcome.status)

/-- `persist`: an explicit checkpoint. -/
def persist (r : Runtime) (fault : Option CheckpointFault := none) : Runtime × Result Unit :=
  if r.store.isNone then
    (r, .error (makeError .notSupported (text "no persistence directory is configured")))
  else r.forceCheckpoint fault

/-- `shutdown`: no further mutation is accepted, and a last checkpoint is made. -/
def shutdown (r : Runtime) (fault : Option CheckpointFault := none) : Runtime × Result Unit :=
  if r.shuttingDown then (r, .ok ())
  else
    let r := { r with shuttingDown := true }
    if r.store.isSome then r.forceCheckpoint fault else (r, .ok ())

end Runtime

def advanceTime (delta : Tick) (inputs : MutationInputs) : Result (Outcome Tick) := do
  rejectIf (delta == 0) (makeError .invalidArgument (text "delta must be positive"))
  let tick := inputs.tick + delta - 1
  pure { effects := [], tick := tick, epoch := inputs.epoch, status := .ok tick }

def advanceEpoch (inputs : MutationInputs) : Result (Outcome CoordinatorEpoch) :=
  let next := inputs.plane.coordinatorEpoch.next
  .ok { effects := [.setEpoch next], tick := inputs.tick, epoch := next, status := .ok next }

/-! ## Opening -/

/-- `initialize`, once the plane is loaded: configuration, recovery when the plane came from
durable state, and a checkpoint when there is a store. -/
def initializeFabric (config : FabricConfig) (store : Option Directory) (loaded : ControlPlane) :
    Result Runtime := do
  rejectIf (loaded.coordinatorId.valid && loaded.coordinatorId != config.coordinatorId)
    (makeError .persistenceCorrupt
      (text "the durable control plane belongs to a different coordinator identity"))
  let plane := loaded.configure config
  let plane := if loaded.recovered then plane.recover else plane
  let r : Runtime :=
    { plane := plane, config := config, store := store, recoveredFromDurable := loaded.recovered }
  pure (if store.isSome then r.checkpoint else r)

/-- `open`: the directory is consulted only when the configuration names one. -/
def openFabric (config : FabricConfig) (disk : Directory) : Result Runtime := do
  rejectIf (!config.coordinatorId.valid)
    (makeError .invalidArgument (text "a coordinator identity is required"))
  if config.persistenceDirectory.isEmpty then initializeFabric config none {}
  else
    let loaded ← disk.load config.maximumRecords
    initializeFabric config (some disk) { loaded with persistenceEnabled := true }

end StateFabric
