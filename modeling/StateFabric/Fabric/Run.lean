import StateFabric.Library.Transition
import StateFabric.Fabric.Lifecycle

/-!
# Runs of the fabric

Every request the runtime accepts, what executing one does, and the transition system whose
steps are executed requests and re-opens of the durable directory.  Queries change nothing and
are not steps.
-/

namespace StateFabric

open Transition

/-- The mutations of the public interface with their arguments. -/
inductive Mutation
  | registerState (spec : StateGenerationSpec)
  | publishStateGeneration (spec : StateGenerationSpec)
  | commitStateGeneration (stateId : StateId) (generation : StateGeneration) (commit : CommitId)
  | publishCompatibility (record : CompatibilityRecord)
  | publishPlacementPolicy (policy : PlacementPolicyRecord)
  | publishReplicationPolicy (policy : ReplicationPolicyRecord)
  | registerCluster (registration : ClusterRegistration)
  | publishClusterEvidence (update : ClusterEvidenceUpdate)
  | markClusterUnreachable (clusterId : ClusterId) (incarnation : ClusterIncarnationId)
      (reason : Text)
  | retireCluster (clusterId : ClusterId) (incarnation : ClusterIncarnationId)
  | registerReplica (registration : ReplicaRegistration)
  | recordTransferProgress (progress : TransferProgress)
  | recordTransferCompletion (completion : TransferCompletion)
  | verifyReplica (report : ReplicaVerification)
  | commitReplica (commit : ReplicaCommit)
  | retireReplica (transition : ReplicaTransition)
  | quarantineReplica (transition : ReplicaTransition)
  | revalidateReplica (transition : ReplicaTransition)
  | authorizeReplication (request : ReplicationRequest)
  | authorizeMigration (request : MigrationRequest)
  | commitOperation (commit : OperationCommit)
  | cancelOperation (cancellation : OperationCancellation)
  | transferOwnership (request : OwnershipTransferRequest)
  | advanceTime (delta : Tick)
  | advanceEpoch

/-- What an acknowledged mutation answers. -/
inductive Response
  | state (record : StateGenerationRecord)
  | cluster (record : ClusterRecord)
  | compatibility (record : CompatibilityRecord)
  | placementPolicy (record : PlacementPolicyRecord)
  | replicationPolicy (record : ReplicationPolicyRecord)
  | replica (record : ReplicaRecord)
  | authorization (record : TransferAuthorization)
  | operation (record : OperationRecord)
  | ownership (record : OwnershipRecord)
  | tick (tick : Tick)
  | epoch (epoch : CoordinatorEpoch)
  deriving DecidableEq

/-- An outcome whose response is wrapped. -/
def Outcome.map {ρ ρ' : Type} (f : ρ → ρ') (o : Outcome ρ) : Outcome ρ' :=
  { effects := o.effects, tick := o.tick, epoch := o.epoch, status := o.status.map f }

/-- The body of a mutation. -/
def mutationBody (m : Mutation) (inputs : MutationInputs) : Result (Outcome Response) :=
  match m with
  | .registerState spec => (registerState spec inputs).map (·.map .state)
  | .publishStateGeneration spec => (publishStateGeneration spec inputs).map (·.map .state)
  | .commitStateGeneration stateId generation commit =>
    (commitStateGeneration stateId generation commit inputs).map (·.map .state)
  | .publishCompatibility record =>
    (publishCompatibility record inputs).map (·.map .compatibility)
  | .publishPlacementPolicy policy =>
    (publishPlacementPolicy policy inputs).map (·.map .placementPolicy)
  | .publishReplicationPolicy policy =>
    (publishReplicationPolicy policy inputs).map (·.map .replicationPolicy)
  | .registerCluster registration => (registerCluster registration inputs).map (·.map .cluster)
  | .publishClusterEvidence update =>
    (publishClusterEvidence update inputs).map (·.map .cluster)
  | .markClusterUnreachable clusterId incarnation reason =>
    (markClusterUnreachable clusterId incarnation reason inputs).map (·.map .cluster)
  | .retireCluster clusterId incarnation =>
    (retireCluster clusterId incarnation inputs).map (·.map .cluster)
  | .registerReplica registration => (registerReplica registration inputs).map (·.map .replica)
  | .recordTransferProgress progress =>
    (recordTransferProgress progress inputs).map (·.map .replica)
  | .recordTransferCompletion completion =>
    (recordTransferCompletion completion inputs).map (·.map .replica)
  | .verifyReplica report => (verifyReplica report inputs).map (·.map .replica)
  | .commitReplica commit => (commitReplica commit inputs).map (·.map .replica)
  | .retireReplica transition => (retireReplica transition inputs).map (·.map .replica)
  | .quarantineReplica transition => (quarantineReplica transition inputs).map (·.map .replica)
  | .revalidateReplica transition => (revalidateReplica transition inputs).map (·.map .replica)
  | .authorizeReplication request =>
    (authorizeReplication request inputs).map (·.map .authorization)
  | .authorizeMigration request =>
    (authorizeMigration request inputs).map (·.map .authorization)
  | .commitOperation commit => (commitOperation commit inputs).map (·.map .operation)
  | .cancelOperation cancellation => (cancelOperation cancellation inputs).map (·.map .operation)
  | .transferOwnership request => (transferOwnership request inputs).map (·.map .ownership)
  | .advanceTime delta => (advanceTime delta inputs).map (·.map .tick)
  | .advanceEpoch => (advanceEpoch inputs).map (·.map .epoch)

/-- What happens to a fabric between two observations. -/
inductive Event
  | mutation (m : Mutation)
  | persist
  | shutdown
  | reopen (config : FabricConfig)

/-- The runtime after a mutation. -/
def Runtime.after (r : Runtime) (m : Mutation) : Runtime := (r.mutate (mutationBody m)).1

/-- What a mutation answers. -/
def Runtime.answer (r : Runtime) (m : Mutation) : Result Response := (r.mutate (mutationBody m)).2

/-- What a mutation puts; a refused one puts nothing. -/
def Runtime.effects (r : Runtime) (m : Mutation) : List Effect :=
  if r.shuttingDown then []
  else
    match mutationBody m r.inputs with
    | .ok out => out.effects
    | .error _ => []

/-- The mutations that authorize an operation. -/
def Mutation.isAuthorization : Mutation → Bool
  | .authorizeReplication _ | .authorizeMigration _ => true
  | _ => false

/-- One step of a fabric: a request is executed, or the process ends and its directory is
opened again. -/
inductive Step : Runtime → Event → Runtime → Prop
  | mutation (r : Runtime) (m : Mutation) : Step r (.mutation m) (r.after m)
  | persist (r : Runtime) : Step r .persist r.persist.1
  | shutdown (r : Runtime) : Step r .shutdown r.shutdown.1
  | reopen {r r' : Runtime} {disk : Directory} {config : FabricConfig}
      (kept : r.store = some disk) (persistent : config.persistenceDirectory ≠ [])
      (opened : openFabric config disk = .ok r') : Step r (.reopen config) r'

/-- A fabric opened over an empty directory. -/
def Opened (r : Runtime) : Prop := ∃ config, openFabric config {} = .ok r

/-- The runtimes some run reaches. -/
def ReachableRuntime (r : Runtime) : Prop := Reachable Opened Step r

/-! ## Executing events -/

/-- Executes an event.  A re-open does nothing when there is no directory to open, or when
opening it is refused. -/
def Runtime.exec (r : Runtime) (e : Event) : Runtime :=
  match e with
  | .mutation m => r.after m
  | .persist => r.persist.1
  | .shutdown => r.shutdown.1
  | .reopen config =>
    match r.store with
    | none => r
    | some disk =>
      if config.persistenceDirectory = [] then r
      else
        match openFabric config disk with
        | .ok r' => r'
        | .error _ => r

theorem Runtime.executable : Executable Step Runtime.exec := by
  intro r e
  cases e with
  | mutation m => exact .inl (.mutation r m)
  | persist => exact .inl (.persist r)
  | shutdown => exact .inl (.shutdown r)
  | reopen config =>
    simp only [Runtime.exec]
    cases hstore : r.store with
    | none => exact .inr rfl
    | some disk =>
      simp only
      split
      · exact .inr rfl
      · rename_i hpersistent
        cases hopen : openFabric config disk with
        | error => exact .inr rfl
        | ok => exact .inl (.reopen hstore hpersistent hopen)

/-- The fabric a configuration opens over an empty directory. -/
def Runtime.start (config : FabricConfig) : Runtime :=
  match openFabric config {} with
  | .ok r => r
  | .error _ => { plane := {}, config := config }

theorem opened_start {config : FabricConfig} (h : (openFabric config {}).isOk = true) :
    Opened (Runtime.start config) := by
  refine ⟨config, ?_⟩
  unfold Runtime.start
  cases hopen : openFabric config {} with
  | ok => rfl
  | error => simp [hopen, Except.isOk, Except.toBool] at h

/-- The runtime after a list of mutations. -/
def Runtime.afterAll (r : Runtime) (ms : List Mutation) : Runtime := ms.foldl Runtime.after r

theorem Runtime.afterAll_append (r : Runtime) (ms ms' : List Mutation) :
    r.afterAll (ms ++ ms') = (r.afterAll ms).afterAll ms' := List.foldl_append

/-- Mutations that comply with a condition are a run under the condition. -/
theorem Runtime.runs_afterAll_of_complies {ok : Runtime → Event → Prop} {r : Runtime}
    {ms : List Mutation} (complies : Complies Runtime.exec ok r (ms.map .mutation)) :
    Runs (Restrict Step ok) r (r.afterAll ms) := by
  have hrun := Runs.of_script Runtime.executable complies
  rw [List.foldl_map] at hrun
  exact hrun

theorem Runtime.runs_afterAll (r : Runtime) (ms : List Mutation) : Runs Step r (r.afterAll ms) := by
  have hrun := Runs.of_foldl Runtime.executable r (ms.map .mutation)
  rw [List.foldl_map] at hrun
  exact hrun

end StateFabric
