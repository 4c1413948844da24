import StateFabric.Fabric.Faults

/-!
# Scripts of requests

Requests with the fields a run needs and everything else left at its default, and the runtime a
script of them reaches from a fabric opened over an empty directory.  The guarantees use them to
exhibit runs.
-/

namespace StateFabric

namespace Scenario

open Transition

/-- A configuration that names a directory and has default policies. -/
def config : FabricConfig :=
  { coordinatorId := ⟨1⟩
    persistenceDirectory := text "fabric"
    defaultPlacementPolicy := { placementPolicyId := ⟨1⟩ }
    defaultReplicationPolicy := { replicationPolicyId := ⟨1⟩ } }

theorem config_opens : (openFabric config {}).isOk = true := by decide +kernel

/-- The runtime a list of mutations reaches. -/
def reach (ms : List Mutation) : Runtime := (Runtime.start config).afterAll ms

/-- The runtime a restart reaches. -/
def restart (r : Runtime) : Runtime := r.exec (.reopen config)

theorem reachable (ms : List Mutation) : ReachableRuntime (reach ms) :=
  ⟨_, opened_start config_opens, Runtime.runs_afterAll _ ms⟩

theorem reachable_of_complies {ok : Runtime → Event → Prop} {ms : List Mutation}
    (complies : Complies Runtime.exec ok (.start config) (ms.map .mutation)) :
    Reachable Opened (Restrict Step ok) (reach ms) :=
  ⟨_, opened_start config_opens, Runtime.runs_afterAll_of_complies complies⟩

theorem step_reopen {r : Runtime} {restarted : FabricConfig}
    (persistent : restarted.persistenceDirectory ≠ [])
    (opens : r.store.any (fun disk => (openFabric restarted disk).isOk) = true) :
    Step r (.reopen restarted) (r.exec (.reopen restarted)) := by
  obtain ⟨disk, hstore, hok⟩ := (Option.any_eq_true _ _).mp opens
  cases hopen : openFabric restarted disk with
  | error => simp [hopen, Except.isOk, Except.toBool] at hok
  | ok r' =>
    have hexec : r.exec (.reopen restarted) = r' := by
      simp only [Runtime.exec, hstore, hopen, if_neg persistent]
    exact hexec ▸ .reopen hstore persistent hopen

theorem step_restart {r : Runtime}
    (opens : r.store.any (fun disk => (openFabric config disk).isOk) = true) :
    Step r (.reopen config) (restart r) :=
  step_reopen (by decide +kernel) opens

/-- An append that fails. -/
def lostAppend : Faults := { append := some (0, makeError .persistenceIo (text "append failed")) }

/-- A request whose append fails. -/
def lost (m : Mutation) : ServerEvent := .mutation m lostAppend

/-! ## Requests -/

/-- The digest of the content every copy is meant to carry. -/
def content : Digest := ⟨Vector.replicate 32 1⟩

/-- A digest other than that of the content. -/
def otherContent : Digest := ⟨Vector.replicate 32 2⟩

def clusterRequest (c : UInt64) : ClusterRegistration :=
  { clusterId := ⟨c⟩
    capacity := { totalLogicalBytes := 1000, inboundBytesPerTick := 10, freeTransferSlots := 4 } }

def cluster (c : UInt64) : Mutation := .registerCluster (clusterRequest c)

def reincarnation (c : UInt64) : Mutation :=
  .registerCluster { clusterRequest c with forceReincarnation := true }

def stateSpec (s g : UInt64) (mode : ConsistencyMode) : StateGenerationSpec :=
  { stateId := ⟨s⟩
    generation := ⟨g⟩
    consistency := mode
    contentDigest := content
    logicalSize := .of 10 }

def state (s g : UInt64) (mode : ConsistencyMode) : Mutation :=
  .registerState (stateSpec s g mode)

def stateCommit (s g commit : UInt64) : Mutation :=
  .commitStateGeneration ⟨s⟩ ⟨g⟩ ⟨commit⟩

def replica (k s g c : UInt64) : Mutation :=
  .registerReplica
    { replicaId := ⟨k⟩, stateId := ⟨s⟩, stateGeneration := ⟨g⟩, location := { clusterId := ⟨c⟩ } }

def completionReport (k : UInt64) (o : OperationId) (measured : Digest) : TransferCompletion :=
  { replicaId := ⟨k⟩, operationId := o, measuredDigest := measured }

def completion (k : UInt64) : Mutation :=
  .recordTransferCompletion (completionReport k {} content)

def verificationReport (k : UInt64) (o : OperationId) (measured : Digest) : ReplicaVerification :=
  { replicaId := ⟨k⟩, operationId := o, measuredDigest := measured, integrityVerified := true }

def verification (k : UInt64) : Mutation :=
  .verifyReplica (verificationReport k {} content)

def commit (k commit : UInt64) (owner : Bool) : Mutation :=
  .commitReplica
    { replicaId := ⟨k⟩, commitId := ⟨commit⟩, makeAuthoritativeOwner := owner }

/-- The requests that stage, verify and commit one copy. -/
def copy (k s g c id : UInt64) (owner : Bool) : List Mutation :=
  [replica k s g c, completion k, verification k, commit k id owner]

def retirement (k : UInt64) : Mutation := .retireReplica { replicaId := ⟨k⟩ }

def quarantine (k : UInt64) : Mutation := .quarantineReplica { replicaId := ⟨k⟩ }

def revalidation (k : UInt64) : Mutation := .revalidateReplica { replicaId := ⟨k⟩ }

def handoff (s g owner next c commit : UInt64) : Mutation :=
  .transferOwnership
    { stateId := ⟨s⟩
      stateGeneration := ⟨g⟩
      expectedCurrentOwner := ⟨owner⟩
      newOwnerReplica := ⟨next⟩
      newOwnerCluster := ⟨c⟩
      handoffCommit := ⟨commit⟩ }

def replication (s g c : UInt64) : Mutation :=
  .authorizeReplication
    { stateId := ⟨s⟩, stateGeneration := ⟨g⟩, destinationCluster := ⟨c⟩ }

def operationCommit (o commit : UInt64) : Mutation :=
  .commitOperation { operationId := ⟨o⟩, commitId := ⟨commit⟩ }

def cancellation (o : UInt64) : Mutation := .cancelOperation { operationId := ⟨o⟩ }

end Scenario

end StateFabric
