import StateFabric.ControlPlane

/-!
# The durable directory

What `PersistenceStore` (`src/detail/control_plane.cpp`) keeps between runs: a snapshot of the
control plane and a journal of the mutations made since.  Here both are taken as values; their
byte format is the subject of `StateFabric.Persistence.Format`.

Loading starts from the snapshot, replays the journal, restores the identity counter from the
records, and refuses a plane that is too large or violates a structural invariant.

An append may fail, and a checkpoint may fail at any of its steps.
-/

namespace StateFabric

/-- One journal record: the effects of one mutation. -/
structure JournalRecord where
  effects : List Effect := []
  sequence : UInt64 := 0
  tick : Tick := 0
  epoch : CoordinatorEpoch := {}
  deriving DecidableEq

/-- The contents of a persistence directory. -/
structure Directory where
  snapshot : Option ControlPlane := none
  journal : Option (List JournalRecord) := none

/-- What scanning a journal finds: its complete records, and how many bytes of a partial record
trail them. -/
structure JournalScan where
  records : List JournalRecord := []
  trailingPartialBytes : Nat := 0
  deriving DecidableEq

/-! ## Writes that fail -/

/-- The steps of `write_checkpoint`. -/
inductive CheckpointStep
  | writeSnapshot
  | replaceSnapshot
  | writeJournal
  | replaceJournal
  deriving DecidableEq

/-- A checkpoint fails at a step, with an error. -/
abbrev CheckpointFault := CheckpointStep × Error

/-- What goes wrong with the writes of one request: how many bytes an append that fails leaves
behind, and where a checkpoint fails. -/
structure Faults where
  append : Option (Nat × Error) := none
  checkpoint : Option CheckpointFault := none
  deriving DecidableEq

/-! ## Loading -/

namespace ControlPlane

/-- The part of a control plane that a snapshot keeps. -/
def image (p : ControlPlane) : ControlPlane :=
  { coordinatorId := p.coordinatorId
    coordinatorEpoch := p.coordinatorEpoch
    logicalTime := p.logicalTime
    durableSequence := p.durableSequence
    replayGeneration := p.replayGeneration
    counters := p.counters
    states := p.states
    clusters := p.clusters
    replicas := p.replicas
    replicaSets := p.replicaSets
    operations := p.operations
    authorizations := p.authorizations
    ownership := p.ownership
    compatibilityRecords := p.compatibilityRecords
    placementPolicies := p.placementPolicies
    replicationPolicies := p.replicationPolicies }

/-- Advances logical time, never backwards. -/
def observeTick (p : ControlPlane) (tick : Tick) : ControlPlane :=
  if p.logicalTime < tick then { p with logicalTime := tick } else p

/-- Replays one journal record. -/
def replayRecord (p : ControlPlane) (record : JournalRecord) : ControlPlane :=
  let p := (p.applyAll record.effects).observeTick record.tick
  if p.durableSequence < record.sequence then { p with durableSequence := record.sequence } else p

/-- Replays a scanned journal over the plane its snapshot gave. -/
def replay (p : ControlPlane) (scan : JournalScan) : ControlPlane :=
  let p := { p with
    journalRecords := UInt64.ofNat scan.records.length
    journalTailTruncated := if scan.trailingPartialBytes = 0 then 0 else 1 }
  let p := scan.records.foldl replayRecord p
  if scan.trailingPartialBytes ≠ 0 then
    { p with
      persistenceDetail := text ("journal contained a truncated tail record which was discarded "
        ++ "as an unacknowledged mutation") }
  else p

/-- The identity values a load restores the identity counter from. -/
def identityValues (p : ControlPlane) : List UInt64 :=
  (p.states.toList.flatMap fun (_, r) =>
    [r.stateId.value, r.generation.value, r.replicaSetId.value, r.compatibilityId.value])
  ++ (p.clusters.toList.flatMap fun (_, r) =>
    [r.clusterId.value, r.incarnation.value, r.workerId.value, r.workerBootId.value])
  ++ (p.replicas.toList.flatMap fun (_, r) => [r.replicaId.value, r.replicaGeneration.value])
  ++ (p.replicaSets.toList.flatMap fun (_, r) =>
    [r.replicaSetId.value, r.generation.value])
  ++ (p.operations.toList.flatMap fun (_, r) =>
    [r.operationId.value, r.migrationId.value, r.transferId.value, r.reservationId.value])
  ++ (p.authorizations.toList.flatMap fun (_, r) => [r.operationId.value, r.transferId.value])
  ++ (p.compatibilityRecords.toList.map fun (_, r) => r.compatibilityId.value)
  ++ (p.placementPolicies.toList.map fun (_, r) => r.placementPolicyId.value)
  ++ (p.replicationPolicies.toList.map fun (_, r) => r.replicationPolicyId.value)

/-- The highest of the identity values. -/
def highestIdentity (p : ControlPlane) : UInt64 := p.identityValues.foldl max 0

/-- The last part of a load: the identity counter, the record bound and the structural
checks. -/
def finishLoad (p : ControlPlane) (maximumRecords : Nat) : Result ControlPlane := do
  let p := { p with
    persistenceEnabled := true
    recovered := true
    nextId := p.highestIdentity + 1 }
  rejectIf (decide (maximumRecords < p.recordCount))
    (makeError .resourceExhausted
      (text "durable control plane holds more records than the configured bound"))
  match p.validate with
  | some reason =>
    throw (makeError .persistenceCorrupt (text "control plane invariants violated: " ++ reason))
  | none => pure p

end ControlPlane

/-- Loads a plane from what its two files decode to. -/
def loadPlane (snapshot : Option ControlPlane) (journal : Option JournalScan)
    (maximumRecords : Nat) : Result ControlPlane :=
  let p := snapshot.getD {}
  let p := match journal with
    | some scan => p.replay scan
    | none => p
  p.finishLoad maximumRecords

namespace Directory

/-- `load`, for a directory without a torn journal tail. -/
def load (d : Directory) (maximumRecords : Nat) : Result ControlPlane :=
  loadPlane d.snapshot (d.journal.map fun records => { records := records }) maximumRecords

def append (d : Directory) (record : JournalRecord) : Directory :=
  { d with journal := some (d.journal.getD [] ++ [record]) }

/-- `checkpoint`: a new snapshot and an empty journal. -/
def checkpoint (p : ControlPlane) : Directory := { snapshot := some p.image, journal := some [] }

/-- The directory after a checkpoint that did not get past a step.  What was written to a temporary
file is not read again. -/
def checkpointUntil (d : Directory) (p : ControlPlane) : CheckpointStep → Directory
  | .writeSnapshot | .replaceSnapshot => d
  | .writeJournal | .replaceJournal => { d with snapshot := some p.image }

end Directory

end StateFabric
