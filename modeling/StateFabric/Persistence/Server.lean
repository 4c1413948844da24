import StateFabric.Fabric.Faults
import StateFabric.Persistence.Format

/-!
# A coordinator over its files

`StateFabric.Fabric.Lifecycle` takes the directory to be a value, which a failed append leaves as it
was.  Here the directory is its two files, an append may fail after any part of its bytes, and a
checkpoint may fail at any of its steps (`persist_and_apply` and `checkpoint_image` in
`src/fabric_lifecycle.cpp`, `append` and `write_checkpoint` in `src/detail/control_plane.cpp`).

A crash ends the process at one of these points; all that is left of it is its files.
-/

namespace StateFabric

open Transition

/-! ## Interrupted writes -/

namespace Files

/-- The files after an append that got as far as a number of bytes. -/
def appendUntil (files : Files) (record : JournalRecord) (written : Nat) : Files :=
  match files.journal with
  | some journal =>
    { files with journal := some (journal ++ (encodeJournalRecord record).take written) }
  | none =>
    { files with journal := some ((journalHeader ++ encodeJournalRecord record).take written) }

/-- The files after a checkpoint that did not get past a step.  What was written to a temporary
file is not read again. -/
def checkpointUntil (files : Files) (p : ControlPlane) : CheckpointStep → Files
  | .writeSnapshot | .replaceSnapshot => files
  | .writeJournal | .replaceJournal => { files with snapshot := some (encodeSnapshot p) }

end Files

/-! ## The coordinator -/

/-- A running coordinator and the files it keeps. -/
structure Server where
  plane : ControlPlane
  config : FabricConfig
  files : Files
  shuttingDown : Bool := false
  journalSinceCheckpoint : UInt64 := 0

namespace Server

/-- What a coordinator holds in memory. -/
def runtime (s : Server) : Runtime :=
  { plane := s.plane
    config := s.config
    shuttingDown := s.shuttingDown
    journalSinceCheckpoint := s.journalSinceCheckpoint }

/-- `force_checkpoint_locked`. -/
def checkpoint (s : Server) (fault : Option CheckpointFault) : Server × Result Unit :=
  match fault with
  | none =>
    ({ s with
        files := Files.checkpoint s.plane
        plane := { s.plane with
          persistenceHealthy := true
          persistenceDetail := []
          snapshotsWritten := s.plane.snapshotsWritten + 1 }
        journalSinceCheckpoint := 0 },
      .ok ())
  | some (step, e) =>
    ({ s with
        files := s.files.checkpointUntil s.plane step
        plane := { s.plane with persistenceHealthy := false, persistenceDetail := e.str } },
      .error e)

/-- Whether the journal is long enough for an automatic checkpoint. -/
def due (s : Server) : Bool := s.config.journalRecordsBeforeSnapshot ≤ s.journalSinceCheckpoint

/-- The automatic checkpoint; its failure is reported only when commits must be durable. -/
def checkpointWhenDue (s : Server) (fault : Option CheckpointFault) : Server × Result Unit :=
  if s.due then
    ((s.checkpoint fault).1,
      if s.config.requireDurableCommits then (s.checkpoint fault).2 else .ok ())
  else (s, .ok ())

/-- Applies a journal record in memory. -/
def applied (s : Server) (record : JournalRecord) : Server :=
  let p := (s.plane.applyAll record.effects).observeTick record.tick
  { s with
    plane := { p with
      durableSequence := record.sequence
      journalRecords := p.journalRecords + 1 }
    journalSinceCheckpoint := s.journalSinceCheckpoint + 1 }

/-- Appends a journal record and applies it. -/
def commit (s : Server) (record : JournalRecord) : Server :=
  { s with files := s.files.append record }.applied record

def persistAndApply (s : Server) (faults : Faults) (effects : List Effect) (tick : Tick)
    (epoch : CoordinatorEpoch) : Server × Result Unit :=
  if effects.isEmpty then ({ s with plane := s.plane.observeTick tick }, .ok ())
  else
    let record := s.runtime.record effects tick epoch
    match faults.append with
    | none => (s.commit record).checkpointWhenDue faults.checkpoint
    | some (written, e) =>
      let failed := { s with files := s.files.appendUntil record written }
      if s.config.requireDurableCommits then (failed, .error e)
      else
        let unhealthy := { failed with
          plane := { s.plane with persistenceHealthy := false, persistenceDetail := e.str } }
        (unhealthy.applied record).checkpointWhenDue faults.checkpoint

def mutate {ρ : Type} (s : Server) (faults : Faults) (body : MutationInputs → Result (Outcome ρ)) :
    Server × Result ρ :=
  if s.shuttingDown then
    (s, .error (makeError .shuttingDown (text "the runtime is shutting down")))
  else
    match body s.runtime.inputs with
    | .error e => (s, .error e)
    | .ok outcome =>
      match s.persistAndApply faults outcome.effects outcome.tick outcome.epoch with
      | (s', .error e) => (s', .error e)
      | (s', .ok _) => (s', outcome.status)

def persist (s : Server) (fault : Option CheckpointFault) : Server × Result Unit :=
  s.checkpoint fault

def shutdown (s : Server) (fault : Option CheckpointFault) : Server × Result Unit :=
  if s.shuttingDown then (s, .ok ()) else { s with shuttingDown := true }.checkpoint fault

end Server

/-- `initialize`, up to its checkpoint: the directory is loaded, configured and recovered. -/
def initializeServer (config : FabricConfig) (files : Files) : Result Server := do
  rejectIf (!config.coordinatorId.valid)
    (makeError .invalidArgument (text "a coordinator identity is required"))
  let loaded ← files.load config.maximumRecords
  let r ← initializeFabric config none { loaded with persistenceEnabled := true }
  pure { plane := r.plane, config := config, files := files }

/-- `open`, for a configuration that names a directory. -/
def openServer (config : FabricConfig) (files : Files) : Result Server := do
  let s ← initializeServer config files
  pure (s.checkpoint none).1

/-! ## Runs -/

namespace Server

/-- The coordinator after a mutation. -/
def after (s : Server) (m : Mutation) (faults : Faults) : Server :=
  (s.mutate faults (mutationBody m)).1

/-- What a mutation answers. -/
def answer (s : Server) (m : Mutation) (faults : Faults) : Result Response :=
  (s.mutate faults (mutationBody m)).2

/-- One step of a coordinator over its files. -/
inductive Step : Server → ServerEvent → Server → Prop
  | mutation (s : Server) (m : Mutation) (faults : Faults) :
      Step s (.mutation m faults) (s.after m faults)
  | persist (s : Server) (fault : Option CheckpointFault) :
      Step s (.persist fault) (s.persist fault).1
  | shutdown (s : Server) (fault : Option CheckpointFault) :
      Step s (.shutdown fault) (s.shutdown fault).1
  | reopen {s s' : Server} {config : FabricConfig} (opened : openServer config s.files = .ok s') :
      Step s (.reopen config) s'

/-- A coordinator opened over an empty directory. -/
def Opened (s : Server) : Prop := ∃ config, openServer config {} = .ok s

/-- Executes an event; a re-open that is refused does nothing. -/
def exec (s : Server) (e : ServerEvent) : Server :=
  match e with
  | .mutation m faults => s.after m faults
  | .persist fault => (s.persist fault).1
  | .shutdown fault => (s.shutdown fault).1
  | .reopen config =>
    match openServer config s.files with
    | .ok s' => s'
    | .error _ => s

theorem executable : Executable Step exec := by
  intro s e
  cases e with
  | mutation m faults => exact .inl (.mutation s m faults)
  | persist fault => exact .inl (.persist s fault)
  | shutdown fault => exact .inl (.shutdown s fault)
  | reopen config =>
    simp only [exec]
    cases hopen : openServer config s.files with
    | error => exact .inr rfl
    | ok => exact .inl (.reopen hopen)

theorem Step.exec_eq {s s' : Server} {e : ServerEvent} (h : Step s e s') : s' = s.exec e := by
  cases h with
  | mutation | persist | shutdown => rfl
  | reopen opened => simp only [exec, opened]

/-! ## Crashes -/

/-- The journal record a mutation appends, if it has an effect. -/
def pending (s : Server) (m : Mutation) : Option JournalRecord :=
  if s.shuttingDown then none
  else
    match mutationBody m s.runtime.inputs with
    | .error _ => none
    | .ok out =>
      if out.effects.isEmpty then none
      else some (s.runtime.record out.effects out.tick out.epoch)

/-- Where a crash ends the process: in an append, or before a step of a checkpoint. -/
inductive CrashPoint
  | append (written : Nat)
  | checkpoint (step : CheckpointStep)

/-- The files a crash in a checkpoint leaves. -/
def crashInCheckpoint (s : Server) : CrashPoint → Files
  | .append _ => s.files
  | .checkpoint step => s.files.checkpointUntil s.plane step

/-- The files a crash in a mutation leaves. -/
def crashInMutation (s : Server) (m : Mutation) (point : CrashPoint) : Files :=
  match s.pending m with
  | none => s.files
  | some record =>
    match point with
    | .append written => s.files.appendUntil record written
    | .checkpoint _ =>
      if (s.commit record).due then (s.commit record).crashInCheckpoint point
      else (s.commit record).files

/-- The files a crash while an event is executed leaves. -/
def crash (s : Server) (e : ServerEvent) (point : CrashPoint) : Files :=
  match e with
  | .mutation m _ => s.crashInMutation m point
  | .persist _ => s.crashInCheckpoint point
  | .shutdown _ => if s.shuttingDown then s.files else s.crashInCheckpoint point
  | .reopen _ => s.files

end Server

end StateFabric
