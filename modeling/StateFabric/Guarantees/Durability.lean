import StateFabric.Guarantees.Scenario
import StateFabric.Refinement.Server

/-!
# Guarantees of the durable directory

A coordinator whose writes stay within the bounds of the decoders and of a load can always be
opened again; it gives back what was acknowledged, wherever a crash ended it, and a failed write
leaves no trace as long as a failed append leaves no byte and no automatic checkpoint fails.

None of these bounds is checked when a mutation is acknowledged: the runs at the end of each
section leave a directory that is refused.
-/

namespace StateFabric

open Transition Scenario

namespace Scenario

/-- The coordinator a configuration opens over an empty directory. -/
def start (c : FabricConfig) : Server :=
  match openServer c {} with
  | .ok s => s
  | .error _ => { plane := {}, config := c, files := {} }

/-- The coordinator a script of events reaches. -/
def serve (c : FabricConfig) (events : List ServerEvent) : Server :=
  events.foldl Server.exec (start c)

/-- Mutations whose writes succeed. -/
def faultless (ms : List Mutation) : List ServerEvent := ms.map (.mutation · {})

theorem server_opened {c : FabricConfig} (h : (openServer c {}).isOk = true) :
    (start c).Opened := by
  refine ⟨c, ?_⟩
  unfold start
  cases hopen : openServer c {} with
  | ok => rfl
  | error => simp [hopen, Except.isOk, Except.toBool] at h

theorem serve_reachable {ok : Server → ServerEvent → Prop} {c : FabricConfig}
    {events : List ServerEvent} (opens : (openServer c {}).isOk = true)
    (complies : Complies Server.exec ok (start c) events) :
    Reachable Server.Opened (Restrict Server.Step ok) (serve c events) :=
  ⟨_, server_opened opens, Runs.of_script Server.executable complies⟩

end Scenario

/-! ## Directories that open again -/

/-- The writes of an event succeed and stay within the bounds. -/
def Server.Orderly (s : Server) (e : ServerEvent) : Prop := e.faultless = true ∧ s.Bounded e

instance (s : Server) (e : ServerEvent) : Decidable (s.Orderly e) :=
  inferInstanceAs (Decidable (_ ∧ _))

theorem Server.Orderly.sound {s : Server} {e : ServerEvent} (h : s.Orderly e) :
    s.Bounded e ∧ s.CleanAppends e := by
  refine ⟨h.2, ?_⟩
  cases e with
  | mutation m faults =>
    have hnone : faults = {} := of_decide_eq_true h.1
    intro fault hfault
    rw [hnone] at hfault
    cases hfault
  | persist | shutdown | reopen => trivial

theorem Server.kept_of_orderly {s : Server}
    (h : Reachable Server.Opened (Restrict Server.Step Server.Orderly) s) : s.Kept :=
  Server.Kept.of_reachable (fun _ _ => Server.Orderly.sound) h

namespace Scenario

/-- A cluster and a state generation are registered. -/
def registrations : List ServerEvent := faultless [cluster 1, state 7 1 .immutable]

theorem registrations_orderly : Reachable Server.Opened (Restrict Server.Step Server.Orderly)
    (serve config registrations) := serve_reachable (by decide +kernel) (by decide +kernel)

end Scenario

/-! ## Crashes -/

/-- What should survive a crash while an event is executed: the records before it, or those
after a mutation whose journal record was fully written. -/
def Server.surviving (s : Server) (e : ServerEvent) (point : Server.CrashPoint) : ControlPlane :=
  match e with
  | .mutation m _ =>
    match s.pending m with
    | none => s.plane
    | some record =>
      match point with
      | .append written =>
        if written < (encodeJournalRecord record).length then s.plane
        else (s.commit record).plane
      | .checkpoint _ => (s.commit record).plane
  | .persist _ | .shutdown _ | .reopen _ => s.plane

namespace Server.Kept

variable {s : Server}

theorem gives_checkpointUntil (h : s.Kept) (step : CheckpointStep) :
    (s.files.checkpointUntil s.plane step).Give s.plane := by
  cases step with
  | writeSnapshot | replaceSnapshot => exact h.gives
  | writeJournal | replaceJournal => exact h.snapshotted.gives

theorem gives_crashInCheckpoint (h : s.Kept) (point : CrashPoint) :
    (s.crashInCheckpoint point).Give s.plane := by
  cases point with
  | append => exact h.gives
  | checkpoint step => exact h.gives_checkpointUntil step

theorem gives_crash (h : s.Kept) {e : ServerEvent} (bounded : s.Bounded e) (point : CrashPoint) :
    (s.crash e point).Give (s.surviving e point) := by
  cases e with
  | mutation m faults =>
    simp only [crash, crashInMutation, surviving]
    cases hpending : s.pending m with
    | none => exact h.gives
    | some record =>
      have hadmits := bounded record hpending
      have hcommitted := h.commit hpending hadmits
      cases point with
      | append written =>
        simp only
        split
        · rename_i hshort
          exact h.gives_torn hadmits hshort
        · rename_i hcomplete
          rw [appendUntil_eq_append h.isSome_journal (Nat.le_of_not_lt hcomplete)]
          exact hcommitted.gives
      | checkpoint =>
        simp only
        split
        · exact hcommitted.gives_crashInCheckpoint _
        · exact hcommitted.gives
  | persist => exact h.gives_crashInCheckpoint point
  | shutdown =>
    simp only [crash, surviving]
    split
    · exact h.gives
    · exact h.gives_crashInCheckpoint point
  | reopen => exact h.gives

end Server.Kept

/-- After a crash at any point of a run within the bounds, a load gives back what should survive
exactly when that is not more records than the configuration allows. -/
theorem crash_recovery {s : Server}
    (h : Reachable Server.Opened (Restrict Server.Step Server.Orderly) s) {e : ServerEvent}
    (bounded : s.Bounded e) (point : Server.CrashPoint) :
    (∃ q, (s.crash e point).load s.config.maximumRecords = .ok q
      ∧ q.records = (s.surviving e point).records) ↔
    (s.surviving e point).recordCount ≤ s.config.maximumRecords :=
  ((Server.kept_of_orderly h).gives_crash bounded point).load_iff _

namespace Scenario

/-- A configuration that allows one record. -/
def narrow : FabricConfig := { config with maximumRecords := 1 }

end Scenario

theorem crash_recovery_in_append :
    ∃ q, ((serve config registrations).crash (.mutation (stateCommit 7 1 3) {})
        (.append 20)).load config.maximumRecords = .ok q
      ∧ q.records = (serve config registrations).plane.records := by
  have hbounded : (serve config registrations).Bounded (.mutation (stateCommit 7 1 3) {}) := by
    decide +kernel
  have htorn : (serve config registrations).surviving (.mutation (stateCommit 7 1 3) {})
      (.append 20) = (serve config registrations).plane := by
    have hpending : ((serve config registrations).pending (stateCommit 7 1 3)).any
        (fun record => decide (20 < (encodeJournalRecord record).length)) = true := by
      decide +kernel
    obtain ⟨record, hrecord, hlength⟩ := (Option.any_eq_true _ _).mp hpending
    simp only [Server.surviving, hrecord, if_pos (of_decide_eq_true hlength)]
  have hcrash := (crash_recovery registrations_orderly hbounded (.append 20)).mpr
  rw [htorn] at hcrash
  exact hcrash (by decide +kernel)

/-- Two registrations are acknowledged where one record is allowed; the directory is refused
from then on. -/
theorem crash_recovery_refused :
    Reachable Server.Opened (Restrict Server.Step Server.Orderly)
      (serve narrow (faultless [cluster 1, cluster 2])) ∧
    ((serve narrow (faultless [cluster 1])).answer (cluster 2) {}).isOk = true ∧
    ((serve narrow (faultless [cluster 1, cluster 2])).crash (.persist none) (.append 0)).load
        narrow.maximumRecords
      = .error (makeError .resourceExhausted
          (text "durable control plane holds more records than the configured bound")) := by
  have hreach : Reachable Server.Opened (Restrict Server.Step Server.Orderly)
      (serve narrow (faultless [cluster 1, cluster 2])) :=
    serve_reachable (by decide +kernel) (by decide +kernel)
  refine ⟨hreach, by decide +kernel, ?_⟩
  have hgives := (Server.kept_of_orderly hreach).gives narrow.maximumRecords
  have hfull : ¬ (serve narrow (faultless [cluster 1, cluster 2])).plane.recordCount
      ≤ narrow.maximumRecords := by decide +kernel
  rwa [if_neg hfull] at hgives

/-! ## Failed writes -/

namespace Server

/-- The error a mutation reports because one of its writes failed. -/
def persistenceError (s : Server) (m : Mutation) (faults : Faults) : Option Error :=
  if s.shuttingDown then none
  else
    match mutationBody m s.runtime.inputs with
    | .error _ => none
    | .ok out =>
      match (s.persistAndApply faults out.effects out.tick out.epoch).2 with
      | .error e => some e
      | .ok _ => none

/-- Commits must be durable, an append that fails leaves no byte, and the checkpoint that is due
after an append does not fail. -/
def CleanFailures (s : Server) : ServerEvent → Prop
  | .mutation m faults =>
    s.config.requireDurableCommits = true ∧ (∀ fault ∈ faults.append, fault.1 = 0) ∧
      (faults.append = none → ∀ record ∈ s.pending m, (s.commit record).due = true →
        faults.checkpoint = none)
  | .persist _ | .shutdown _ | .reopen _ => True

instance CleanFailures.decidable (s : Server) (e : ServerEvent) :
    Decidable (s.CleanFailures e) :=
  match e with
  | .mutation m faults => inferInstanceAs (Decidable (s.config.requireDurableCommits = true
      ∧ (∀ fault ∈ faults.append, fault.1 = 0) ∧ (faults.append = none →
        ∀ record ∈ s.pending m, (s.commit record).due = true → faults.checkpoint = none)))
  | .persist _ | .shutdown _ | .reopen _ => inferInstanceAs (Decidable True)

/-- The failures of an event are clean and what it writes is within the bounds. -/
def Forgiving (s : Server) (e : ServerEvent) : Prop := s.CleanFailures e ∧ s.Bounded e

instance (s : Server) (e : ServerEvent) : Decidable (s.Forgiving e) :=
  inferInstanceAs (Decidable (_ ∧ _))

variable {s : Server} {m : Mutation} {faults : Faults}

theorem Forgiving.sound {e : ServerEvent} (h : s.Forgiving e) : s.Bounded e ∧ s.CleanAppends e := by
  refine ⟨h.2, ?_⟩
  cases e with
  | mutation => exact fun fault hfault => ⟨h.1.2.1 fault hfault, h.1.1⟩
  | persist | shutdown | reopen => trivial

theorem persistenceError_eq_some {e : Error} (h : s.persistenceError m faults = some e) :
    s.answer m faults = .error e ∧ ∃ record, s.pending m = some record := by
  simp only [persistenceError] at h
  split at h
  · cases h
  · rename_i hrunning
    cases hbody : mutationBody m s.runtime.inputs with
    | error => simp [hbody] at h
    | ok out =>
      simp only [hbody] at h
      cases hresult : s.persistAndApply faults out.effects out.tick out.epoch with
      | mk s' result =>
        cases result with
        | ok => simp [hresult] at h
        | error =>
          simp only [hresult, Option.some.injEq] at h
          subst h
          refine ⟨by simp [answer, mutate, hrunning, hbody, hresult], ?_⟩
          have heffects : out.effects.isEmpty = false := by
            by_contra hempty
            simp [persistAndApply, Bool.not_eq_false _ ▸ hempty] at hresult
          refine ⟨s.runtime.record out.effects out.tick out.epoch, ?_⟩
          simp [pending, hrunning, hbody, heffects]

theorem persistenceError_of_appended {record : JournalRecord} (hpending : s.pending m = some record)
    (appended : faults.append = none)
    (clean : (s.commit record).due = true → faults.checkpoint = none) :
    s.persistenceError m faults = none := by
  obtain ⟨out, hexec, heffects, rfl⟩ := pending_eq_some hpending
  have hrunning : s.shuttingDown = false := hexec.running
  have hpersisted : ((s.commit (s.runtime.record out.effects out.tick out.epoch)).checkpointWhenDue
      faults.checkpoint).2 = .ok () := by
    unfold checkpointWhenDue
    split
    · rename_i hdue
      simp [clean hdue, checkpoint]
    · rfl
  simp only [persistenceError, hrunning, hexec.body, persistAndApply, heffects, appended,
    Bool.false_eq_true, if_false, hpersisted]

/-- A mutation that fails to be persisted, when failures are clean, changes nothing. -/
theorem Kept.after_of_failure (h : s.Kept) (clean : s.CleanFailures (.mutation m faults))
    {e : Error} (failed : s.persistenceError m faults = some e) : s.after m faults = s := by
  obtain ⟨hdurable, hnothing, hcheckpoint⟩ := clean
  obtain ⟨-, record, hpending⟩ := persistenceError_eq_some failed
  cases happend : faults.append with
  | none =>
    have hnone := persistenceError_of_appended hpending happend
      (hcheckpoint happend record hpending)
    rw [hnone] at failed
    cases failed
  | some fault =>
    obtain ⟨written, e'⟩ := fault
    have hzero : written = 0 := hnothing _ happend
    rw [after_of_failed_append hpending happend hdurable, hzero,
      appendUntil_zero h.isSome_journal]

end Server

/-- In a run whose failures are clean, a mutation that fails to be persisted changes neither the
plane nor what is loaded, and a load gives back everything acknowledged so far exactly when that
is not more records than the configuration allows. -/
theorem durability_failures_are_clean {s : Server}
    (h : Reachable Server.Opened (Restrict Server.Step Server.Forgiving) s) :
    (∀ m faults e, s.CleanFailures (.mutation m faults) → s.persistenceError m faults = some e →
      s.answer m faults = .error e ∧ (s.after m faults).plane = s.plane ∧
      ∀ maximumRecords,
        (s.after m faults).files.load maximumRecords = s.files.load maximumRecords) ∧
    ((∃ q, s.files.load s.config.maximumRecords = .ok q ∧ q.records = s.plane.records) ↔
      s.plane.recordCount ≤ s.config.maximumRecords) := by
  have hkept : s.Kept := Server.Kept.of_reachable (fun _ _ => Server.Forgiving.sound) h
  refine ⟨fun m faults e hclean hfailed => ?_, hkept.gives.load_iff _⟩
  have hsame := hkept.after_of_failure hclean hfailed
  exact ⟨(Server.persistenceError_eq_some hfailed).1, by rw [hsame], fun _ => by rw [hsame]⟩

namespace Scenario

/-- A configuration under which commits must be durable. -/
def durable : FabricConfig := { config with requireDurableCommits := true }

/-- The same, with a checkpoint after every record. -/
def eager : FabricConfig := { durable with journalRecordsBeforeSnapshot := 1 }

def diskFull : Error := makeError .persistenceIo (text "write failed: No space left on device")

/-- An append fails without a trace and is repeated. -/
def retried : List ServerEvent :=
  [.mutation (cluster 1) { append := some (0, diskFull) }, .mutation (cluster 1) {}]

/-- An append fails after its first byte; the next one succeeds. -/
def torn : List ServerEvent :=
  [.mutation (cluster 1) { append := some (1, diskFull) }, .mutation (cluster 2) {}]

end Scenario

theorem durability_failures_are_clean_of_retry :
    (serve durable retried).answer (cluster 2) { append := some (0, diskFull) }
      = .error diskFull ∧
    ((serve durable retried).after (cluster 2) { append := some (0, diskFull) }).plane
      = (serve durable retried).plane ∧
    ∃ q, (serve durable retried).files.load durable.maximumRecords = .ok q
      ∧ q.records = (serve durable retried).plane.records := by
  have hreach : Reachable Server.Opened (Restrict Server.Step Server.Forgiving)
      (serve durable retried) := serve_reachable (by decide +kernel) (by decide +kernel)
  obtain ⟨hfailed, hload⟩ := durability_failures_are_clean hreach
  obtain ⟨hanswer, hplane, -⟩ := hfailed (cluster 2) { append := some (0, diskFull) } diskFull
    (by decide +kernel) (by decide +kernel)
  exact ⟨hanswer, hplane, hload.mpr (by decide +kernel)⟩

/-- A failed append that left one byte makes the journal unreadable after the next, acknowledged,
mutation; and a mutation whose automatic checkpoint fails reports an error after it was
applied. -/
theorem durability_failures_leave_traces :
    ((start durable).Opened ∧
      (start durable).answer (cluster 1) { append := some (1, diskFull) } = .error diskFull ∧
      ((serve durable (torn.take 1)).answer (cluster 2) {}).isOk = true ∧
      ∃ e, (serve durable torn).files.load durable.maximumRecords = .error e) ∧
    ((start eager).Opened ∧
      (start eager).answer (cluster 1) { checkpoint := some (.writeSnapshot, diskFull) }
        = .error diskFull ∧
      (start eager).plane.clusters.size = 0 ∧
      ((start eager).after (cluster 1)
        { checkpoint := some (.writeSnapshot, diskFull) }).plane.clusters.size = 1) := by
  have hscan : (scanJournal ((serve durable torn).files.journal.getD [])).isOk = false := by
    decide +kernel
  have hjournal : (serve durable torn).files.journal.isSome = true := by decide +kernel
  refine ⟨⟨server_opened (by decide +kernel), by decide +kernel, by decide +kernel, ?_⟩,
    server_opened (by decide +kernel), by decide +kernel, by decide +kernel, by decide +kernel⟩
  obtain ⟨bytes, hbytes⟩ := Option.isSome_iff_exists.mp hjournal
  rw [hbytes, Option.getD_some] at hscan
  cases hresult : scanJournal bytes with
  | ok => rw [hresult] at hscan; cases hscan
  | error => exact Files.load_refused hbytes hresult _

end StateFabric
