import StateFabric.Guarantees.Counters

/-!
# Logical time

A running fabric only moves its logical time forward, and `advance_time` moves it by the delta it
is given unless the sum leaves the range of a tick.  What a restart finds is another matter: a
mutation without effects writes no journal record, so the directory can be behind the fabric that
kept it.  `WellKept.reopened_logicalTime` says which time a restart resumes from, and
`logical_time_kept` that the two together are the only ways in which time goes wrong.
-/

namespace StateFabric

open Transition ControlPlane Scenario

variable {r r' : Runtime} {delta : Tick} {e : Event}

/-! ## Mutations -/

/-- The later of two ticks. -/
def laterTick (time tick : Tick) : Tick := if time < tick then tick else time

theorem toNat_laterTick (time tick : Tick) :
    (laterTick time tick).toNat = max time.toNat tick.toNat := by
  unfold laterTick
  split
  · rename_i hlt
    exact (max_eq_right (Nat.le_of_lt (UInt64.lt_iff_toNat_lt.mp hlt))).symm
  · rename_i hge
    exact (max_eq_left (UInt64.le_iff_toNat_le.mp (UInt64.not_lt.mp hge))).symm

theorem le_laterTick (time tick : Tick) : time ≤ laterTick time tick := by
  rw [UInt64.le_iff_toNat_le, toNat_laterTick]
  exact le_max_left _ _

namespace ControlPlane

variable (p : ControlPlane)

theorem logicalTime_observeTick (tick : Tick) :
    (p.observeTick tick).logicalTime = laterTick p.logicalTime tick := by
  unfold observeTick laterTick
  split <;> rfl

@[simp] theorem logicalTime_apply (e : Effect) : (p.apply e).logicalTime = p.logicalTime := by
  cases e with
  | setEpoch =>
    simp only [apply]
    split <;> rfl
  | _ => rfl

@[simp] theorem logicalTime_applyAll (es : List Effect) :
    (p.applyAll es).logicalTime = p.logicalTime := by
  induction es generalizing p with
  | nil => rfl
  | cons e rest ih => exact (ih (p.apply e)).trans (p.logicalTime_apply e)

end ControlPlane

namespace Runtime

theorem logicalTime_settled (r : Runtime) :
    r.settled.plane.logicalTime = r.plane.logicalTime := by
  unfold settled
  split <;> rfl

/-- A batch of effects moves the time to its tick, unless that is past. -/
theorem logicalTime_commit (r : Runtime) (es : List Effect) (tick : Tick)
    (epoch : CoordinatorEpoch) :
    (r.commit es tick epoch).plane.logicalTime = laterTick r.plane.logicalTime tick := by
  cases hempty : es.isEmpty with
  | true =>
    rw [List.isEmpty_iff.mp hempty]
    exact logicalTime_observeTick r.plane tick
  | false =>
    rw [commit_of_nonempty r hempty, logicalTime_settled]
    have hobserved := logicalTime_observeTick (r.plane.applyAll es) tick
    rwa [logicalTime_applyAll] at hobserved

theorem logicalTime_le_after (r : Runtime) (m : Mutation) :
    r.plane.logicalTime ≤ (r.after m).plane.logicalTime := by
  rcases r.after_cases m with ⟨out, hexec⟩ | ⟨hsame, -⟩
  · rw [hexec.after_eq, logicalTime_commit]
    exact le_laterTick _ _
  · rw [hsame]
    exact UInt64.le_refl _

/-! ## Advancing time -/

theorem executes_advanceTime (running : r.shuttingDown = false) (positive : delta ≠ 0) :
    Executes r (.advanceTime delta)
      { effects := []
        tick := r.plane.logicalTime + delta
        epoch := r.plane.coordinatorEpoch
        status := .ok (.tick (r.plane.logicalTime + delta)) } := by
  refine ⟨running, ?_⟩
  have htick : r.inputs.tick + delta - 1 = r.plane.logicalTime + delta := by
    change r.plane.logicalTime + 1 + delta - 1 = _
    grind
  have hbody : advanceTime delta r.inputs = .ok
      { effects := []
        tick := r.plane.logicalTime + delta
        epoch := r.plane.coordinatorEpoch
        status := .ok (r.plane.logicalTime + delta) } := by
    simp only [advanceTime, rejectIf_bind_eq_ok, pure_eq_ok, htick]
    exact ⟨by simpa using positive, rfl⟩
  simp only [mutationBody, hbody]
  rfl

theorem answer_advanceTime (r : Runtime) (delta : Tick) :
    (r.answer (.advanceTime delta)).isOk = true ↔ r.shuttingDown = false ∧ delta ≠ 0 := by
  constructor
  · intro acknowledged
    rcases r.after_cases (.advanceTime delta) with ⟨out, hexec⟩ | ⟨-, ⟨e, herror⟩, -⟩
    · obtain ⟨inner, hinner, -⟩ := map_outcome_eq_ok hexec.body
      simp only [advanceTime, rejectIf_bind_eq_ok] at hinner
      exact ⟨hexec.running, by simpa using hinner.1⟩
    · rw [herror] at acknowledged
      cases acknowledged
  · rintro ⟨running, positive⟩
    rw [(executes_advanceTime running positive).answer_eq]
    rfl

/-- An acknowledged `advance_time` adds its delta exactly when the sum is a tick. -/
theorem advanceTime_exact_iff (running : r.shuttingDown = false) (positive : delta ≠ 0) :
    (r.after (.advanceTime delta)).plane.logicalTime.toNat
        = r.plane.logicalTime.toNat + delta.toNat
      ↔ r.plane.logicalTime.toNat + delta.toNat < 2 ^ 64 := by
  have hexec := executes_advanceTime running positive
  rw [hexec.after_eq, logicalTime_commit, toNat_laterTick, UInt64.toNat_add]
  have htime := r.plane.logicalTime.toNat_lt
  have hdelta := delta.toNat_lt
  have hpositive : delta.toNat ≠ 0 := fun h => positive (UInt64.toNat_inj.mp h)
  omega

end Runtime

/-! ## Restarts -/

namespace ControlPlane

/-- The operations that have not ended. -/
def inFlight (p : ControlPlane) : List OperationRecord :=
  p.operationList.filter (!·.isTerminal)

variable {p : ControlPlane}

theorem logicalTime_recoverOperations (l : List OperationRecord) :
    (p.recoverOperations l).logicalTime
      = p.logicalTime + UInt64.ofNat (l.filter (!·.isTerminal)).length := by
  induction l generalizing p with
  | nil => exact (UInt64.add_zero _).symm
  | cons operation rest ih =>
    rw [recoverOperations, List.foldl_cons]
    refine (ih (p := p.recoverOperation operation)).trans ?_
    cases hterminal : operation.isTerminal with
    | true => simp [recoverOperation, hterminal]
    | false =>
      simp only [recoverOperation, hterminal, Bool.false_eq_true, if_false, Bool.not_false,
        List.filter_cons_of_pos, List.length_cons, UInt64.ofNat_add, UInt64.ofNat_one]
      grind

theorem logicalTime_recover :
    p.recover.logicalTime = p.logicalTime + UInt64.ofNat p.inFlight.length :=
  logicalTime_recoverOperations (p := p.withdrawEvidence) p.operationList

theorem inFlight_eq_of_records {q : ControlPlane} (h : p.records = q.records) :
    p.inFlight = q.inFlight := by
  rw [inFlight, inFlight, operationList, operationList, operations_eq_of_records h]

theorem logicalTime_replayRecords (records : List JournalRecord) :
    (records.foldl replayRecord p).logicalTime
      = (records.map (·.tick)).foldl laterTick p.logicalTime := by
  induction records generalizing p with
  | nil => rfl
  | cons record rest ih =>
    rw [List.foldl_cons, ih, List.map_cons, List.foldl_cons]
    congr 1
    have hobserved := logicalTime_observeTick (p.applyAll record.effects) record.tick
    rw [logicalTime_applyAll] at hobserved
    simp only [replayRecord]
    split
    · exact hobserved
    · exact hobserved

end ControlPlane

namespace Directory

/-- The time a directory holds: that of its snapshot or the latest tick of its journal. -/
def time (d : Directory) : Tick :=
  ((d.journal.getD []).map (·.tick)).foldl laterTick (d.snapshot.getD {}).logicalTime

theorem load_logicalTime {d : Directory} {maximumRecords : Nat} {p : ControlPlane}
    (h : d.load maximumRecords = .ok p) : p.logicalTime = d.time := by
  cases hj : d.journal with
  | none =>
    simp only [load, loadPlane, hj, Option.map_none] at h
    rw [finishLoad_ok h, time, hj]
    rfl
  | some journal =>
    simp only [load, loadPlane, hj, Option.map_some] at h
    have hreplayed : p.logicalTime
        = ((d.snapshot.getD {}).replay { records := journal }).logicalTime := by
      rw [finishLoad_ok h]
    rw [hreplayed, time, hj]
    simp only [replay, ne_eq, not_true_eq_false, if_true, if_false, Option.getD_some]
    rw [logicalTime_replayRecords]

end Directory

/-- The time a restart resumes from: what the directory holds, no earlier than the configured
start, and a tick for every operation in flight. -/
def Runtime.resumedTime (r : Runtime) (disk : Directory) (config : FabricConfig) : Tick :=
  laterTick disk.time config.logicalStart + UInt64.ofNat r.plane.inFlight.length

theorem WellKept.reopened_logicalTime (h : WellKept r) {config : FabricConfig} {disk : Directory}
    (kept : r.store = some disk) (persistent : config.persistenceDirectory ≠ [])
    (opened : openFabric config disk = .ok r') :
    r'.plane.logicalTime = r.resumedTime disk config := by
  obtain ⟨loaded, hload, rfl⟩ := openFabric_ok persistent opened
  have hrecords : loaded.records = r.plane.records :=
    (Directory.load_ok hload).1.trans (h.durable disk kept)
  change (loaded.configure config).recover.logicalTime = _
  have hinFlight : (loaded.configure config).inFlight = r.plane.inFlight :=
    inFlight_eq_of_records (p := loaded) hrecords
  have hconfigured : (loaded.configure config).logicalTime
      = laterTick loaded.logicalTime config.logicalStart := rfl
  rw [logicalTime_recover, hinFlight, hconfigured, Directory.load_logicalTime hload]
  rfl

/-! ## Runs -/

theorem logicalTime_persist (r : Runtime) :
    r.persist.1.plane.logicalTime = r.plane.logicalTime := by
  unfold Runtime.persist
  split <;> rfl

theorem logicalTime_shutdown (r : Runtime) :
    r.shutdown.1.plane.logicalTime = r.plane.logicalTime := by
  unfold Runtime.shutdown
  split
  · rfl
  · simp only
    split <;> rfl

/-- The condition under which a step keeps logical time: `advance_time` stays in the range of a
tick, and a restart resumes no earlier than the fabric had come. -/
def keepsTime (r : Runtime) : Event → Bool
  | .mutation (.advanceTime delta) =>
    r.shuttingDown || decide (r.plane.logicalTime.toNat + delta.toNat < 2 ^ 64)
  | .reopen config =>
    r.store.all fun disk => decide (r.plane.logicalTime ≤ r.resumedTime disk config)
  | _ => true

/-- What a step owes logical time: it does not go back, and an acknowledged `advance_time` adds
its delta. -/
structure TimeKept (r : Runtime) (e : Event) (r' : Runtime) : Prop where
  le : r.plane.logicalTime ≤ r'.plane.logicalTime
  exact : ∀ delta, e = .mutation (.advanceTime delta) →
    (r.answer (.advanceTime delta)).isOk = true →
      r'.plane.logicalTime.toNat = r.plane.logicalTime.toNat + delta.toNat

theorem timeKept_advanceTime_iff (r : Runtime) (delta : Tick) :
    TimeKept r (.mutation (.advanceTime delta)) (r.after (.advanceTime delta))
      ↔ r.shuttingDown = true ∨ r.plane.logicalTime.toNat + delta.toNat < 2 ^ 64 := by
  constructor
  · rintro ⟨-, hexact⟩
    cases hdown : r.shuttingDown with
    | true => exact .inl rfl
    | false =>
      right
      by_cases hdelta : delta = 0
      · rw [hdelta]
        exact r.plane.logicalTime.toNat_lt
      · have acknowledged := (r.answer_advanceTime delta).mpr ⟨hdown, hdelta⟩
        exact (Runtime.advanceTime_exact_iff hdown hdelta).mp (hexact delta rfl acknowledged)
  · intro hkeeps
    refine ⟨r.logicalTime_le_after _, ?_⟩
    rintro _ ⟨⟩ acknowledged
    obtain ⟨hrunning, hpositive⟩ := (r.answer_advanceTime delta).mp acknowledged
    exact (Runtime.advanceTime_exact_iff hrunning hpositive).mpr
      (hkeeps.resolve_left (by simp [hrunning]))

/-- A step that does not advance time on request owes it only the order. -/
theorem timeKept_iff_le (other : ∀ delta, e ≠ .mutation (.advanceTime delta)) :
    TimeKept r e r' ↔ r.plane.logicalTime ≤ r'.plane.logicalTime :=
  ⟨fun h => h.le, fun hle => ⟨hle, fun delta he => absurd he (other delta)⟩⟩

/-- A step keeps logical time exactly when the condition holds before it. -/
theorem WellKept.timeKept_iff (h : WellKept r) (hstep : Step r e r') :
    TimeKept r e r' ↔ keepsTime r e = true := by
  cases hstep with
  | mutation m =>
    cases m with
    | advanceTime =>
      rw [timeKept_advanceTime_iff]
      simp only [keepsTime, Bool.or_eq_true, decide_eq_true_eq]
    | _ =>
      rw [timeKept_iff_le (by rintro _ ⟨⟩)]
      exact iff_of_true (r.logicalTime_le_after _) rfl
  | persist =>
    rw [timeKept_iff_le (by rintro _ ⟨⟩), logicalTime_persist]
    exact iff_of_true (UInt64.le_refl _) rfl
  | shutdown =>
    rw [timeKept_iff_le (by rintro _ ⟨⟩), logicalTime_shutdown]
    exact iff_of_true (UInt64.le_refl _) rfl
  | reopen kept persistent opened =>
    rw [timeKept_iff_le (by rintro _ ⟨⟩), h.reopened_logicalTime kept persistent opened]
    simp only [keepsTime, kept, Option.all_some, decide_eq_true_eq]

/-- In a run whose steps meet the condition time never goes back; and wherever such a run has
come to, the condition is exactly what the next step needs to keep it so. -/
theorem logical_time_kept {r₁ r₂ : Runtime} (reachable : ReachableRuntime r₁)
    (run : Runs (Restrict Step fun r e => keepsTime r e = true) r₁ r₂) :
    r₁.plane.logicalTime ≤ r₂.plane.logicalTime
      ∧ ∀ e r₃, Step r₂ e r₃ → (TimeKept r₂ e r₃ ↔ keepsTime r₂ e = true) := by
  refine ⟨?_, ?_⟩
  · refine run.invariant_under (I := fun r => r₁.plane.logicalTime ≤ r.plane.logicalTime)
      (J := ReachableRuntime) (fun _ _ _ hstep hs => hs.tail hstep.1) ?_ reachable
      (UInt64.le_refl _)
    rintro s e s' ⟨hstep, hkeeps⟩ hs hle
    have hkept := (hs.wellKept.timeKept_iff hstep).mpr hkeeps
    exact UInt64.le_trans hle hkept.le
  · intro e r₃ hstep
    exact (ReachableRuntime.wellKept (reachable.runs run.of_restrict)).timeKept_iff hstep

/-- Time is advanced, the plane checkpointed and the directory opened again. -/
def Scenario.persistedAdvance : List Event :=
  [.mutation (.advanceTime 5), .persist, .reopen config]

/-- A checkpoint after `advance_time` makes the advance durable. -/
theorem logical_time_kept_of_persisted :
    (reach []).plane.logicalTime
        ≤ (persistedAdvance.foldl Runtime.exec (reach [])).plane.logicalTime
      ∧ ∀ e r₃, Step (persistedAdvance.foldl Runtime.exec (reach [])) e r₃ →
        (TimeKept (persistedAdvance.foldl Runtime.exec (reach [])) e r₃
          ↔ keepsTime (persistedAdvance.foldl Runtime.exec (reach [])) e = true) :=
  logical_time_kept (reachable []) (Runs.of_script Runtime.executable (by decide +kernel))

/-- `advance_time` writes no journal record, so a crash takes its advance back; and an advance past
the last tick is acknowledged without moving time at all. -/
theorem acknowledged_advance_lost :
    (∃ r r', ReachableRuntime r ∧ Step r (.reopen config) r'
      ∧ r'.plane.logicalTime < r.plane.logicalTime)
      ∧ ∃ r delta, ReachableRuntime r ∧ (r.answer (.advanceTime delta)).isOk = true
        ∧ (r.after (.advanceTime delta)).plane.logicalTime = r.plane.logicalTime :=
  ⟨⟨reach [.advanceTime 5], _, reachable _, step_restart (by decide +kernel), by decide +kernel⟩,
    reach [.advanceTime 5], 18446744073709551615, reachable _, by decide +kernel,
    by decide +kernel⟩

end StateFabric
