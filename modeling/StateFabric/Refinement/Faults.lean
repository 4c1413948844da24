import StateFabric.Fabric.Faults
import StateFabric.Refinement.Run

/-!
# Runs that last are runs of the protocol

Whatever goes wrong with the writes of a request, its records are those of a request whose writes
succeed, or none if it is refused.  As long as no acknowledged append was lost the directory keeps
the records too, also when a checkpoint has replaced the snapshot and not the journal.  So a run that
lasts keeps what every step of the fabric keeps (`lasting_invariant`).

In every run, lost appends included, the plane passes the structural checks: a re-open either
finds them met or is refused.
-/

namespace StateFabric

open Protocol Transition OrderedMap ControlPlane

variable {r r' : Runtime} {m : Mutation} {faults : Faults} {out : Outcome Response}

variable {fault : Option CheckpointFault} {record : JournalRecord} {e : ServerEvent}

variable {ok : Runtime → Event → Prop} {p q : ControlPlane} {config : FabricConfig}

/-! ## What a request leaves of the records -/

/-- A checkpoint leaves the records alone, also one that fails. -/
theorem Runtime.forceCheckpoint_records (r : Runtime) (fault : Option CheckpointFault) :
    (r.forceCheckpoint fault).1.plane.records = r.plane.records := by
  cases fault <;> rfl

theorem Runtime.checkpointWhenDue_records (r : Runtime) (fault : Option CheckpointFault) :
    (r.checkpointWhenDue fault).1.plane.records = r.plane.records := by
  unfold checkpointWhenDue
  split
  · exact r.forceCheckpoint_records fault
  · rfl

/-- The records after a journal record was applied. -/
theorem Runtime.applied_records (r : Runtime) (record : JournalRecord) :
    (r.applied record).plane.records = (r.plane.applyAll record.effects).records :=
  ControlPlane.records_observeTick _ record.tick

/-- The failure of an automatic checkpoint is reported only when commits must be durable. -/
theorem Runtime.checkpointWhenDue_ok
    (clean : r.config.requireDurableCommits = true → fault = none) :
    (r.checkpointWhenDue fault).2 = .ok () := by
  cases hdurable : r.config.requireDurableCommits with
  | true =>
    rw [clean hdurable, checkpointWhenDue_none]
  | false =>
    simp only [checkpointWhenDue, hdurable]
    split <;> rfl

namespace Executes

/-- An executed request is persisted and applied, and answered accordingly. -/
theorem mutate_eq (h : Executes r m out) (faults : Faults) :
    r.mutate (mutationBody m) faults
      = ((r.persistAndApply faults out.effects out.tick out.epoch).1,
        (r.persistAndApply faults out.effects out.tick out.epoch).2.bind fun _ => out.status) := by
  simp only [Runtime.mutate, h.running, h.body, Bool.false_eq_true, if_false]

/-- An executed request whose append does not fail is appended and applied. -/
theorem persistAndApply_eq (h : Executes r m out) (effects : out.effects.isEmpty = false)
    (appended : r.appendFails m faults = false) :
    r.persistAndApply faults out.effects out.tick out.epoch
      = ((r.appended (r.record out.effects out.tick out.epoch)).applied
          (r.record out.effects out.tick out.epoch)).checkpointWhenDue faults.checkpoint := by
  simp only [Runtime.appendFails, h.effects_eq, effects, Bool.not_false, Bool.and_true] at appended
  simp only [Runtime.persistAndApply, effects, Bool.false_eq_true, if_false]
  cases hstore : r.store with
  | none => rfl
  | some disk =>
    cases happend : faults.append with
    | none => rfl
    | some => simp [hstore, happend] at appended

/-- An executed request whose append fails is refused or applied without it. -/
theorem persistAndApply_of_fails (h : Executes r m out) (fails : r.appendFails m faults = true) :
    ∃ e, r.persistAndApply faults out.effects out.tick out.epoch
      = if r.config.requireDurableCommits then (r, .error e)
        else ((r.unhealthy e).applied
          (r.record out.effects out.tick out.epoch)).checkpointWhenDue faults.checkpoint := by
  simp only [Runtime.appendFails, h.effects_eq, Bool.and_eq_true, Bool.not_eq_true',
    Option.isSome_iff_exists] at fails
  obtain ⟨⟨⟨disk, hstore⟩, ⟨written, e⟩, happend⟩, effects⟩ := fails
  refine ⟨e, ?_⟩
  simp only [Runtime.persistAndApply, effects, hstore, happend, Bool.false_eq_true, if_false]

theorem afterFaults_eq (h : Executes r m out) (faults : Faults) :
    r.afterFaults m faults = (r.persistAndApply faults out.effects out.tick out.epoch).1 :=
  congrArg Prod.fst (h.mutate_eq faults)

theorem answerFaults_eq (h : Executes r m out) (faults : Faults) :
    r.answerFaults m faults
      = (r.persistAndApply faults out.effects out.tick out.epoch).2.bind fun _ => out.status :=
  congrArg Prod.snd (h.mutate_eq faults)

end Executes

/-- A request without an effect is the same whatever goes wrong with the writes. -/
theorem Runtime.mutate_of_silent (effects : r.effects m = []) :
    r.mutate (mutationBody m) faults = r.mutate (mutationBody m) := by
  unfold mutate
  cases hrunning : r.shuttingDown with
  | true => rfl
  | false =>
    cases hbody : mutationBody m r.inputs with
    | error => rfl
    | ok out =>
      have hsilent : out.effects.isEmpty = true := by
        rw [← (Executes.mk hrunning hbody).effects_eq, effects]
        rfl
      simp only [persistAndApply, hsilent, if_true]

theorem Runtime.afterFaults_of_silent (effects : r.effects m = []) :
    r.afterFaults m faults = r.after m := congrArg Prod.fst (mutate_of_silent effects)

/-- A request with faults is refused for its append, or leaves the records it leaves without
them. -/
theorem Runtime.afterFaults_cases (r : Runtime) (m : Mutation) (faults : Faults) :
    (r.appendFails m faults = true ∧ r.config.requireDurableCommits = true
        ∧ r.afterFaults m faults = r)
      ∨ (r.afterFaults m faults).plane.records = (r.after m).plane.records := by
  rcases r.effect_cases m with ⟨out, hexec, heffects⟩ | ⟨hsilent, -⟩
  · have hnonempty : out.effects.isEmpty = false := List.isEmpty_eq_false_iff.mpr heffects
    rw [hexec.afterFaults_eq, hexec.records_eq]
    cases hfails : r.appendFails m faults with
    | false =>
      rw [hexec.persistAndApply_eq hnonempty hfails, checkpointWhenDue_records]
      exact .inr (applied_records _ _)
    | true =>
      obtain ⟨e, hpersisted⟩ := hexec.persistAndApply_of_fails hfails
      rw [hpersisted]
      cases hdurable : r.config.requireDurableCommits with
      | true => exact .inl ⟨rfl, rfl, rfl⟩
      | false =>
        rw [if_neg Bool.false_ne_true, checkpointWhenDue_records, applied_records]
        exact .inr (records_applyAll_congr (p := (r.unhealthy e).plane) (q := r.plane) rfl _)
  · exact .inr (congrArg (·.plane.records) (afterFaults_of_silent hsilent))

/-- A mutation whose append fails when commits must be durable is refused. -/
theorem Runtime.refused_of_fails (fails : r.appendFails m faults = true)
    (durable : r.config.requireDurableCommits = true) :
    r.afterFaults m faults = r ∧ ∃ e, r.answerFaults m faults = .error e := by
  rcases r.effect_cases m with ⟨out, hexec, -⟩ | ⟨hsilent, -⟩
  · obtain ⟨e, hpersisted⟩ := hexec.persistAndApply_of_fails fails
    rw [hexec.afterFaults_eq, hexec.answerFaults_eq, hpersisted, durable]
    exact ⟨rfl, e, rfl⟩
  · simp [appendFails, hsilent] at fails

/-- In a run that lasts a mutation whose append does not fail is answered as if its writes had
succeeded. -/
theorem Lasting.answer_eq (h : Lasting ok r (.mutation m faults))
    (appended : r.appendFails m faults = false) : r.answerFaults m faults = r.answer m := by
  simp only [Lasting, appended, Bool.false_eq_true, if_false] at h
  rcases r.effect_cases m with ⟨out, hexec, heffects⟩ | ⟨hsilent, -⟩
  · have hok : (r.persistAndApply faults out.effects out.tick out.epoch).2 = .ok () := by
      rw [hexec.persistAndApply_eq (List.isEmpty_eq_false_iff.mpr heffects) appended]
      exact Runtime.checkpointWhenDue_ok h.1
    rw [hexec.answerFaults_eq, hexec.answer_eq, hok]
    rfl
  · exact congrArg Prod.snd (Runtime.mutate_of_silent hsilent)

/-- In a run that lasts the answers say what became of the requests: a mutation is refused for its
append and changes nothing, or is answered as if its writes had succeeded. -/
theorem Lasting.answer_cases (h : Lasting ok r (.mutation m faults)) :
    (r.afterFaults m faults = r ∧ ∃ e, r.answerFaults m faults = .error e)
      ∨ r.answerFaults m faults = r.answer m := by
  cases hfails : r.appendFails m faults with
  | true =>
    simp only [Lasting, hfails, if_true] at h
    exact .inl (Runtime.refused_of_fails hfails h)
  | false => exact .inr (h.answer_eq hfails)

/-! ## The directory of a run that lasts -/

/-- A snapshot of a plane that already contains the journal, with the journal still there, gives
back the records of the plane. -/
theorem Directory.contents_checkpointUntil {d : Directory} (h : d.contents = p.records)
    (step : CheckpointStep) : (d.checkpointUntil p step).contents = p.records := by
  have hsnapshot : (p.image.applyAll d.effects).records = p.records := by
    calc (p.image.applyAll d.effects).records
        = (((d.snapshot.getD {}).applyAll d.effects).applyAll d.effects).records :=
          records_applyAll_congr (p := p.image) h.symm _
      _ = p.records := (records_applyAll_twice _ _).trans h
  cases step with
  | writeSnapshot | replaceSnapshot => exact h
  | writeJournal | replaceJournal => exact hsnapshot

namespace Durable

/-- A checkpoint keeps the directory in step, also one that fails. -/
theorem forceCheckpoint (h : Durable r) (fault : Option CheckpointFault) :
    Durable (r.forceCheckpoint fault).1 := by
  rcases fault with - | ⟨step, e⟩
  · exact checkpoint r
  · intro disk' hdisk'
    obtain ⟨disk, hdisk, rfl⟩ := Option.map_eq_some_iff.mp hdisk'
    exact Directory.contents_checkpointUntil (h disk hdisk) step

theorem checkpointWhenDue (h : Durable r) (fault : Option CheckpointFault) :
    Durable (r.checkpointWhenDue fault).1 := by
  unfold Runtime.checkpointWhenDue
  split
  · exact h.forceCheckpoint fault
  · exact h

/-- A request whose append does not fail keeps the directory in step. -/
theorem afterFaults (h : Durable r) (appended : r.appendFails m faults = false) :
    Durable (r.afterFaults m faults) := by
  rcases r.effect_cases m with ⟨out, hexec, heffects⟩ | ⟨hsilent, -⟩
  · rw [hexec.afterFaults_eq,
      hexec.persistAndApply_eq (List.isEmpty_eq_false_iff.mpr heffects) appended]
    exact (h.applied _).checkpointWhenDue _
  · rw [Runtime.afterFaults_of_silent hsilent]
    exact h.mutate _

end Durable

theorem persist_records (r : Runtime) (fault : Option CheckpointFault) :
    (r.persist fault).1.plane.records = r.plane.records := by
  unfold Runtime.persist
  split
  · rfl
  · exact r.forceCheckpoint_records fault

theorem shutdown_records (r : Runtime) (fault : Option CheckpointFault) :
    (r.shutdown fault).1.plane.records = r.plane.records := by
  unfold Runtime.shutdown
  split
  · rfl
  · simp only
    split
    · exact Runtime.forceCheckpoint_records _ fault
    · rfl

theorem Durable.persist_faulty (h : Durable r) (fault : Option CheckpointFault) :
    Durable (r.persist fault).1 := by
  unfold Runtime.persist
  split
  · exact h
  · exact h.forceCheckpoint fault

theorem Durable.shutdown_faulty (h : Durable r) (fault : Option CheckpointFault) :
    Durable (r.shutdown fault).1 := by
  have hflagged : Durable { r with shuttingDown := true } := h
  unfold Runtime.shutdown
  split
  · exact h
  · simp only
    split
    · exact hflagged.forceCheckpoint fault
    · exact h

/-! ## Steps of a run that lasts -/

/-- A step of a run that lasts keeps the plane and the directory, and leaves the records as they
were, or answers and leaves the records as a step whose writes succeed. -/
theorem WellKept.lasting_step (h : WellKept r) (hstep : LastingStep ok r e r') :
    WellKept r' ∧ (r'.plane.records = r.plane.records
      ∨ (∀ m faults, e = .mutation m faults → r.answerFaults m faults = r.answer m)
        ∧ ∃ r₁, Step r e.request r₁ ∧ ok r e.request ∧ r'.plane.records = r₁.plane.records) := by
  obtain ⟨hstep, hlasts⟩ := hstep
  cases hstep with
  | mutation m faults =>
    cases hfails : r.appendFails m faults with
    | true =>
      simp only [Lasting, hfails, if_true] at hlasts
      rw [(Runtime.refused_of_fails hfails hlasts).1]
      exact ⟨h, .inl rfl⟩
    | false =>
      have hanswer := hlasts.answer_eq hfails
      simp only [Lasting, hfails, Bool.false_eq_true, if_false] at hlasts
      rcases r.afterFaults_cases m faults with ⟨hrefused, -, -⟩ | hrecords
      · rw [hfails] at hrefused
        cases hrefused
      · exact ⟨⟨(h.after m).coherent.of_records hrecords, h.durable.afterFaults hfails⟩,
          .inr ⟨by rintro _ _ ⟨⟩; exact hanswer, _, .mutation r m, hlasts.2, hrecords⟩⟩
  | persist fault =>
    exact ⟨⟨h.coherent.of_records (persist_records r fault), h.durable.persist_faulty fault⟩,
      .inl (persist_records r fault)⟩
  | shutdown fault =>
    exact ⟨⟨h.coherent.of_records (shutdown_records r fault), h.durable.shutdown_faulty fault⟩,
      .inl (shutdown_records r fault)⟩
  | reopen kept persistent opened =>
    have hclean : Step r (.reopen _) r' := .reopen kept persistent opened
    exact ⟨(h.step hclean).1, .inr ⟨by rintro _ _ ⟨⟩, r', hclean, hlasts, rfl⟩⟩

/-- What the records show and every step of the fabric keeps, a run that lasts keeps. -/
theorem lasting_runs {I : Runtime → Prop}
    (shown : ∀ {r r'}, r'.plane.records = r.plane.records → I r → I r')
    (keep : ∀ r e r', WellKept r → Step r e r' → ok r e → I r → I r') (kept : WellKept r)
    (start : I r) (run : Runs (LastingStep ok) r r') : WellKept r' ∧ I r' := by
  refine run.invariant (I := fun r => WellKept r ∧ I r) ?_ ⟨kept, start⟩
  rintro r e r' hstep ⟨hkept, hI⟩
  obtain ⟨hkept', hsame | ⟨-, r₁, hclean, hok, hrecords⟩⟩ := hkept.lasting_step hstep
  · exact ⟨hkept', shown hsame hI⟩
  · exact ⟨hkept', shown hrecords (keep r _ r₁ hkept hclean hok hI)⟩

/-- A property of the protocol plane that holds initially and that every step keeps holds in every
runtime that a run that lasts reaches. -/
theorem lasting_invariant {I : Plane → Prop} (start : I Plane.empty)
    (keep : ∀ r e r', WellKept r → Step r e r' → ok r e →
      Protocol.Step (e.action r) r.plane.abs r'.plane.abs → I r.plane.abs → I r'.plane.abs)
    (h : Reachable Opened (LastingStep ok) r) : WellKept r ∧ I r.plane.abs := by
  obtain ⟨r₀, hopened, run⟩ := h
  obtain ⟨hkept, hempty⟩ := hopened.start
  refine lasting_runs (I := fun r => I r.plane.abs) (fun hrecords hI => ?_)
    (fun r e r' hkept hstep hok hI => keep r e r' hkept hstep hok (hkept.step hstep).2 hI)
    hkept (hempty ▸ start) run
  rwa [ControlPlane.abs_eq_of_records hrecords]

/-- A property of the protocol plane that holds initially and that every step keeps holds in every
runtime that a run whose writes succeed reaches. -/
theorem runtime_invariant {I : Plane → Prop} (start : I Plane.empty)
    (keep : ∀ r e r', WellKept r → Step r e r' → ok r e →
      Protocol.Step (e.action r) r.plane.abs r'.plane.abs → I r.plane.abs → I r'.plane.abs)
    (h : Reachable Opened (Restrict Step ok) r) : WellKept r ∧ I r.plane.abs :=
  lasting_invariant start keep (reachable_lasting h)

/-- The runtimes that a run that lasts reaches are well kept. -/
theorem wellKept_of_lasting (h : Reachable Opened (LastingStep ok) r) : WellKept r := by
  obtain ⟨hkept, -⟩ : WellKept r ∧ True :=
    lasting_invariant (I := fun _ => True) trivial (fun _ _ _ _ _ _ _ _ => trivial) h
  exact hkept

/-- The protocol action of an event: a mutation that is refused for its append does nothing. -/
def ServerEvent.action (r : Runtime) : ServerEvent → Action
  | .mutation m faults =>
    if r.appendFails m faults && r.config.requireDurableCommits then .idle
    else Event.action r (.mutation m)
  | .persist _ | .shutdown _ => .idle
  | .reopen _ => .reopen

/-- What holds in every run: the plane is coherent, and the records of the directory are filed. -/
structure Sound (r : Runtime) : Prop where
  coherent : Coherent r.plane
  filed : ∀ disk, r.store = some disk → disk.contents.Filed

namespace Sound

theorem of_wellKept (h : WellKept r) : Sound r where
  coherent := h.coherent
  filed disk hdisk := by
    rw [h.durable disk hdisk]
    exact h.coherent.filed.of_records rfl

theorem forceCheckpoint (h : Sound r) (fault : Option CheckpointFault) :
    Sound (r.forceCheckpoint fault).1 := by
  refine ⟨h.coherent.of_records (r.forceCheckpoint_records fault), ?_⟩
  have hfiled : r.plane.image.Filed := h.coherent.filed.of_records rfl
  rcases fault with - | ⟨step, e⟩
  · rintro disk ⟨rfl⟩
    exact hfiled.of_records rfl
  · intro disk' hdisk'
    obtain ⟨disk, hdisk, rfl⟩ := Option.map_eq_some_iff.mp hdisk'
    cases step with
    | writeSnapshot | replaceSnapshot => exact h.filed disk hdisk
    | writeJournal | replaceJournal => exact (hfiled.applyAll disk.effects).of_records rfl

theorem checkpointWhenDue (h : Sound r) (fault : Option CheckpointFault) :
    Sound (r.checkpointWhenDue fault).1 := by
  unfold Runtime.checkpointWhenDue
  split
  · exact h.forceCheckpoint fault
  · exact h

/-- An executed request keeps the plane coherent and the directory filed, whether or not its append
fails. -/
theorem afterFaults (h : Sound r) (m : Mutation) (faults : Faults) :
    Sound (r.afterFaults m faults) := by
  rcases r.effect_cases m with ⟨out, hexec, heffects⟩ | ⟨hsilent, hsame⟩
  · have happlied : ∀ q : Runtime, q.plane.records = r.plane.records →
        Coherent (q.applied (r.record out.effects out.tick out.epoch)).plane := by
      intro q hq
      have hcoherent := h.coherent.applyAll (hexec.admissible h.coherent).grounded
      refine hcoherent.of_records ((q.applied_records _).trans ?_)
      exact ControlPlane.records_applyAll_congr hq _
    rw [hexec.afterFaults_eq]
    cases hfails : r.appendFails m faults with
    | false =>
      rw [hexec.persistAndApply_eq (List.isEmpty_eq_false_iff.mpr heffects) hfails]
      refine checkpointWhenDue ⟨happlied (r.appended _) rfl, fun disk' hdisk' => ?_⟩ _
      obtain ⟨disk, hdisk, rfl⟩ := Option.map_eq_some_iff.mp hdisk'
      rw [Directory.contents_append]
      exact ((h.filed disk hdisk).applyAll _).of_records rfl
    | true =>
      obtain ⟨e, hpersisted⟩ := hexec.persistAndApply_of_fails hfails
      rw [hpersisted]
      split
      · exact h
      · exact checkpointWhenDue ⟨happlied (r.unhealthy e) rfl, h.filed⟩ _
  · rw [Runtime.afterFaults_of_silent hsilent]
    refine ⟨h.coherent.of_records hsame, fun disk hdisk => ?_⟩
    rcases r.after_cases m with ⟨out, hexec⟩ | ⟨hstill, -⟩
    · rw [hexec.after_eq, ← hexec.effects_eq, hsilent, Runtime.commit_nil] at hdisk
      exact h.filed disk hdisk
    · exact h.filed disk (hstill ▸ hdisk)

/-- A re-open finds the structural checks met. -/
theorem reopened (h : Sound r) (hstep : Step r (.reopen config) r') : Sound r' := by
  cases hstep with
  | reopen kept persistent opened =>
    obtain ⟨loaded, hload, rfl⟩ := openFabric_ok persistent opened
    have hfiled : loaded.Filed := (h.filed _ kept).of_records (Directory.load_ok hload).1
    have hcoherent := (hfiled.coherent (Directory.load_valid hload)).configure config
    exact of_wellKept ⟨hcoherent.recover.of_maps rfl rfl rfl rfl rfl rfl, Durable.checkpoint _⟩

/-- Every step keeps the plane coherent, whatever goes wrong with the writes. -/
theorem step (h : Sound r) (hstep : FaultyStep r e r') : Sound r' := by
  cases hstep with
  | mutation m faults => exact h.afterFaults m faults
  | persist fault =>
    unfold Runtime.persist
    split
    · exact h
    · exact h.forceCheckpoint fault
  | shutdown fault =>
    have hflagged : Sound { r with shuttingDown := true } := ⟨h.coherent, h.filed⟩
    unfold Runtime.shutdown
    split
    · exact h
    · simp only
      split
      · exact hflagged.forceCheckpoint fault
      · exact hflagged
  | reopen kept persistent opened => exact h.reopened (.reopen kept persistent opened)

end Sound

end StateFabric
