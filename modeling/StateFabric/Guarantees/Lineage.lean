import StateFabric.Guarantees.Invariants
import StateFabric.Library.Pointer

/-!
# Lineage

The generations of a state share one lineage and form a forest: a branch points at the
registered generation it branches from, and following these pointers ends.  A registration
checks all of that, so it holds as long as the rewriting of a STAGED generation respects it too.

A commit is repeated safely only while its generation is still CURRENT.
-/

namespace StateFabric

open Protocol Transition ControlPlane OrderedMap Pointer Scenario

variable {p : ControlPlane} {r : Runtime} {out : Outcome Response} {stateId : StateId}
  {generation : StateGeneration}

/-! ## The shape of a lineage -/

/-- The generation a registered branch names as its origin. -/
def ControlPlane.origin (p : ControlPlane) (K : StateKey) : Option StateKey :=
  p.states[K]?.bind fun s =>
    if s.branchesFrom.valid then some ⟨s.stateId, s.branchesFrom⟩ else none

/-- The generations of a state share a lineage, branches name registered generations, and
following branches ends. -/
structure LineageStructure (p : ControlPlane) : Prop where
  shared : ∀ (K K' : StateKey) (s s' : StateGenerationRecord), p.states[K]? = some s →
    p.states[K']? = some s' → s.stateId = s'.stateId → s.lineage = s'.lineage
  registered : ∀ (K : StateKey) (s : StateGenerationRecord), p.states[K]? = some s →
    s.branch = true → p.states[(⟨s.stateId, s.branchesFrom⟩ : StateKey)]?.isSome = true
  ends : ∀ K, Ends p.origin K

/-- A publication keeps to the lineage of the other generations of its state, and a branch it
publishes has a registered origin whose own chain of origins does not lead back to it. -/
def keepsLineage (r : Runtime) : Mutation → Bool
  | .publishStateGeneration spec =>
    (r.plane.generationsOf spec.stateId).all (fun s =>
        s.generation == spec.generation || s.lineage == spec.effectiveLineage)
      && (!spec.branch || (r.plane.states[(⟨spec.stateId, spec.branchesFrom⟩ : StateKey)]?.isSome
        && avoids r.plane.origin spec.key (r.plane.states.size + 1)
          ⟨spec.stateId, spec.branchesFrom⟩))
  | _ => true

/-! ## What a step does to the generations -/

/-- The position of a record in the lineage of its state. -/
def StateGenerationRecord.position (s : StateGenerationRecord) :
    StateId × LineageId × Bool × StateGeneration :=
  (s.stateId, s.lineage, s.branch, s.branchesFrom)

/-- A record takes a place in the lineage of its state. -/
structure Placed (p : ControlPlane) (s : StateGenerationRecord) : Prop where
  shared : ∀ (K : StateKey) (t : StateGenerationRecord), p.states[K]? = some t → K ≠ s.key →
    t.stateId = s.stateId → t.lineage = s.lineage
  registered : s.branch = true →
    p.states[(⟨s.stateId, s.branchesFrom⟩ : StateKey)]?.isSome = true
  branch : s.branch = s.branchesFrom.valid
  /-- What the record points at does not lead back to it. -/
  acyclic : s.branch = true → ¬ Reaches p.origin ⟨s.stateId, s.branchesFrom⟩ s.key

/-- The invariant: the structure, and branches are the generations that name an origin. -/
structure Structured (p : ControlPlane) : Prop extends LineageStructure p where
  branch : ∀ (K : StateKey) (s : StateGenerationRecord), p.states[K]? = some s →
    s.branch = s.branchesFrom.valid

theorem origin_of_getElem? {K : StateKey} {s : StateGenerationRecord} (h : p.states[K]? = some s)
    (branch : s.branch = s.branchesFrom.valid) :
    p.origin K = if s.branch then some ⟨s.stateId, s.branchesFrom⟩ else none := by
  rw [origin, h, Option.bind_some, branch]

theorem Structured.reaches_registered (h : Structured p) {K K' : StateKey}
    (reaches : Reaches p.origin K K') (registered : p.states[K]?.isSome = true) :
    p.states[K']?.isSome = true := by
  refine reaches.invariant (P := fun K => p.states[K]?.isSome = true) ?_ registered
  intro K K' hK hnext
  obtain ⟨s, hs⟩ := Option.isSome_iff_exists.mp hK
  rw [origin_of_getElem? hs (h.branch K s hs)] at hnext
  cases hb : s.branch with
  | false => simp [hb] at hnext
  | true =>
    rw [hb, if_pos rfl] at hnext
    exact Option.some.inj hnext ▸ h.registered K s hs hb

/-- A plane that differs from a structured one in one placed record is structured. -/
theorem Structured.place {q : ControlPlane} (h : Structured p) {s : StateGenerationRecord}
    (placed : Placed p s) (here : q.states[s.key]? = some s)
    (elsewhere : ∀ K, K ≠ s.key → q.states[K]? = p.states[K]?) : Structured q := by
  have hsome : ∀ K : StateKey, p.states[K]?.isSome = true → q.states[K]?.isSome = true := by
    intro K hK
    by_cases hkey : K = s.key
    · rw [hkey, here]
      rfl
    · rwa [elsewhere K hkey]
  have hcases : ∀ (K : StateKey) (t : StateGenerationRecord), q.states[K]? = some t →
      (K = s.key ∧ t = s) ∨ (K ≠ s.key ∧ p.states[K]? = some t) := by
    intro K t ht
    by_cases hkey : K = s.key
    · rw [hkey, here] at ht
      exact .inl ⟨hkey, (Option.some.inj ht).symm⟩
    · exact .inr ⟨hkey, elsewhere K hkey ▸ ht⟩
  have hbranch : ∀ (K : StateKey) (t : StateGenerationRecord), q.states[K]? = some t →
      t.branch = t.branchesFrom.valid := by
    intro K t ht
    rcases hcases K t ht with ⟨-, rfl⟩ | ⟨-, hold⟩
    · exact placed.branch
    · exact h.branch K t hold
  refine ⟨⟨?_, ?_, ?_⟩, hbranch⟩
  · intro K K' t t' ht ht' hid
    rcases hcases K t ht with ⟨-, rfl⟩ | ⟨hne, hold⟩ <;>
      rcases hcases K' t' ht' with ⟨-, rfl⟩ | ⟨hne', hold'⟩
    · rfl
    · exact (placed.shared K' t' hold' hne' hid.symm).symm
    · exact placed.shared K t hold hne hid
    · exact h.shared K K' t t' hold hold' hid
  · intro K t ht hb
    rcases hcases K t ht with ⟨-, rfl⟩ | ⟨-, hold⟩
    · exact hsome _ (placed.registered hb)
    · exact hsome _ (h.registered K t hold hb)
  · intro K
    refine (h.ends K).redirect (k := s.key) (fun K' hne => ?_) fun K' hnext => ?_
    · rw [origin, origin, elsewhere K' hne]
    · rw [origin_of_getElem? here placed.branch] at hnext
      cases hb : s.branch with
      | false => simp [hb] at hnext
      | true =>
        rw [hb, if_pos rfl] at hnext
        obtain rfl := Option.some.inj hnext
        exact ⟨h.ends _, placed.acyclic hb⟩

theorem Structured.of_positions {q : ControlPlane} (h : Structured p)
    (same : ∀ K : StateKey, q.states[K]?.map (·.position) = p.states[K]?.map (·.position)) :
    Structured q := by
  have hold : ∀ (K : StateKey) (s : StateGenerationRecord), q.states[K]? = some s →
      ∃ t, p.states[K]? = some t ∧ s.stateId = t.stateId ∧ s.lineage = t.lineage
        ∧ s.branch = t.branch ∧ s.branchesFrom = t.branchesFrom := by
    intro K s hs
    have hK := same K
    rw [hs, Option.map_some] at hK
    obtain ⟨t, ht, hposition⟩ := Option.map_eq_some_iff.mp hK.symm
    simp only [StateGenerationRecord.position, Prod.mk.injEq] at hposition
    exact ⟨t, ht, hposition.1.symm, hposition.2.1.symm, hposition.2.2.1.symm,
      hposition.2.2.2.symm⟩
  have horigin : q.origin = p.origin := by
    funext K
    have hmap : ∀ r : ControlPlane, r.origin K = (r.states[K]?.map (·.position)).bind
        fun (id, _, _, from_) => if from_.valid then some ⟨id, from_⟩ else none := by
      intro r
      rw [origin, Option.bind_map]
      rfl
    rw [hmap, hmap, same]
  refine ⟨⟨?_, ?_, ?_⟩, ?_⟩
  · intro K K' s s' hs hs' hid
    obtain ⟨t, ht, hid₁, hlineage, -⟩ := hold K s hs
    obtain ⟨t', ht', hid₂, hlineage', -⟩ := hold K' s' hs'
    rw [hlineage, hlineage']
    exact h.shared K K' t t' ht ht' (hid₁.symm.trans (hid.trans hid₂))
  · intro K s hs hb
    obtain ⟨t, ht, hid, -, hbranch, hfrom⟩ := hold K s hs
    have hsome := h.registered K t ht (hbranch ▸ hb)
    rw [hid, hfrom]
    rw [← Option.isSome_map (f := fun s => s.position), ← same, Option.isSome_map] at hsome
    exact hsome
  · intro K
    rw [horigin]
    exact h.ends K
  · intro K s hs
    obtain ⟨t, ht, -, -, hbranch, hfrom⟩ := hold K s hs
    rw [hbranch, hfrom]
    exact h.branch K t ht

theorem Executes.not_mem_putState {m : Mutation} (h : Executes r m out)
    (coherent : Coherent r.plane)
    (other : ∀ K, m.act r ≠ .registerState K ∧ m.act r ≠ .publish K ∧ m.act r ≠ .commitState K)
    (s : StateGenerationRecord) : .putState s ∉ out.effects := by
  intro hput
  have hmove := (h.admissible coherent).lawful.states s hput
  generalize r.plane.states[s.key]?.map (·.view) = old at hmove
  generalize s.view = new at hmove
  cases hmove with
  | register _ act => exact (other _).1 act
  | publish _ _ act => exact (other _).2.1 act
  | commit _ act => exact (other _).2.2 act
  | supersede _ K₀ act => exact (other K₀).2.2 act

theorem Executes.positions_of_commit {commit : CommitId}
    (h : Executes r (.commitStateGeneration stateId generation commit) out)
    (coherent : Coherent r.plane) (K : StateKey) :
    (r.after (.commitStateGeneration stateId generation commit)).plane.states[K]?.map (·.position)
      = r.plane.states[K]?.map (·.position) := by
  obtain ⟨inner, hinner, heffects, -⟩ := map_outcome_eq_ok h.body
  rw [h.states_eq, heffects]
  rcases commitStateGeneration_batch coherent hinner with
    hnil | ⟨superseded, existing, record, counters, -, batch⟩
  · rw [hnil]
    rfl
  · rcases r.plane.states_applyAll_cases inner.effects K with hsame | ⟨w, ⟨hmem, rfl⟩, hput⟩
    · rw [hsame]
    · rw [hput, Option.map_some]
      rcases batch.mem_putState.mp hmem with ⟨old, hold, rfl⟩ | rfl
      · have hrecorded : r.plane.states[old.key]? = some old :=
          ((batch.superseded_iff old).mp hold).1
        exact (congrArg (Option.map (·.position)) hrecorded).symm
      · have hview := batch.view
        have hrecorded : r.plane.states[existing.key]? = some existing := batch.recorded
        rw [batch.key, hrecorded, Option.map_some]
        simp only [StateGenerationRecord.position, batch.branchesFrom,
          show w.stateId = existing.stateId from congrArg StateKey.stateId batch.key,
          show w.lineage = existing.lineage from congrArg StateView.lineage hview,
          show w.branch = existing.branch from congrArg StateView.branch hview]

theorem getElem?_of_put {p : ControlPlane} {record : StateGenerationRecord} {es : List Effect}
    (h : es.filterMap Effect.state? = [(record.key, record)]) :
    (p.applyAll es).states[record.key]? = some record
      ∧ ∀ K, K ≠ record.key → (p.applyAll es).states[K]? = p.states[K]? := by
  rw [applyAll_states, h]
  refine ⟨by simp, fun K hne => ?_⟩
  rw [insertAll_cons, insertAll_nil, getElem?_insert_eq, if_neg (Ne.symm hne)]

theorem Executes.structured {m : Mutation} (h : Executes r m out) (coherent : Coherent r.plane)
    (keeps : keepsLineage r m = true) (structured : Structured r.plane) :
    Structured (r.after m).plane := by
  have hother : (∀ K, m.act r ≠ .registerState K ∧ m.act r ≠ .publish K
      ∧ m.act r ≠ .commitState K) → Structured (r.after m).plane := fun hact => by
    refine structured.of_positions fun K => ?_
    rw [h.states_eq]
    rcases r.plane.states_applyAll_cases out.effects K with hsame | ⟨w, hw, -⟩
    · rw [hsame]
    · exact absurd hw.1 (h.not_mem_putState coherent hact w)
  have hrepeat : out.effects = [] → Structured (r.after m).plane := fun hnil =>
    structured.of_positions fun K => by
      rw [h.states_eq, hnil]
      rfl
  cases m with
  | registerState spec =>
    obtain ⟨inner, hinner, hout, -⟩ := map_outcome_eq_ok h.body
    rcases registerState_effects hinner with
      hnil | ⟨record, set, counters, next, hnew, heffects, hkey, -, hshared, horigin, hbranch, -⟩
    · exact hrepeat (hout.trans hnil)
    · have hnew : r.plane.states[record.key]? = none := hkey ▸ hnew
      have hputs : out.effects.filterMap Effect.state? = [(record.key, record)] := by
        rw [hout, heffects]
        rfl
      obtain ⟨hhere, helsewhere⟩ := getElem?_of_put (p := r.plane) hputs
      rw [← h.states_eq] at hhere helsewhere
      refine structured.place ⟨fun K t ht _ hid => ?_, horigin, hbranch, fun hb hreaches => ?_⟩
        hhere helsewhere
      · have hsid : spec.stateId = record.stateId := (congrArg StateKey.stateId hkey).symm
        refine hshared t (coherent.mem_generationsOf.mpr ⟨?_, hid.trans hsid.symm⟩)
        rwa [coherent.states ht]
      · -- A new generation is not reached from a registered one.
        have hsome := structured.reaches_registered hreaches (horigin hb)
        rw [hnew] at hsome
        cases hsome
  | publishStateGeneration spec =>
    obtain ⟨inner, hinner, hout, -⟩ := map_outcome_eq_ok h.body
    rcases publishStateGeneration_effects hinner with
      hnil | ⟨existing, record, -, -, heffects, hkey, -, -, hlineage, hb, hfrom, hbranch, -⟩
    · exact hrepeat (hout.trans hnil)
    · have hputs : out.effects.filterMap Effect.state? = [(record.key, record)] := by
        rw [hout, heffects]
        rfl
      obtain ⟨hhere, helsewhere⟩ := getElem?_of_put (p := r.plane) hputs
      rw [← h.states_eq] at hhere helsewhere
      have hsid : record.stateId = spec.stateId := congrArg StateKey.stateId hkey
      have hgeneration : record.generation = spec.generation := congrArg StateKey.generation hkey
      simp only [keepsLineage, Bool.and_eq_true, List.all_eq_true, Bool.or_eq_true,
        Bool.not_eq_true', beq_iff_eq] at keeps
      obtain ⟨hshared, hacyclic⟩ := keeps
      have hbranching : record.branch = true → _ := fun hrecord =>
        hacyclic.resolve_left (by rw [← hb, hrecord]; simp)
      refine structured.place ⟨fun K t ht hne hid => ?_, fun hrecord => ?_, hbranch,
        fun hrecord => ?_⟩ hhere helsewhere
      · have htkey := coherent.states ht
        have hmem : t ∈ r.plane.generationsOf spec.stateId :=
          coherent.mem_generationsOf.mpr ⟨htkey.symm ▸ ht, hid.trans hsid⟩
        rcases hshared t hmem with hsame | hsame
        · refine absurd ?_ hne
          rw [← htkey, StateGenerationRecord.key, StateGenerationRecord.key, hid, hsame,
            hgeneration]
        · rw [hsame, hlineage]
      · rw [hsid, hfrom]
        exact (hbranching hrecord).1
      · rw [hsid, hfrom, hkey]
        exact not_reaches_of_avoids (hbranching hrecord).2
  | commitStateGeneration =>
    exact structured.of_positions (h.positions_of_commit coherent)
  | _ =>
    exact hother fun K =>
      ⟨by simp [Mutation.act], by simp [Mutation.act], by simp [Mutation.act]⟩

/-- In a run whose publications respect the lineage, every plane is structured. -/
theorem lineage_structure {r : Runtime}
    (h : Reachable Opened (Restrict Step (OnEffect keepsLineage)) r) :
    LineageStructure r.plane := by
  have hrecords : ∀ {r r' : Runtime}, r'.plane.states = r.plane.states →
      Structured r.plane → Structured r'.plane := fun hsame hs =>
    hs.of_positions fun K => by rw [hsame]
  suffices hboth : WellKept r ∧ Structured r.plane from hboth.2.toLineageStructure
  refine h.invariant (I := fun r => WellKept r ∧ Structured r.plane) (fun r hr => ?_) ?_
  · obtain ⟨hkept, hempty⟩ := hr.start
    have hnone : ∀ K : StateKey, r.plane.states[K]? = none := fun K =>
      Option.map_eq_none_iff.mp (congrFun (congrArg Plane.states hempty) K)
    refine ⟨hkept, ⟨fun K K' s s' hs => ?_, fun K s hs => ?_, fun K => ?_⟩, fun K s hs => ?_⟩
    · simp [hnone] at hs
    · simp [hnone] at hs
    · exact .of_none (by rw [origin, hnone, Option.bind_none])
    · simp [hnone] at hs
  · rintro r e r' ⟨hstep, hok⟩ ⟨hkept, hstructured⟩
    refine ⟨(hkept.step hstep).1, ?_⟩
    rcases hstep.effect_cases hok with
      ⟨m, out, rfl, rfl, hexec, -, hkeeps⟩ | hsame | ⟨config, rfl⟩
    · exact hexec.structured hkept.coherent hkeeps hstructured
    · exact hrecords (states_eq_of_records hsame) hstructured
    · obtain ⟨loaded, hloaded, hrecovered⟩ := hkept.reopened_records hstep
      refine hrecords ?_ hstructured
      calc r'.plane.states = (loaded.configure config).recover.states :=
            states_eq_of_records hrecovered
        _ = loaded.states := recover_states _
        _ = r.plane.states := states_eq_of_records hloaded

/-- A generation, a branch of it, and a publication that leaves the branch as it is. -/
def Scenario.branching : List Mutation :=
  [state 1 1 .immutable,
    .registerState { stateSpec 1 2 .immutable with branch := true, branchesFrom := ⟨1⟩ },
    .publishStateGeneration { stateSpec 1 2 .immutable with branch := true, branchesFrom := ⟨1⟩ }]

theorem lineage_structure_of_branching :
    LineageStructure (reach branching).plane
      ∧ (reach branching).plane.origin ⟨⟨1⟩, ⟨2⟩⟩ = some ⟨⟨1⟩, ⟨1⟩⟩ :=
  ⟨lineage_structure (reachable_of_complies (by decide +kernel)), by decide +kernel⟩

/-- Publishing the trunk generation as a branch of its own branch closes a cycle. -/
theorem cycle_of_branching :
    ∃ r, ReachableRuntime r ∧ ¬ LineageStructure r.plane := by
  refine ⟨reach (branching ++ [.publishStateGeneration
    { stateSpec 1 1 .immutable with branch := true, branchesFrom := ⟨2⟩ }]), reachable _,
    fun hstructure => ?_⟩
  set p := (reach (branching ++ [.publishStateGeneration
    { stateSpec 1 1 .immutable with branch := true, branchesFrom := ⟨2⟩ }])).plane with hp
  have h₁ : p.origin ⟨⟨1⟩, ⟨1⟩⟩ = some ⟨⟨1⟩, ⟨2⟩⟩ := by decide +kernel
  have h₂ : p.origin ⟨⟨1⟩, ⟨2⟩⟩ = some ⟨⟨1⟩, ⟨1⟩⟩ := by decide +kernel
  obtain ⟨n, hn⟩ := hstructure.ends ⟨⟨1⟩, ⟨1⟩⟩
  -- Two steps lead back, so the chain never ends.
  have hgoes : ∀ n, follow p.origin n ⟨⟨1⟩, ⟨1⟩⟩ ≠ none ∧ follow p.origin n ⟨⟨1⟩, ⟨2⟩⟩ ≠ none := by
    intro n
    induction n with
    | zero => exact ⟨by simp [follow], by simp [follow]⟩
    | succ n ih =>
      rw [follow, follow, h₁, h₂]
      exact ⟨ih.2, ih.1⟩
  exact (hgoes n).1 hn

/-! ## Repeated commits -/

/-- The generation is CURRENT. -/
def ControlPlane.IsCurrent (p : ControlPlane) (K : StateKey) : Prop :=
  ∃ s, p.states[K]? = some s ∧ s.lifecycle = .current

/-- The request leaves the set of CURRENT generations of a state as it is. -/
def KeepsCurrent (r : Runtime) (m : Mutation) (stateId : StateId) : Prop :=
  ∀ g : StateGeneration, (r.after m).plane.IsCurrent ⟨stateId, g⟩ ↔ r.plane.IsCurrent ⟨stateId, g⟩

theorem length_trunk_le_one (coherent : Coherent p) (trunk : Trunk p.abs) (stateId : StateId)
    (lineage : LineageId) :
    ((p.currentOnLineage stateId lineage).filter (!·.branch)).length ≤ 1 := by
  have hnodup : ((p.currentOnLineage stateId lineage).filter (!·.branch)).Nodup :=
    ((coherent.nodup_generationsOf stateId).filter _).filter _
  have hmem : ∀ s ∈ (p.currentOnLineage stateId lineage).filter (!·.branch),
      p.states[s.key]? = some s ∧ s.stateId = stateId ∧ s.lifecycle = .current
        ∧ s.lineage = lineage ∧ s.branch = false := by
    intro s hs
    obtain ⟨hs, hbranch⟩ := List.mem_filter.mp hs
    obtain ⟨hs, hcurrent⟩ := List.mem_filter.mp hs
    obtain ⟨hrecorded, hid⟩ := coherent.mem_generationsOf.mp hs
    rw [Bool.and_eq_true, StateGenerationRecord.isCurrent, beq_iff_eq, beq_iff_eq] at hcurrent
    exact ⟨hrecorded, hid, hcurrent.1, hcurrent.2, by simpa using hbranch⟩
  generalize (p.currentOnLineage stateId lineage).filter (!·.branch) = l at hnodup hmem
  rcases l with _ | ⟨s, _ | ⟨t, rest⟩⟩
  · exact Nat.zero_le _
  · exact le_rfl
  · obtain ⟨hs, hsid, hscurrent, hslineage, hsbranch⟩ := hmem s (by simp)
    obtain ⟨ht, htid, htcurrent, htlineage, htbranch⟩ := hmem t (by simp)
    have hkey : s.key = t.key := trunk _ _ _ _ (abs_states hs) (abs_states ht)
      (hsid.trans htid.symm) (hslineage.trans htlineage.symm) hsbranch htbranch hscurrent
      htcurrent
    rw [hkey, ht] at hs
    simp [Option.some.inj hs] at hnodup

/-- A commit of a superseded generation is executed: nothing checks whether it was superseded. -/
theorem commitStateGeneration_of_historical {inputs : MutationInputs} {commitId : CommitId}
    (coherent : Coherent inputs.plane) (trunk : Trunk inputs.plane.abs)
    (valid : commitId.valid = true) {existing : StateGenerationRecord}
    (hexisting : inputs.plane.states[(⟨stateId, generation⟩ : StateKey)]? = some existing)
    (historical : existing.lifecycle = .historical) :
    ∃ out, commitStateGeneration stateId generation commitId inputs = .ok out := by
  have hone := length_trunk_le_one coherent trunk stateId existing.lineage
  apply Exists.intro
  simp only [commitStateGeneration, ↓rejectIf_bind_eq_ok, ↓found_bind_eq_ok]
  refine ⟨by simp [valid], existing, hexisting, ?_⟩
  rw [if_neg (by simp [historical])]
  simp only [↓rejectIf_bind_eq_ok]
  exact ⟨by simp [historical], by simp [hone], rfl⟩

theorem Executes.current {commit : CommitId}
    (h : Executes r (.commitStateGeneration stateId generation commit) out)
    (coherent : Coherent r.plane) :
    commit.valid = true
      ∧ (r.after (.commitStateGeneration stateId generation commit)).plane.IsCurrent
      ⟨stateId, generation⟩ := by
  obtain ⟨inner, hinner, heffects, -⟩ := map_outcome_eq_ok h.body
  have hsplit := hinner
  simp only [commitStateGeneration, ↓rejectIf_bind_eq_ok, ↓found_bind_eq_ok] at hsplit
  obtain ⟨hvalid, existing₀, hexisting, hsplit⟩ := hsplit
  refine ⟨by simpa using hvalid, ?_⟩
  rcases commitStateGeneration_batch coherent hinner with
    hnil | ⟨superseded, existing, record, counters, hkey, batch⟩
  · -- Without effects the generation was CURRENT already.
    have hcurrent : existing₀.lifecycle = .current := by
      by_contra hnot
      rw [if_neg hnot] at hsplit
      simp only [↓rejectIf_bind_eq_ok] at hsplit
      have hputs := (MutationInputs.commit_ok hsplit.2.2).1
      rw [hnil] at hputs
      simp at hputs
    refine ⟨existing₀, ?_, hcurrent⟩
    rw [h.states_eq, heffects, hnil]
    exact hexisting
  · have hcurrent := batch.current
    rw [hkey] at hcurrent
    have habs : (r.after (.commitStateGeneration stateId generation commit)).plane.abs
        = (r.plane.applyAll inner.effects).abs := by
      rw [abs_eq_of_records h.records_eq, heffects]
    obtain ⟨s, hs, hview⟩ := abs_states_eq_some.mp ((congrFun (congrArg Plane.states habs) _).trans
      hcurrent)
    exact ⟨s, hs, (congrArg StateView.lifecycle hview :)⟩

/-- Repeating an acknowledged commit later leaves the CURRENT generations as they are exactly when
the generation is still CURRENT, or the runtime accepts no requests any more. -/
theorem repeated_commit {r₁ r₂ : Runtime} {stateId : StateId} {generation : StateGeneration}
    {commit : CommitId} (reachable : ReachableRuntime r₁)
    (acknowledged : (r₁.answer (.commitStateGeneration stateId generation commit)).isOk = true)
    (run : Runs Step (r₁.after (.commitStateGeneration stateId generation commit)) r₂) :
    KeepsCurrent r₂ (.commitStateGeneration stateId generation commit) stateId
      ↔ r₂.plane.IsCurrent ⟨stateId, generation⟩ ∨ r₂.shuttingDown = true := by
  set m : Mutation := .commitStateGeneration stateId generation commit with hm
  have hinvariant : ∀ {r : Runtime}, ReachableRuntime r → WellKept r ∧ Trunk r.plane.abs :=
    fun h => h.invariant (fun K K' s s' hs => by simp [Plane.empty] at hs) fun hstep => hstep.trunk
  obtain ⟨hkept₁, -⟩ := hinvariant reachable
  have hreach₁ : ReachableRuntime (r₁.after m) := reachable.tail (Step.mutation r₁ m)
  obtain ⟨hkept₂, htrunk₂⟩ := hinvariant (hreach₁.runs run)
  -- The commit was executed, so its generation is CURRENT or HISTORICAL from then on.
  obtain ⟨out, hexec⟩ : ∃ out, Executes r₁ m out := by
    rcases r₁.after_cases m with hexec | ⟨-, ⟨e, herror⟩, -⟩
    · exact hexec
    · rw [herror] at acknowledged
      cases acknowledged
  obtain ⟨hvalid, s₁, hs₁, hcurrent₁⟩ := hexec.current hkept₁.coherent
  obtain ⟨v, hv, hlifecycle⟩ : Committed r₂.plane.abs ⟨stateId, generation⟩ :=
    run.invariant_under (I := fun s => Committed s.plane.abs ⟨stateId, generation⟩)
      (J := ReachableRuntime) (fun s e s' hstep hs => hs.tail hstep)
      (fun s e s' hstep hs hI => ((hinvariant hs).1.step hstep).2.committed hI) hreach₁
      ⟨s₁.view, abs_states hs₁, .inl hcurrent₁⟩
  obtain ⟨s₂, hs₂, rfl⟩ := abs_states_eq_some.mp hv
  constructor
  · intro hkeeps
    by_contra hnot
    obtain ⟨hnotCurrent, hrunning⟩ := not_or.mp hnot
    have hhistorical : s₂.lifecycle = .historical :=
      hlifecycle.resolve_left fun hcurrent => hnotCurrent ⟨s₂, hs₂, hcurrent⟩
    obtain ⟨inner, hinner⟩ :
        ∃ out, commitStateGeneration stateId generation commit r₂.inputs = .ok out :=
      commitStateGeneration_of_historical hkept₂.coherent htrunk₂ hvalid hs₂ hhistorical
    have hexec₂ : Executes r₂ m (inner.map .state) :=
      ⟨Bool.not_eq_true _ ▸ hrunning, by rw [hm, mutationBody, hinner]; rfl⟩
    exact hnotCurrent ((hkeeps generation).mp (hexec₂.current hkept₂.coherent).2)
  · rintro (⟨s, hs, hcurrent⟩ | hshutting) g
    · -- A commit of a CURRENT generation has no effect.
      have hsame : (r₂.after m).plane.states = r₂.plane.states := by
        rcases r₂.after_cases m with ⟨out₂, hexec₂⟩ | ⟨hsame, -⟩
        · obtain ⟨inner, hinner, heffects, -⟩ := map_outcome_eq_ok hexec₂.body
          simp only [commitStateGeneration, ↓rejectIf_bind_eq_ok, ↓found_bind_eq_ok] at hinner
          obtain ⟨-, existing, hexisting, hinner⟩ := hinner
          obtain rfl := some_unique hs hexisting
          rw [if_pos hcurrent] at hinner
          simp only [↓rejectIf_bind_eq_ok] at hinner
          rw [hexec₂.states_eq, heffects, (MutationInputs.commit_ok hinner.2).1]
          rfl
        · rw [hsame]
      rw [IsCurrent, IsCurrent, hsame]
    · rw [show r₂.after m = r₂ by simp [Runtime.after, Runtime.mutate, hshutting]]

theorem repeated_commit_of_twoGenerations :
    ((reach [state 1 1 .immutable]).answer (stateCommit 1 1 7)).isOk = true
      ∧ KeepsCurrent (((reach [state 1 1 .immutable]).after (stateCommit 1 1 7)).afterAll
        [state 1 2 .immutable]) (stateCommit 1 1 7) ⟨1⟩ := by
  have hack : ((reach [state 1 1 .immutable]).answer (stateCommit 1 1 7)).isOk = true := by
    decide +kernel
  have hcurrent : (((reach [state 1 1 .immutable]).after (stateCommit 1 1 7)).afterAll
      [state 1 2 .immutable]).plane.states[(⟨⟨1⟩, ⟨1⟩⟩ : StateKey)]?.any
      (·.lifecycle == .current) = true := by decide +kernel
  obtain ⟨s, hs, hlifecycle⟩ := (Option.any_eq_true _ _).mp hcurrent
  exact ⟨hack, (repeated_commit (reachable _) hack (Runtime.runs_afterAll _ _)).mpr
    (.inl ⟨s, hs, by simpa using hlifecycle⟩)⟩

/-- Repeating the commit of a superseded generation makes it CURRENT again. -/
theorem commit_returns_of_twoGenerations :
    ∃ r₁ r₂, ReachableRuntime r₁ ∧ (r₁.answer (stateCommit 1 1 7)).isOk = true
      ∧ Runs Step (r₁.after (stateCommit 1 1 7)) r₂
      ∧ ¬ KeepsCurrent r₂ (stateCommit 1 1 7) ⟨1⟩ := by
  refine ⟨reach [state 1 1 .immutable], _, reachable _, by decide +kernel,
    Runtime.runs_afterAll _ [state 1 2 .immutable, stateCommit 1 2 8], fun hkeeps => ?_⟩
  set r₂ := ((reach [state 1 1 .immutable]).after (stateCommit 1 1 7)).afterAll
    [state 1 2 .immutable, stateCommit 1 2 8] with hr₂
  have hbefore : r₂.plane.states[(⟨⟨1⟩, ⟨1⟩⟩ : StateKey)]?.all
      (·.lifecycle != .current) = true := by
    decide +kernel
  have hafter : (r₂.after (stateCommit 1 1 7)).plane.states[(⟨⟨1⟩, ⟨1⟩⟩ : StateKey)]?.any
      (·.lifecycle == .current) = true := by decide +kernel
  obtain ⟨s, hs, hlifecycle⟩ := (Option.any_eq_true _ _).mp hafter
  obtain ⟨s₀, hs₀, hcurrent⟩ := (hkeeps ⟨1⟩).mp ⟨s, hs, by simpa using hlifecycle⟩
  simp [hs₀, hcurrent] at hbefore

end StateFabric
