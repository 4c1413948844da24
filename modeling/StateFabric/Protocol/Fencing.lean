import StateFabric.Protocol.Invariants

/-!
# Fencing by set generations

`Ledger` is what an operation and its destination copy always satisfy.  While no set generation
starts over (`Numbered`), none goes back, so an operation remembers a fixed point in the history of
its set (`Tenure`); `Outrun` says that the set has moved on, which no later step undoes.  Three consequences: operations authorized against one generation do not both
complete, an operation that a restart found unfinished never completes (`Fenced`), and no copy of a
superseded generation counts (`Superseded`).
-/

namespace StateFabric

namespace Protocol

open Plane OrderedMap

variable {op op' : OperationView} {o : OperationId} {k : ReplicaId} {v' v : ReplicaView}
  {K : StateKey}

variable {a : Action} {p p' : Plane}

/-! ## Set generations -/

/-- Every recorded set generation is valid, so none has started over. -/
def Numbered (p : Plane) : Prop := ∀ K g, p.setGeneration K = some g → g ≠ 0

/-- No replica set is at the last generation. -/
def Roomy (p : Plane) : Prop := ∀ K g, p.setGeneration K = some g → g ≠ lastIdentity

/-- A step that invalidates no set generation takes none back. -/
theorem SetMove.le {old : Option UInt64} {g g' : UInt64} (h : SetMove old g') (hold : old = some g)
    (valid : g' ≠ 0) : g ≤ g' := by
  cases h with
  | create => simp at hold
  | keep =>
    rw [Option.some.inj hold]
    exact UInt64.le_refl g
  | advance =>
    rw [Option.some.inj hold] at valid ⊢
    exact UInt64.le_of_lt (lt_add_one_of_ne_zero valid)

/-- Only a cluster request moves a cluster. -/
theorem ClusterMove.action_eq {c : ClusterId} {old : Option ClusterView} {v : ClusterView}
    (h : ClusterMove a p p' c old v) : a = .cluster c := by
  cases h <;> assumption

/-- A recorded set stays recorded. -/
theorem Step.set_isSome (h : Step a p p') {g : UInt64} (hg : p.setGeneration K = some g) :
    ∃ g', p'.setGeneration K = some g' := by
  rcases h.sets K with hk | ⟨g', hk, -⟩
  · exact ⟨g, hk.trans hg⟩
  · exact ⟨g', hk⟩

/-- A set generation does not go back while none starts over. -/
theorem Step.set_le (h : Step a p p') (numbered : Numbered p') {g : UInt64}
    (hg : p.setGeneration K = some g) : ∃ g', p'.setGeneration K = some g' ∧ g ≤ g' := by
  rcases h.sets K with hk | ⟨g', hk, hm⟩
  · exact ⟨g, hk.trans hg, UInt64.le_refl g⟩
  · exact ⟨g', hk, hm.le hg (numbered K g' hk)⟩

/-- No set starts over while none is at the last generation. -/
theorem Step.numbered (h : Step a p p') (room : Roomy p) (hp : Numbered p) : Numbered p' := by
  intro K g hg
  rcases h.sets.of_some hg with hk | hm
  · exact hp K g hk
  · generalize hold : p.setGeneration K = old at hm
    cases hm with
    | create => decide
    | keep => exact hp K g hold
    | advance g => exact fun hzero => room K g hold (eq_last_of_add_one hzero)

/-- The set of an operation has moved on since its authorization. -/
def Outrun (p : Plane) (op : OperationView) : Prop :=
  ∃ g, p.setGeneration op.key = some g ∧ op.sourceGeneration < g

theorem Step.outrun (h : Step a p p') (numbered : Numbered p') (hp : Outrun p op) :
    Outrun p' op := by
  obtain ⟨g, hg, hlt⟩ := hp
  obtain ⟨g', hg', hle⟩ := h.set_le numbered hg
  exact ⟨g', hg', UInt64.lt_of_lt_of_le hlt hle⟩

/-- An operation whose set has moved on does not complete. -/
theorem Outrun.not_completable (h : Outrun p op) (valid : op.sourceGeneration ≠ 0) :
    ¬ p.Completable o op := by
  intro hc
  obtain ⟨g, hg, hlt⟩ := h
  obtain rfl := some_unique hg (hc.unmoved valid)
  exact UInt64.lt_irrefl _ hlt

/-! ## Operations and their copies -/

theorem destinationOf_injective : Function.Injective destinationOf := by
  intro o o' h
  have hv : o.value + 4 = o'.value + 4 := congrArg StrongId.value h
  have : o.value = o'.value := by simpa using hv
  cases o
  cases o'
  simpa using this

/-- What an operation and its destination copy always satisfy. -/
structure Ledger (p : Plane) (o : OperationId) (op : OperationView) : Prop where
  destination : op.destination = destinationOf o
  copy : ∃ v, p.replicas (destinationOf o) = some v ∧ v.key = op.key

/-- Every recorded operation satisfies its ledger. -/
structure Accounted (p : Plane) : Prop where
  ledger : ∀ o op, p.operations o = some op → Ledger p o op

/-- What an operation remembers of its set: a valid generation that the set has reached, and has
left behind once the copy is committed. -/
structure Tenure (p : Plane) (o : OperationId) (op : OperationView) : Prop where
  valid : op.sourceGeneration ≠ 0
  generation : ∃ g, p.setGeneration op.key = some g ∧ op.sourceGeneration ≤ g
  committed : ∀ v, p.replicas (destinationOf o) = some v → v.committed = true → Outrun p op

/-- What holds while no set has started over. -/
structure Ordered (p : Plane) : Prop extends Accounted p where
  numbered : Numbered p
  tenure : ∀ o op, p.operations o = some op → Tenure p o op

/-- No two operations share a destination. -/
theorem Accounted.eq_of_destination (h : Accounted p) {o' : OperationId}
    (hop : p.operations o = some op) (hop' : p.operations o' = some op')
    (same : op.destination = op'.destination) : o = o' := by
  have hdest := (h.ledger o op hop).destination
  have hdest' := (h.ledger o' op' hop').destination
  exact destinationOf_injective (hdest.symm.trans (same.trans hdest'))

/-- An operation after a step was authorized by it, or differs from before in its state
only. -/
theorem Step.operation_cases (h : Step a p p') (hop' : p'.operations o = some op') :
    (a = .authorize o ∧ OperationMove a p p' o (p.operations o) op')
      ∨ ∃ op, p.operations o = some op ∧ op' = { op with state := op'.state } := by
  rcases h.operations.of_some hop' with hk | hm
  · exact .inr ⟨op', hk, rfl⟩
  · generalize hold : p.operations o = old at hm ⊢
    have hmove := hm
    cases hm with
    | authorize old op act => exact .inl ⟨act, hmove⟩
    | _ => exact .inr ⟨_, rfl, rfl⟩

/-- A copy that is not reserved anew keeps its generation, and is committed only by moves that
advance its set. -/
theorem ReplicaMove.copy (h : ReplicaMove a p p' k (some v) v') :
    (∃ o, a = .authorize o ∧ k = destinationOf o ∧ v'.committed = false
        ∧ ∃ op, p'.operations o = some op ∧ op.key = v'.key)
      ∨ (v'.key = v.key ∧ (v'.committed = true → v.committed = true ∨ p.Advances p' v.key)) := by
  cases h with
  | reserve old v' o act destination fresh operation =>
    exact .inl ⟨o, act, destination, fresh.uncommitted, operation⟩
  | receive w v' o act accepted integrity lifecycle corrupt authority frame
  | refuse w v' o act accepted lifecycle failed corrupt measured authority frame =>
    rw [frame]
    exact .inr ⟨rfl, .inl⟩
  | commit w authority act lifecycle validated hosted advances
  | promote w act integrity compatibility prepared hosted advances =>
    exact .inr ⟨rfl, fun _ => .inr advances⟩
  | _ => exact .inr ⟨rfl, .inl⟩

/-- The ledger of an operation that is not authorized again survives a step. -/
theorem Step.ledger (h : Step a p p') (hop' : p'.operations o = some op')
    (same : op' = { op with state := op'.state }) (hl : Ledger p o op) : Ledger p' o op' := by
  obtain ⟨v, hv, hkey⟩ := hl.copy
  have hkey' : op'.key = op.key := by rw [same]
  refine ⟨by rw [same]; exact hl.destination, ?_⟩
  rw [hkey']
  rcases h.replicas (destinationOf o) with hk | ⟨v', hk, hm⟩
  · exact ⟨v, hk.trans hv, hkey⟩
  · rw [hv] at hm
    rcases hm.copy with ⟨o', hact, hdest, -, op₂, hop₂, hkey₂⟩ | ⟨hsamekey, -⟩
    · -- The destination was reserved anew, hence for the operation recorded there now.
      obtain rfl := destinationOf_injective hdest
      obtain rfl := some_unique hop₂ hop'
      exact ⟨v', hk, hkey₂.symm.trans hkey'⟩
    · exact ⟨v', hk, hsamekey.trans hkey⟩

/-- Every step keeps the ledgers. -/
theorem Step.accounted (h : Step a p p') (hp : Accounted p) : Accounted p' := by
  refine ⟨fun o op' hop' => ?_⟩
  rcases h.operation_cases hop' with ⟨hact, hm⟩ | ⟨op, hop, hsame⟩
  · generalize hold : p.operations o = old at hm
    cases hm with
    | authorize old op act state destination current generation source destructive reserved =>
      obtain ⟨v, hv, hkey, -⟩ := reserved
      exact ⟨destination, v, hv, hkey⟩
    | _ => simp_all [Action.MovesOn]
  · exact h.ledger hop' hsame (hp.ledger o op hop)

/-- A move that commits a copy outruns every operation of its generation. -/
theorem Tenure.outrun_of_advances (h : Tenure p o op) (numbered : Numbered p')
    (advances : p.Advances p' op.key) : Outrun p' op := by
  obtain ⟨g, hg, hle⟩ := h.generation
  have hnext := advances g hg
  exact ⟨g + 1, hnext, UInt64.lt_of_le_of_lt hle (lt_add_one_of_ne_zero (numbered _ _ hnext))⟩

/-- The tenure of an operation that is not authorized again survives a step. -/
theorem Step.tenure (h : Step a p p') (numbered : Numbered p')
    (same : op' = { op with state := op'.state }) (hl : Ledger p o op) (ht : Tenure p o op) :
    Tenure p' o op' := by
  rw [same]
  refine ⟨ht.valid, ?_, fun v' hv' hc => ?_⟩
  · obtain ⟨g, hg, hle⟩ := ht.generation
    obtain ⟨g', hg', hle'⟩ := h.set_le numbered hg
    exact ⟨g', hg', UInt64.le_trans hle hle'⟩
  · obtain ⟨v, hv, hkey⟩ := hl.copy
    change Outrun p' op
    rcases h.replicas.of_some hv' with hk | hm
    · exact h.outrun numbered (ht.committed v' hk hc)
    · rw [hv] at hm
      rcases hm.copy with ⟨o', hact, hdest, hfresh, -⟩ | ⟨-, hcommit⟩
      · simp [hfresh] at hc
      · rcases hcommit hc with hc' | hadv
        · exact h.outrun numbered (ht.committed v hv hc')
        · exact ht.outrun_of_advances numbered (hkey ▸ hadv)

/-- Every step in which no set starts over keeps the order. -/
theorem Step.ordered (h : Step a p p') (numbered : Numbered p') (hp : Ordered p) : Ordered p' := by
  refine ⟨h.accounted hp.toAccounted, numbered, fun o op' hop' => ?_⟩
  rcases h.operation_cases hop' with ⟨hact, hm⟩ | ⟨op, hop, hsame⟩
  · generalize hold : p.operations o = old at hm
    cases hm with
    | authorize old op act state destination current generation source destructive reserved =>
      obtain ⟨v, hv, hkey, hfresh⟩ := reserved
      refine ⟨hp.numbered _ _ generation, h.set_le numbered generation, fun w hw hc => ?_⟩
      rw [some_unique hw hv, hfresh.uncommitted] at hc
      simp at hc
    | _ => simp_all [Action.MovesOn]
  · exact h.tenure numbered hsame (hp.ledger o op hop) (hp.tenure o op hop)

/-! ## Completion -/

/-- A step that completes an operation found its set unmoved and its copy prepared, and moves the
set on. -/
theorem Step.completes (h : Step a p p') (hp : Accounted p) (act : a = .complete o)
    (hop : p.operations o = some op) (incomplete : op.state ≠ .complete)
    (hop' : p'.operations o = some op') (complete : op'.state = .complete) :
    p.Completable o op ∧ p.Advances p' op.key
      ∧ ∃ v, p.replicas (destinationOf o) = some v ∧ v.lifecycle = .prepared := by
  have hl := hp.ledger o op hop
  rcases h.operations o with hk | ⟨w, hk, hm⟩
  · obtain rfl := some_unique (hk.trans hop) hop'
    exact absurd complete incomplete
  · rw [hop, act] at hm
    cases hm with
    | authorize _ _ act | note _ act | recover _ _ act => simp at act
    | advance _ _ act => simp [Action.MovesOn] at act
    | complete op v act completable destination prepared advances =>
      obtain ⟨w, hw, hkey⟩ := hl.copy
      rw [hl.destination] at destination
      obtain rfl := some_unique destination hw
      exact ⟨completable, hkey ▸ advances, v, hw, prepared⟩

theorem Step.eq_of_completes {o' : OperationId} (h : Step (.complete o') p p')
    (hop : p.operations o = some op) (hop' : p'.operations o = some op')
    (moved : op'.state ≠ op.state) : o = o' := by
  rcases h.operations o with hk | ⟨w, hk, hm⟩
  · obtain rfl := some_unique (hk.trans hop) hop'
    exact absurd rfl moved
  · rw [hop] at hm
    cases hm with
    | authorize _ _ act | note _ act | recover _ _ act => cases act
    | advance _ _ act => simp [Action.MovesOn] at act
    | complete _ _ act => exact (Action.complete.inj act).symm

/-! ## Membership events -/

/-- The actions that move every set on whose copies they change. -/
def Action.MovesSets : Action → Prop
  | .commitReplica _ | .complete _ | .retire _ | .quarantine _ | .revalidate _ | .handoff _ _
  | .cluster _ => True
  | _ => False

theorem ReplicaMove.advances (h : ReplicaMove a p p' k (some v) v') (event : a.MovesSets)
    (owned : ∀ K, p.Owns K k → v.key = K) : p.Advances p' v.key := by
  cases h with
  | reserve old v' o act => exact (act ▸ event : Action.MovesSets (.authorize o)).elim
  | progress w o act | receive w v' o act =>
    exact (act ▸ event : Action.MovesSets (.report k o _)).elim
  | abandon w revalidation allowed =>
    rcases allowed with ⟨o, act, -⟩ | ⟨o, op, act, -⟩ | ⟨o, op, act, -⟩ <;>
      · rw [act] at event
        exact event.elim
  | refuse w v' o act | verify w measured o act =>
    exact (act ▸ event : Action.MovesSets (.verify k o _)).elim
  | commit w authority act lifecycle validated hosted advances
  | promote w act integrity compatibility prepared hosted advances
  | retire w act live advances | quarantine w act live advances
  | revalidate w incarnation authority act live integrity hosted advances
  | fence w availability lifecycle c act stale live advances =>
    exact advances
  | demote w K act live owner advances =>
    exact owned K owner ▸ advances
  | supersede w K act => exact (act ▸ event : Action.MovesSets (.commitState K)).elim
  | recover w act | suspend w act => exact (act ▸ event : Action.MovesSets .reopen).elim

/-! ## Operations a restart found unfinished -/

/-- An operation that can no longer complete: it is over, its copy is suspended uncommitted,
or its set has moved on. -/
def Fenced (p : Plane) (o : OperationId) (op : OperationView) : Prop :=
  op.Terminal
    ∨ (∃ v, p.replicas (destinationOf o) = some v ∧ v.committed = false
        ∧ (v.lifecycle = .quarantined ∨ v.Terminal))
    ∨ Outrun p op

/-- A suspended uncommitted copy stays suspended, or its set moves on. -/
theorem ReplicaMove.suspended (h : ReplicaMove a p p' k (some v) v')
    (other : ∀ o, a = .authorize o → k ≠ destinationOf o) (uncommitted : v.committed = false)
    (suspended : v.lifecycle = .quarantined ∨ v.Terminal) :
    (v'.committed = false ∧ (v'.lifecycle = .quarantined ∨ v'.Terminal))
      ∨ p.Advances p' v.key := by
  have hlife : v.lifecycle = .quarantined ∨ v.lifecycle = .retired ∨ v.lifecycle = .abandoned :=
    suspended
  cases h with
  | reserve old v' o act destination => exact absurd destination (other o act)
  | progress w o act staging =>
    rcases hlife with h | h | h <;> simp [h, ReplicaLifecycle.isStagingPhase] at staging
  | abandon =>
    exact .inl ⟨uncommitted, .inr (.inr rfl)⟩
  | receive w v' o act accepted =>
    rcases hlife with h | h | h <;> simp [h, ReplicaLifecycle.acceptsCompletion] at accepted
  | refuse w v' o act accepted | verify w measured o act accepted =>
    rcases hlife with h | h | h <;> simp [h, ReplicaLifecycle.acceptsVerification] at accepted
  | commit w authority act lifecycle =>
    rcases hlife with h | h | h <;> simp [h] at lifecycle
  | promote w act integrity compatibility prepared =>
    rcases hlife with h | h | h <;> simp [h, uncommitted] at prepared
  | demote | recover =>
    exact .inl ⟨uncommitted, suspended⟩
  | retire =>
    exact .inl ⟨uncommitted, .inr (.inl rfl)⟩
  | quarantine | suspend =>
    exact .inl ⟨uncommitted, .inl rfl⟩
  | revalidate w incarnation authority act live integrity hosted advances
  | supersede w K act advances | fence w availability lifecycle c act stale live advances =>
    exact .inr advances

theorem Step.terminal_operation (h : Step a p p') (other : a ≠ .authorize o)
    (hop : p.operations o = some op) (terminal : op.Terminal) (hop' : p'.operations o = some op') :
    op' = op := by
  rcases h.operations o with hk | ⟨w, hk, hm⟩
  · exact some_unique hop' (hk.trans hop)
  · obtain rfl : w = op' := some_unique hk hop'
    rw [hop] at hm
    cases hm with
    | authorize _ _ act => exact absurd act other
    | advance _ _ act live | recover _ _ act live => exact absurd terminal live
    | note => rfl
    | complete _ _ act completable => exact absurd terminal completable.live

/-- An operation that can no longer complete stays so until its identity is authorized again. -/
theorem Step.fenced (h : Step a p p') (numbered : Numbered p') (hp : Ordered p)
    (other : a ≠ .authorize o) (hop : p.operations o = some op) (hf : Fenced p o op) (hop' : p'.operations o = some op') :
    Fenced p' o op' := by
  have hl := hp.ledger o op hop
  rcases hf with hterminal | ⟨v, hv, huncommitted, hsuspended⟩ | houtrun
  · rw [h.terminal_operation other hop hterminal hop']
    exact .inl hterminal
  all_goals
    have hsame : op' = { op with state := op'.state } := by
      rcases h.operation_cases hop' with ⟨hact, -⟩ | ⟨op₂, hop₂, hsame⟩
      · exact absurd hact other
      · rwa [some_unique hop hop₂]
  · rcases h.replicas (destinationOf o) with hk | ⟨v', hk, hm⟩
    · exact .inr (.inl ⟨v, hk.trans hv, huncommitted, hsuspended⟩)
    · rw [hv] at hm
      have hother : ∀ o', a = .authorize o' → destinationOf o ≠ destinationOf o' := by
        intro o' hact heq
        exact other (destinationOf_injective heq ▸ hact)
      rcases hm.suspended hother huncommitted hsuspended with ⟨hu, hs⟩ | hadv
      · exact .inr (.inl ⟨v', hk, hu, hs⟩)
      · obtain ⟨w, hw, hkey⟩ := hl.copy
        obtain rfl := some_unique hv hw
        rw [hsame]
        exact .inr (.inr ((hp.tenure o op hop).outrun_of_advances numbered (hkey ▸ hadv)))
  · rw [hsame]
    exact .inr (.inr (h.outrun numbered houtrun))

/-- No copy of a historical generation counts, and every operation on one is outrun. -/
def Superseded (p : Plane) : Prop :=
  ∀ K s, p.states K = some s → s.lifecycle = .historical →
    (∀ k v, p.replicas k = some v → v.key = K → ¬ v.Counting)
      ∧ ∀ o op, p.operations o = some op → op.key = K → Outrun p op

/-- The step puts no copy of a historical generation into authority: it commits, revalidates
and promotes only copies of generations that are not historical. -/
def SparesHistory (a : Action) (p : Plane) : Prop :=
  ∀ k v s, (a = .commitReplica k ∨ a = .revalidate k ∨ a = .handoff v.key k) →
    p.replicas k = some v → p.states v.key = some s → s.lifecycle ≠ .historical

/-- A generation is historical after a step because it was, or because the step superseded
it. -/
theorem Step.historical_cases (h : Step a p p') {s' : StateView} (hs' : p'.states K = some s')
    (historical : s'.lifecycle = .historical) :
    p.states K = some s' ∨
      ((∀ k v, p.replicas k = some v → v.key = K → p'.replicas k = some v.superseded)
        ∧ p.Advances p' K ∧ ∃ K₀, a = .commitState K₀) := by
  rcases h.states.of_some hs' with hk | hm
  · exact .inl hk
  · generalize hold : p.states K = old at hm
    cases hm with
    | register s act staged => simp [staged] at historical
    | publish s s' act staged staged' => simp [staged'] at historical
    | commit => simp at historical
    | supersede s K₀ act other current replicas advances =>
      exact .inr ⟨replicas, advances, K₀, act⟩

/-- No copy of a generation that was historical comes to count. -/
theorem Step.not_counting_historical (h : Step a p p') (hp : Ordered p) (hs : Superseded p)
    (spares : SparesHistory a p) {s : StateView} (hK : p.states K = some s)
    (historical : s.lifecycle = .historical) (hv' : p'.replicas k = some v') (hkey : v'.key = K) :
    ¬ v'.Counting := by
  intro counting
  obtain ⟨hcopies, hops⟩ := hs K s hK historical
  rcases h.replicas.of_some hv' with hk | hm
  · exact hcopies k v' hk hkey counting
  · obtain ⟨v, hv, hvk, hcase⟩ := hm.counting_cases counting
    have hKv : p.states v.key = some s := by rw [hvk, hkey, hK]
    have hspared : ∀ (_ : a = .commitReplica k ∨ a = .revalidate k ∨ a = .handoff v.key k), False :=
      fun hact => spares k v s hact hv hKv historical
    rcases hcase with ⟨hc, -⟩ | ⟨-, hact | hact | hact | ⟨o, op, -, hcompletable, hdest⟩, -⟩
    · exact hcopies k v hv (hvk.trans hkey) hc
    · exact hspared (.inl hact)
    · exact hspared (.inr (.inl hact))
    · exact hspared (.inr (.inr hact))
    · have hl := hp.ledger o op hcompletable.recorded
      obtain ⟨u, hu, hukey⟩ := hl.copy
      rw [← hl.destination, hdest] at hu
      obtain rfl := some_unique hv hu
      have hopK : op.key = K := by rw [← hukey, hvk, hkey]
      exact (hops o op hcompletable.recorded hopK).not_completable
        (hp.tenure o op hcompletable.recorded).valid hcompletable

/-- Supersession stays effective. -/
theorem Step.superseded (h : Step a p p') (numbered : Numbered p') (hp : Ordered p)
    (hs : Superseded p) (spares : SparesHistory a p) : Superseded p' := by
  intro K s' hs' historical
  rcases h.historical_cases hs' historical with hold | ⟨hcopies, hadv, K₀, hact⟩
  · refine ⟨fun k v' hv' hkey =>
      h.not_counting_historical hp hs spares hold historical hv' hkey, fun o op' hop' hkey => ?_⟩
    rcases h.operation_cases hop' with ⟨hact, hm⟩ | ⟨op, hop, hsame⟩
    · generalize hold' : p.operations o = old at hm
      cases hm with
      | authorize old op act state destination current =>
        obtain ⟨t, ht, hcurrent⟩ := current
        rw [hkey, hold] at ht
        rw [Option.some.inj ht, hcurrent] at historical
        simp at historical
      | _ => simp_all [Action.MovesOn]
    · have hopK : op.key = K := by rw [← hkey, hsame]
      have houtrun := h.outrun numbered ((hs K s' hold historical).2 o op hop hopK)
      rw [hsame]
      exact houtrun
  · refine ⟨fun k v' hv' hkey counting => ?_, fun o op' hop' hkey => ?_⟩
    · rcases h.replicas.of_some hv' with hk | hm
      · have heq := hcopies k v' hk hkey
        rw [some_unique hv' heq] at counting
        exact ReplicaView.not_counting_superseded counting
      · obtain ⟨v, hv, hvk, -⟩ := hm.counting_cases counting
        have heq := hcopies k v hv (hvk.trans hkey)
        rw [some_unique hv' heq] at counting
        exact ReplicaView.not_counting_superseded counting
    · rcases h.operation_cases hop' with ⟨hauth, -⟩ | ⟨op, hop, hsame⟩
      · rw [hact] at hauth
        simp at hauth
      · have hopK : op.key = K := by rw [← hkey, hsame]
        have houtrun : Outrun p' op :=
          (hp.tenure o op hop).outrun_of_advances numbered (hopK ▸ hadv)
        rw [hsame]
        exact houtrun

end Protocol

end StateFabric
