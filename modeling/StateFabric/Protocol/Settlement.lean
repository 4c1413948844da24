import StateFabric.Protocol.Fencing

/-!
# Operations and the copies they leave

An operation and the copy it transfers are written by different steps: reports move either on
without the other, a copy can be committed or retired directly, and a cancellation or a restart
ends the operation.  Two relations ought to hold between them.

* `LeavesNothing`: the copy of an operation that failed does not count.  Steps keep it that fail no
  operation whose copy counts and that put no copy of a failed operation into authority
  (`SparesFailed`).
* `Served`: the copy of a live operation can still become authoritative.  Steps keep it that
  settle the operations whose copy they doom (`SettlesDoomed`).

Destinations are minted per operation, so a copy belongs to one operation at most
(`Accounted.eq_of_destination`).
-/

namespace StateFabric

namespace Protocol

open Plane OrderedMap

variable {op op' : OperationView} {k : ReplicaId} {v' v : ReplicaView} {o : OperationId}

variable {a : Action} {p p' : Plane}

/-! ## Failed operations -/

/-- The copy of an operation that failed does not count. -/
def LeavesNothing (p : Plane) : Prop :=
  ∀ o op v, p.operations o = some op → op.Failed → p.replicas op.destination = some v →
    ¬ v.Counting

/-- The step fails no operation whose copy counts, and puts no copy of a failed operation into
authority. -/
structure SparesFailed (a : Action) (p : Plane) : Prop where
  failed : ∀ o op v state, a.MovesOn o state → ({ op with state := state } : OperationView).Failed →
    p.operations o = some op → ¬ op.Terminal → p.replicas op.destination = some v → ¬ v.Counting
  restarted : a = .reopen → ∀ o op v, p.operations o = some op → op.Early →
    p.replicas op.destination = some v → ¬ v.Counting
  established : ∀ k o op, (a = .commitReplica k ∨ a = .revalidate k ∨ ∃ K, a = .handoff K k) →
    p.operations o = some op → op.Failed → op.destination ≠ k

theorem OperationView.Failed.terminal (h : op.Failed) : op.Terminal := by
  rcases h with h | h | h
  · exact .inr (.inl h)
  · exact .inr (.inr (.inr h))
  · exact .inr (.inr (.inl h))

theorem Step.counted_or_established (h : Step a p p') (hv' : p'.replicas k = some v')
    (counting : v'.Counting) :
    ∃ v, p.replicas k = some v ∧ (v.Counting ∨ a.Establishes p v.key k) := by
  rcases h.replicas.of_some hv' with hk | hm
  · exact ⟨v', hk, .inl counting⟩
  · obtain ⟨v, hv, -, ⟨hcounted, -⟩ | ⟨-, hestablished, -⟩⟩ := hm.counting_cases counting
    · exact ⟨v, hv, .inl hcounted⟩
    · exact ⟨v, hv, .inr hestablished⟩

/-- An action that puts a copy into authority moves no operation on and is no restart. -/
theorem Action.Establishes.not_fails {K : StateKey} (h : a.Establishes p K k) :
    a ≠ .reopen ∧ ∀ o state, ¬ a.MovesOn o state := by
  rcases h with rfl | rfl | rfl | ⟨o, op, rfl, -⟩ <;> simp [Action.MovesOn]

/-- An operation that a step fails was live, and the step moves it on or is a restart. -/
theorem Step.fails (h : Step a p p') (hop : p.operations o = some op)
    (hop' : p'.operations o = some op') (failed : op'.Failed) (unfailed : ¬ op.Failed) :
    (¬ op.Terminal ∧ ∃ state, a.MovesOn o state ∧ op' = { op with state := state })
      ∨ (a = .reopen ∧ op.Early) := by
  rcases h.operations o with hk | ⟨w, hk, hm⟩
  · obtain rfl := some_unique (hk.trans hop) hop'
    exact absurd failed unfailed
  · obtain rfl : w = op' := some_unique hk hop'
    rw [hop] at hm
    cases hm with
    | authorize _ _ act state => simp [OperationView.Failed, state] at failed
    | advance _ state act live => exact .inl ⟨live, state, act, rfl⟩
    | note => exact absurd failed unfailed
    | complete => simp [OperationView.Failed] at failed
    | recover _ state act live outcome =>
      rcases outcome with ⟨early, -⟩ | ⟨-, rfl | rfl⟩
      · exact .inr ⟨act, early⟩
      · simp [OperationView.Failed] at failed
      · simp [OperationView.Failed] at failed

theorem Step.leavesNothing (h : Step a p p') (accounted : Accounted p)
    (spares : SparesFailed a p) (hp : LeavesNothing p) : LeavesNothing p' := by
  intro o op' v' hop' hfailed hv' hcounting
  rcases h.operation_cases hop' with ⟨rfl, hm⟩ | ⟨op, hop, hsame⟩
  · -- An authorized operation is reserved.
    generalize p.operations o = old at hm
    cases hm with
    | authorize _ _ act state => simp [OperationView.Failed, state] at hfailed
    | advance _ _ act => simp [Action.MovesOn] at act
    | note _ act | complete _ _ act | recover _ _ act => cases act
  have hdest : op'.destination = op.destination := by rw [hsame]
  rw [hdest] at hv'
  obtain ⟨v, hv, hbefore⟩ := h.counted_or_established hv' hcounting
  by_cases hunfailed : op.Failed
  · -- The operation failed earlier, so its copy must have been put into authority now.
    rcases hbefore with hc | hact | hact | hact | ⟨o₂, op₂, -, hcompletable, hdest₂⟩
    · exact hp o op v hop hunfailed hv hc
    · exact spares.established _ o op (.inl hact) hop hunfailed rfl
    · exact spares.established _ o op (.inr (.inl hact)) hop hunfailed rfl
    · exact spares.established _ o op (.inr (.inr ⟨_, hact⟩)) hop hunfailed rfl
    · obtain rfl := accounted.eq_of_destination hcompletable.recorded hop hdest₂
      obtain rfl := some_unique hcompletable.recorded hop
      exact hcompletable.live hunfailed.terminal
  · -- The step fails the operation, so its copy counted before.
    rcases h.fails hop hop' hfailed hunfailed with ⟨hlive, state, hact, rfl⟩ | ⟨hact, hearly⟩
    · rcases hbefore with hc | hestablished
      · exact spares.failed o op v state hact hfailed hop hlive hv hc
      · exact hestablished.not_fails.2 o state hact
    · rcases hbefore with hc | hestablished
      · exact spares.restarted hact o op v hop hearly hv hc
      · exact hestablished.not_fails.1 hact

/-! ## Live operations -/

/-- A copy that can no longer become authoritative. -/
def ReplicaView.Doomed (v : ReplicaView) : Prop :=
  v.lifecycle = .retired ∨ v.lifecycle = .abandoned ∨ v.lifecycle = .corrupt

/-- The copy of a live operation can still become authoritative. -/
def Served (p : Plane) : Prop :=
  ∀ o op v, p.operations o = some op → ¬ op.Terminal → p.replicas op.destination = some v →
    ¬ v.Doomed

/-- No live operation transfers into the copy. -/
def Plane.Unserved (p : Plane) (k : ReplicaId) : Prop :=
  ∀ o op, p.operations o = some op → op.destination = k → op.Terminal

/-- The ways a step dooms a copy. -/
inductive Dooms (a : Action) (p p' : Plane) (k : ReplicaId) (v' : ReplicaView) : Prop
  | failed (o : OperationId) (act : a = .report k o .failed)
      (settled : ∀ op, p'.operations o = some op → op.Terminal)
  | cancelled (o : OperationId) (op : OperationView) (act : a = .cancel o)
      (recorded : p.operations o = some op) (destination : op.destination = k)
      (settled : p'.operations o = some { op with state := .cancelled })
  | restarted (o : OperationId) (op : OperationView) (act : a = .reopen)
      (recorded : p.operations o = some op) (early : op.Early) (destination : op.destination = k)
  | received (o : OperationId) (act : a = .report k o .transferred)
      (corrupt : v'.lifecycle = .corrupt)
  | refused (o : OperationId) (act : a = .verify k o false) (corrupt : v'.lifecycle = .corrupt)
  | retired (act : a = .retire k ∨ ∃ o op, a = .complete o ∧ p.operations o = some op
      ∧ op.destructive = true ∧ op.source = k)

theorem Fresh.not_doomed (h : Fresh v) : ¬ v.Doomed := by
  have hstaging := h.staging
  rintro (hl | hl | hl) <;> simp [hl, ReplicaLifecycle.isStagingPhase] at hstaging

theorem ReplicaMove.dooms (h : ReplicaMove a p p' k (some v) v') (undoomed : ¬ v.Doomed)
    (doomed : v'.Doomed) : Dooms a p p' k v' := by
  cases h with
  | reserve old w o act destination fresh => exact absurd doomed fresh.not_doomed
  | progress | verify | commit | promote | quarantine | suspend =>
    simp [ReplicaView.Doomed] at doomed
  | abandon w revalidation allowed =>
    rcases allowed with ⟨o, act, -, settled⟩ | ⟨o, op, act, recorded, dest, -, -, settled⟩
      | ⟨o, op, act, recorded, early, dest, -⟩
    · exact .failed o act settled
    · exact .cancelled o op act recorded dest settled
    · exact .restarted o op act recorded early dest
  | receive w w' o act accepted integrity lifecycle =>
    rcases lifecycle with hl | hl
    · simp [ReplicaView.Doomed, hl] at doomed
    · exact .received o act hl
  | refuse w w' o act accepted lifecycle =>
    rcases lifecycle with hl | hl | hl | hl
    · exact .refused o act hl
    all_goals simp [ReplicaView.Doomed, hl] at doomed
  | demote | recover => exact absurd doomed undoomed
  | retire w act =>
    rcases act with ⟨act, -⟩ | ⟨o, op, w, act, recorded, destructive, source, -⟩
    · exact .retired (.inl act)
    · exact .retired (.inr ⟨o, op, act, recorded, destructive, source⟩)
  | revalidate => cases hc : v.committed <;> simp [ReplicaView.Doomed, hc] at doomed
  | supersede =>
    simp only [ReplicaView.Doomed, ReplicaView.superseded] at doomed
    split at doomed
    · simp at doomed
    · exact absurd doomed undoomed
  | fence w availability lifecycle c act stale =>
    simp only [ReplicaView.Doomed, ReplicaView.fenced] at doomed
    split at doomed
    · rcases stale with rfl | rfl <;> simp at doomed
    · exact absurd doomed undoomed

/-- The step settles the operations whose copy it dooms. -/
structure SettlesDoomed (a : Action) (p p' : Plane) : Prop where
  failed : ∀ k o, a = .report k o .failed → ∀ o' op, p.operations o' = some op → ¬ op.Terminal →
    op.destination = k → o' = o
  received : ∀ k o v', a = .report k o .transferred → p'.replicas k = some v' →
    v'.lifecycle = .corrupt → p.Unserved k
  refused : ∀ k o v', a = .verify k o false → p'.replicas k = some v' →
    v'.lifecycle = .corrupt → ∀ o' op op', p.operations o' = some op → ¬ op.Terminal →
    op.destination = k → p'.operations o' = some op' → op'.Terminal
  retired : ∀ k, (a = .retire k ∨ ∃ o op, a = .complete o ∧ p.operations o = some op
    ∧ op.destructive = true ∧ op.source = k) → p.Unserved k

theorem Step.settles_of_dooms (h : Step a p p') (accounted : Accounted p)
    (settles : SettlesDoomed a p p') (hop : p.operations o = some op) (live : ¬ op.Terminal)
    (hop' : p'.operations o = some op') (hv' : p'.replicas op.destination = some v')
    (dooms : Dooms a p p' op.destination v') : op'.Terminal := by
  cases dooms with
  | failed o₂ act settled =>
    obtain rfl := settles.failed _ o₂ act o op hop live rfl
    exact settled op' hop'
  | cancelled o₂ op₂ act recorded destination settled =>
    obtain rfl := accounted.eq_of_destination recorded hop destination
    obtain rfl := some_unique settled hop'
    exact .inr (.inr (.inr rfl))
  | restarted o₂ op₂ act recorded early destination =>
    obtain rfl := accounted.eq_of_destination recorded hop destination
    obtain rfl := some_unique recorded hop
    obtain ⟨state, hstate, houtcome, -⟩ := h.settles act o₂ op₂ hop live
    obtain rfl := some_unique hstate hop'
    rcases houtcome with ⟨-, rfl⟩ | ⟨hlate, -⟩
    · exact .inr (.inr (.inl rfl))
    · exact absurd early hlate
  | received o₂ act corrupt =>
    exact absurd (settles.received _ o₂ v' act hv' corrupt o op hop rfl) live
  | refused o₂ act corrupt =>
    exact settles.refused _ o₂ v' act hv' corrupt o op op' hop live rfl hop'
  | retired act => exact absurd (settles.retired _ act o op hop rfl) live

theorem Step.served (h : Step a p p') (accounted : Accounted p) (settles : SettlesDoomed a p p')
    (hp : Served p) : Served p' := by
  intro o op' v' hop' hlive' hv' hdoomed
  -- An operation that was live before was served before, so the step doomed its copy.
  have hserved : ∀ op, p.operations o = some op → ¬ op.Terminal →
      op'.destination = op.destination → False := by
    intro op hop hlive hdest
    rw [hdest] at hv'
    have hledger := accounted.ledger o op hop
    obtain ⟨v, hv, -⟩ := hledger.copy
    rw [← hledger.destination] at hv
    have hundoomed := hp o op v hop hlive hv
    rcases h.replicas op.destination with hk | ⟨w, hk, hm⟩
    · obtain rfl := some_unique (hk.trans hv) hv'
      exact hundoomed hdoomed
    · obtain rfl : w = v' := some_unique hk hv'
      rw [hv] at hm
      exact hlive' (h.settles_of_dooms accounted settles hop hlive hop' hv'
        (hm.dooms hundoomed hdoomed))
  rcases h.operations.of_some hop' with hk | hm
  · exact hserved op' hk hlive' rfl
  · generalize hold : p.operations o = old at hm
    cases hm with
    | authorize _ _ act state destination current generation source destructive reserved =>
      obtain ⟨v, hv, -, hfresh⟩ := reserved
      rw [destination, hv] at hv'
      exact hfresh.not_doomed (Option.some.inj hv' ▸ hdoomed)
    | advance op state act live | recover op state act live => exact hserved op hold live rfl
    | note => exact hserved _ hold hlive' rfl
    | complete => exact hlive' (.inl rfl)

end Protocol

end StateFabric
