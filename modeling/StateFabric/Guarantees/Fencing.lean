import StateFabric.Guarantees.Invariants
import StateFabric.Guarantees.Ownership

/-!
# Fencing of operations

An operation is authorized against one generation of its replica set, and a commit completes it
only while that generation stands.  Everything that changes a copy of the set, and the
supersession of the state generation, moves the set on; so does a completion.  A restart leaves
no operation that a later commit could complete.

Changes reach the set of the generation they are about.  An authorization that mints an identity
already in use breaks that: it puts a copy of one generation where the ownership record of
another still looks for its owner.
-/

namespace StateFabric

open Protocol Transition ControlPlane OrderedMap Scenario

variable {r : Runtime} {o : OperationId} {m : Mutation}

/-! ## Completions and what outdates an operation -/

/-- The request is an operation commit that moves the operation to COMPLETE. -/
def Completes (r : Runtime) (m : Mutation) (o : OperationId) : Prop :=
  (∃ commit, m = .commitOperation commit) ∧ ∃ op op', r.plane.operations[o]? = some op
    ∧ op.state ≠ .complete ∧ (r.after m).plane.operations[o]? = some op'
    ∧ op'.state = .complete

/-- A completion can be read off the states the operation has before and after. -/
theorem completes_of_states {commit : OperationCommit}
    (before : r.plane.operations[o]?.any (·.state != .complete) = true)
    (after : (r.after (.commitOperation commit)).plane.operations[o]?.any (·.state == .complete)
      = true) : Completes r (.commitOperation commit) o := by
  obtain ⟨op, hop, hincomplete⟩ := (Option.any_eq_true _ _).mp before
  obtain ⟨op', hop', hcomplete⟩ := (Option.any_eq_true _ _).mp after
  exact ⟨⟨commit, rfl⟩, op, op', hop, by simpa using hincomplete, hop', by simpa using hcomplete⟩

/-- Commits, retirements, quarantines, revalidations, handoffs, and the loss, retirement and
reincarnation of clusters. -/
def Mutation.isMembershipEvent : Mutation → Bool
  | .commitReplica _ | .commitOperation _ | .retireReplica _ | .quarantineReplica _
  | .revalidateReplica _ | .transferOwnership _ | .markClusterUnreachable .. | .retireCluster ..
  | .registerCluster _ => true
  | _ => false

/-- The request supersedes a state generation, or is a membership event that changes a replica
of it. -/
def Outdates (r : Runtime) (m : Mutation) (K : StateKey) : Prop :=
  (∃ s s', r.plane.states[K]? = some s ∧ s.lifecycle = .current
      ∧ (r.after m).plane.states[K]? = some s' ∧ s'.lifecycle = .historical)
    ∨ (m.isMembershipEvent = true ∧ ∃ (k : ReplicaId) (replica : ReplicaRecord),
      r.plane.replicas[k]? = some replica ∧ replica.key = K
        ∧ (r.after m).plane.replicas[k]? ≠ some replica)

theorem accounted_empty : Accounted Plane.empty where
  ledger _ _ h := by cases h

theorem ordered_empty : Ordered Plane.empty where
  toAccounted := accounted_empty
  numbered _ _ h := by cases h
  tenure _ _ h := by cases h

/-! ## Runs in which no set generation starts over -/

/-- The effect puts a replica set whose generation is past the end of the range. -/
def Effect.wrapsSet : Effect → Bool
  | .putReplicaSet set => !set.generation.valid
  | _ => false

/-- The step wraps no replica set generation. -/
def NoSetWraps (r : Runtime) : Event → Prop
  | .mutation m => ∀ effect ∈ r.effects m, effect.wrapsSet = false
  | .persist | .shutdown | .reopen _ => True

instance NoSetWraps.decidable (r : Runtime) (e : Event) : Decidable (NoSetWraps r e) :=
  match e with
  | .mutation m => inferInstanceAs (Decidable (∀ effect ∈ r.effects m, effect.wrapsSet = false))
  | .persist | .shutdown | .reopen _ => inferInstanceAs (Decidable True)

/-- A step that wraps no set generation leaves all of them valid. -/
theorem WellKept.numbered {r' : Runtime} {e : Event} (h : WellKept r) (hstep : Step r e r')
    (nowrap : NoSetWraps r e) (numbered : Numbered r.plane.abs) : Numbered r'.plane.abs := by
  intro K g hg
  refine h.sets_step hstep (P := (· ≠ 0)) (fun m set he hput => ?_) numbered hg
  subst he
  have hvalid : (!set.generation.valid) = false := nowrap (.putReplicaSet set) hput
  simpa [StrongId.valid] using hvalid

/-- The commit names the operation it completes, and is the completion step of the protocol. -/
theorem Completes.step (h : Completes r m o) (kept : WellKept r) :
    (∃ commit : OperationCommit, m = .commitOperation commit ∧ commit.operationId = o)
      ∧ Protocol.Step (.complete o) r.plane.abs (r.after m).plane.abs := by
  obtain ⟨⟨commit, rfl⟩, op, op', hop, hincomplete, hop', hcomplete⟩ := h
  have hmoved : op'.view.state ≠ op.view.state := fun heq => hincomplete (heq.symm.trans hcomplete)
  rcases r.after_cases (.commitOperation commit) with ⟨out, hexec⟩ | ⟨hsame, -⟩
  · have hstep := kept.after_step (.commitOperation commit)
    rw [hexec.action_eq] at hstep
    obtain rfl : o = commit.operationId :=
      hstep.eq_of_completes (abs_operations hop) (abs_operations hop') hmoved
    exact ⟨⟨commit, rfl, rfl⟩, hstep⟩
  · rw [hsame, hop] at hop'
    exact absurd (congrArg (fun x => x.view.state) (Option.some.inj hop').symm) hmoved

/-- A completion finds the set of its operation unmoved, and moves it on. -/
theorem Completes.spec (h : Completes r m o) (kept : WellKept r) (accounted : Accounted r.plane.abs)
    {op : OperationRecord} (hop : r.plane.operations[o]? = some op) :
    r.plane.abs.Completable o op.view ∧ r.plane.abs.Advances (r.after m).plane.abs op.key := by
  obtain ⟨-, hstep⟩ := h.step kept
  obtain ⟨-, op₀, op', hop₀, hincomplete, hop', hcomplete⟩ := h
  obtain rfl := some_unique hop₀ hop
  have hspec := hstep.completes accounted rfl (abs_operations hop) hincomplete
    (abs_operations hop') hcomplete
  exact ⟨hspec.1, hspec.2.1⟩

theorem movesSets_of_isMembershipEvent (h : m.isMembershipEvent = true) : (m.act r).MovesSets := by
  cases m <;> trivial

theorem Executes.advances_of_change {out : Outcome Response} (h : Executes r m out)
    (coherent : Coherent r.plane) (owned : Owned r.plane.abs) (event : m.isMembershipEvent = true)
    {k : ReplicaId} {replica : ReplicaRecord} (hreplica : r.plane.replicas[k]? = some replica)
    (changed : (r.after m).plane.replicas[k]? ≠ some replica) :
    r.plane.abs.Advances (r.after m).plane.abs replica.key := by
  rw [h.replicas_eq] at changed
  rw [abs_eq_of_records h.records_eq]
  rcases r.plane.replicas_applyAll_cases out.effects k with hsame | ⟨w, ⟨hput, rfl⟩, -⟩
  · exact absurd (hsame.trans hreplica) changed
  · have hmove := (h.admissible coherent).lawful.replicas w hput
    rw [hreplica] at hmove
    refine hmove.advances (movesSets_of_isMembershipEvent event) fun K howns => ?_
    obtain ⟨v, hv, hkey, -⟩ := owned.held K w.replicaId howns
    rw [abs_replicas hreplica] at hv
    rw [← hkey, ← Option.some.inj hv]

/-- What outdates an operation moves its set on. -/
theorem Outdates.advances {op : OperationRecord} (h : Outdates r m op.key) (kept : WellKept r)
    (owned : Owned r.plane.abs) : r.plane.abs.Advances (r.after m).plane.abs op.key := by
  rcases h with ⟨s, s', hs, hcurrent, hs', hhistorical⟩ | ⟨hevent, k, replica, hk, hkey, hchanged⟩
  · rcases (kept.after_step m).historical_cases (abs_states hs') hhistorical with
      hold | ⟨-, hadvances, -⟩
    · have hlifecycle : s.lifecycle = s'.lifecycle :=
        congrArg StateView.lifecycle (some_unique (abs_states hs) hold)
      rw [hcurrent, hhistorical] at hlifecycle
      cases hlifecycle
    · exact hadvances
  · rcases r.after_cases m with ⟨out, hexec⟩ | ⟨hsame, -⟩
    · have hadvances := hexec.advances_of_change kept.coherent owned hevent hk hchanged
      rwa [hkey] at hadvances
    · rw [hsame] at hchanged
      exact absurd hk hchanged

/-! ## Runs that reserve unused identities -/

/-- The step reserves an unused identity and wraps no replica set generation. -/
def ReservesInOrder (r : Runtime) (e : Event) : Prop := MintsUnused r e ∧ NoSetWraps r e

instance ReservesInOrder.decidable (r : Runtime) (e : Event) : Decidable (ReservesInOrder r e) :=
  inferInstanceAs (Decidable (MintsUnused r e ∧ NoSetWraps r e))

theorem ordered_owned (h : Reachable Opened (Restrict Step ReservesInOrder) r) :
    WellKept r ∧ Ordered r.plane.abs ∧ Owned r.plane.abs :=
  runtime_invariant (I := fun p => Ordered p ∧ Owned p) ⟨ordered_empty, owned_empty⟩
    (fun _ _ _ hkept hstep hok hprotocol hI =>
      ⟨hprotocol.ordered (hkept.numbered hstep hok.2 hI.1.numbered) hI.1,
        hprotocol.owned (MintsUnused.mintsFresh hok.1) hI.2⟩) h

/-- An operation is not authorized again: its destination is in use. -/
theorem Protocol.Accounted.not_authorize {p : Plane} {a : Action} (h : Accounted p)
    (mints : MintsFresh a p) {op : OperationView} (hop : p.operations o = some op) :
    a ≠ .authorize o := by
  intro act
  obtain ⟨v, hv, -⟩ := (h.ledger o op hop).copy
  simp [mints o act] at hv

/-- An outrun operation stays recorded and outrun along such a run. -/
theorem outrun_runs {r' : Runtime} (h : Reachable Opened (Restrict Step ReservesInOrder) r)
    (run : Runs (Restrict Step ReservesInOrder) r r') {op : OperationView}
    (hop : r.plane.abs.operations o = some op) (houtrun : Outrun r.plane.abs op) :
    ∃ op', r'.plane.abs.operations o = some op' ∧ Outrun r'.plane.abs op' := by
  refine run.invariant_under
    (I := fun r => ∃ op', r.plane.abs.operations o = some op' ∧ Outrun r.plane.abs op')
    (J := Reachable Opened (Restrict Step ReservesInOrder)) (fun s e s' hstep hs => hs.tail hstep)
    ?_ h ⟨op, hop, houtrun⟩
  rintro s e s' hstep hs ⟨op, hop, houtrun⟩
  obtain ⟨hkept, hordered, -⟩ := ordered_owned hs
  obtain ⟨-, hprotocol⟩ := hkept.step hstep.1
  have hmints := MintsUnused.mintsFresh hstep.2.1
  have hnumbered := (ordered_owned (hs.tail hstep)).2.1.numbered
  rcases hprotocol.operations o with hsame | ⟨op', hop', -⟩
  · exact ⟨op, hsame.trans hop, hprotocol.outrun hnumbered houtrun⟩
  · refine ⟨op', hop', ?_⟩
    rcases hprotocol.operation_cases hop' with ⟨hact, -⟩ | ⟨op₀, hop₀, hview⟩
    · exact absurd hact (hordered.not_authorize hmints hop)
    · obtain rfl := some_unique hop hop₀
      rw [hview]
      exact hprotocol.outrun hnumbered houtrun

/-- What stands between a request and a later completion of an operation: the request completed no
operation authorized against the same set generation, it did not outdate the operation, and the
completing commit completes that operation only. -/
structure FencedSince (r₁ : Runtime) (m₁ : Mutation) (r₂ : Runtime) (m₂ : Mutation)
    (o : OperationId) (op : OperationRecord) : Prop where
  first : ∀ (o₁ : OperationId) (op₁ : OperationRecord), r₁.plane.operations[o₁]? = some op₁ →
    Completes r₁ m₁ o₁ → op₁.key = op.key →
    op₁.sourceReplicaSetGeneration ≠ op.sourceReplicaSetGeneration
  current : ∀ op₁, r₁.plane.operations[o]? = some op₁ → ¬ Outdates r₁ m₁ op₁.key
  only : ∀ o', Completes r₂ m₂ o' → o' = o

theorem optimistic_commit_fencing {r₁ r₂ : Runtime} {m₁ m₂ : Mutation}
    (reachable : Reachable Opened (Restrict Step ReservesInOrder) r₁)
    (allowed : ReservesInOrder r₁ (.mutation m₁))
    (run : Runs (Restrict Step ReservesInOrder) (r₁.after m₁) r₂)
    {o : OperationId} {op : OperationRecord} (hop : r₂.plane.operations[o]? = some op)
    (completes : Completes r₂ m₂ o) : FencedSince r₁ m₁ r₂ m₂ o op := by
  have hreach₁ := reachable.tail ⟨Step.mutation r₁ m₁, allowed⟩
  obtain ⟨hkept₁, hordered₁, howned₁⟩ := ordered_owned reachable
  obtain ⟨hkept₂, hordered₂, -⟩ := ordered_owned (hreach₁.runs run)
  have hnumbered := (ordered_owned hreach₁).2.1.numbered
  have hvalid := (hordered₂.tenure o op.view (abs_operations hop)).valid
  obtain ⟨hcompletable, -⟩ := completes.spec hkept₂ hordered₂.toAccounted hop
  refine ⟨?_, ?_, ?_⟩
  · intro o₁ op₁ hop₁ hcompletes₁ hkey hgeneration
    obtain ⟨-, hadvances⟩ := hcompletes₁.spec hkept₁ hordered₁.toAccounted hop₁
    have houtrun : Outrun (r₁.after m₁).plane.abs op₁.view :=
      (hordered₁.tenure o₁ _ (abs_operations hop₁)).outrun_of_advances hnumbered hadvances
    have houtrun₂ : Outrun r₂.plane.abs op₁.view :=
      run.invariant_under (I := fun r => Outrun r.plane.abs op₁.view)
        (J := Reachable Opened (Restrict Step ReservesInOrder))
        (fun _ _ _ hstep hs => hs.tail hstep)
        (fun _ _ _ hstep hs hI => ((ordered_owned hs).1.step hstep.1).2.outrun
          (ordered_owned (hs.tail hstep)).2.1.numbered hI) hreach₁ houtrun
    have hsame : Outrun r₂.plane.abs op.view := by
      obtain ⟨g, hg, hlt⟩ := houtrun₂
      refine ⟨g, ?_, ?_⟩
      · rw [show op.view.key = op₁.view.key from hkey.symm]
        exact hg
      · rw [show op.view.sourceGeneration = op₁.view.sourceGeneration from
          congrArg StrongId.value hgeneration.symm]
        exact hlt
    exact hsame.not_completable hvalid hcompletable
  · intro op₁ hop₁ houtdates
    have houtrun : Outrun (r₁.after m₁).plane.abs op₁.view :=
      (hordered₁.tenure o _ (abs_operations hop₁)).outrun_of_advances hnumbered
        (houtdates.advances hkept₁ howned₁)
    obtain ⟨op', hop', houtrun'⟩ : ∃ op', (r₁.after m₁).plane.abs.operations o = some op'
        ∧ Outrun (r₁.after m₁).plane.abs op' := by
      have hstep := hkept₁.after_step m₁
      rcases hstep.operations o with hsame | ⟨op', hop', -⟩
      · exact ⟨op₁.view, hsame.trans (abs_operations hop₁), houtrun⟩
      · refine ⟨op', hop', ?_⟩
        rcases hstep.operation_cases hop' with ⟨hact, -⟩ | ⟨op₀, hop₀, hview⟩
        · exact absurd hact (hordered₁.not_authorize (MintsUnused.mintsFresh allowed.1)
            (abs_operations hop₁))
        · obtain rfl := some_unique (abs_operations hop₁) hop₀
          rw [hview]
          exact houtrun
    obtain ⟨op₂, hop₂, houtrun₂⟩ := outrun_runs hreach₁ run hop' houtrun'
    obtain rfl := some_unique hop₂ (abs_operations hop)
    exact houtrun₂.not_completable hvalid hcompletable
  · intro o' hcompletes'
    obtain ⟨⟨commit, hm, hid⟩, -⟩ := completes.step hkept₂
    obtain ⟨⟨commit', hm', hid'⟩, -⟩ := hcompletes'.step hkept₂
    rw [hm] at hm'
    rw [← hid', ← hid, Mutation.commitOperation.inj hm']

/-- A current generation with one copy, and an operation that replicates it to a second
cluster. -/
def Scenario.replicating : List Mutation :=
  [cluster 1, cluster 2, state 1 1 .immutable, stateCommit 1 1 5] ++ copy 20 1 1 1 7 false
    ++ [replication 1 1 2]

/-- The operation completes once its copy was received and verified. -/
theorem optimistic_commit_fencing_of_replicating :
    ∃ op, ((reach replicating).after (completion 28)).afterAll [verification 28]
        |>.plane.operations[(⟨24⟩ : OperationId)]? = some op
      ∧ FencedSince (reach replicating) (completion 28)
        (((reach replicating).after (completion 28)).afterAll [verification 28])
        (operationCommit 24 9) ⟨24⟩ op := by
  have hcompletes : Completes
      (((reach replicating).after (completion 28)).afterAll [verification 28])
      (operationCommit 24 9) ⟨24⟩ :=
    completes_of_states (by decide +kernel) (by decide +kernel)
  obtain ⟨op, -, hop, -⟩ := hcompletes.2
  exact ⟨op, hop, optimistic_commit_fencing (reachable_of_complies (by decide +kernel))
    (by decide +kernel) (Runtime.runs_afterAll_of_complies (by decide +kernel)) hop hcompletes⟩

/-- Three states; the copy 35 owns the first.  The last commit carries the last commit identity,
so the identity counter wraps and the operation on the second state is given the copy 35. -/
def Scenario.colliding : List Mutation :=
  [cluster 1, cluster 2, state 1 1 .singleWriter, state 2 1 .immutable, stateCommit 2 1 5,
      state 3 1 .singleWriter]
    ++ copy 35 1 1 1 7 true ++ [replica 36 1 1 1, completion 36, verification 36]
    ++ copy 40 2 1 1 8 false ++ copy 30 3 1 1 18446744073709551615 true ++ [replication 2 1 2]

/-- A handoff of the first state changes the copy 35 of the second without moving its set on, and
the operation completes afterwards. -/
theorem completes_after_handoff_of_colliding :
    ∃ r₁ m₁ r₂ m₂, ∃ (o : OperationId) (op₁ : OperationRecord), ReachableRuntime r₁
      ∧ r₁.plane.operations[o]? = some op₁ ∧ Outdates r₁ m₁ op₁.key
      ∧ Runs (Restrict Step fun r e => ¬ Authorizes r e o) (r₁.after m₁) r₂
      ∧ Completes r₂ m₂ o := by
  have hop : (reach colliding).plane.operations[(⟨31⟩ : OperationId)]?.map (·.key)
      = some ⟨⟨2⟩, ⟨1⟩⟩ := by decide +kernel
  obtain ⟨op₁, hop₁, hkey⟩ := Option.map_eq_some_iff.mp hop
  have hbefore : (reach colliding).plane.replicas[(⟨35⟩ : ReplicaId)]?.map
      (fun v => (v.key, v.authority)) = some (⟨⟨2⟩, ⟨1⟩⟩, .candidate) := by decide +kernel
  obtain ⟨replica, hreplica, hfields⟩ := Option.map_eq_some_iff.mp hbefore
  have hafter : ((reach colliding).after (Scenario.handoff 1 1 35 36 1 9)).plane.replicas[
      (⟨35⟩ : ReplicaId)]?.map (·.authority) = some .authoritativeForReuse := by decide +kernel
  have hcompletes : Completes (((reach colliding).after (Scenario.handoff 1 1 35 36 1 9)).afterAll
      [completion 35, verification 35]) (operationCommit 31 10) ⟨31⟩ :=
    completes_of_states (by decide +kernel) (by decide +kernel)
  refine ⟨_, _, _, _, ⟨31⟩, op₁, reachable colliding, hop₁, .inr ⟨rfl, ⟨35⟩, replica, hreplica,
    (Prod.mk.inj hfields).1.trans hkey.symm, fun hsame => ?_⟩,
    Runtime.runs_afterAll_of_complies (by decide +kernel), hcompletes⟩
  rw [hsame, Option.map_some, (Prod.mk.inj hfields).2] at hafter
  cases hafter

/-! ## Restarts -/

/-- What every run that lasts keeps about operations. -/
theorem accounted_of_lasting {ok : Runtime → Event → Prop}
    (h : Reachable Opened (LastingStep ok) r) : WellKept r ∧ Accounted r.plane.abs :=
  lasting_invariant accounted_empty (fun _ _ _ _ _ _ hprotocol hI => hprotocol.accounted hI) h

theorem ReachableRuntime.accounted (h : ReachableRuntime r) : WellKept r ∧ Accounted r.plane.abs :=
  accounted_of_lasting h.lasting

/-- The step wraps no replica set generation and does not authorize an operation under the identity. -/
def SparesIdentity (o : OperationId) (r : Runtime) (e : Event) : Prop :=
  NoSetWraps r e ∧ ¬ Authorizes r e o

instance SparesIdentity.decidable (o : OperationId) (r : Runtime) (e : Event) :
    Decidable (SparesIdentity o r e) :=
  inferInstanceAs (Decidable (NoSetWraps r e ∧ ¬ Authorizes r e o))

/-- An operation whose copy was received before a restart. -/
def Scenario.received : List Mutation := replicating ++ [completion 28]

/-- The replica a request puts into authority. -/
def Mutation.promoted : Mutation → Option ReplicaId
  | .commitReplica commit => some commit.replicaId
  | .revalidateReplica transition => some transition.replicaId
  | .transferOwnership request => some request.newOwnerReplica
  | _ => none

/-- The request puts no replica of a HISTORICAL generation into authority. -/
def sparesHistorical (r : Runtime) (m : Mutation) : Bool :=
  ((m.promoted.bind fun k => r.plane.replicas[k]?).bind fun replica =>
    r.plane.states[replica.key]?).all (·.lifecycle != .historical)

theorem promoted_of_act {k : ReplicaId} {K : StateKey}
    (act : m.act r = .commitReplica k ∨ m.act r = .revalidate k ∨ m.act r = .handoff K k) :
    m.promoted = some k := by
  cases m <;> simp_all [Mutation.act, Mutation.promoted]

/-- The step puts no replica of a HISTORICAL generation into authority and wraps no replica set
generation. -/
def SparesSuperseded (r : Runtime) (e : Event) : Prop :=
  OnEffect sparesHistorical r e ∧ NoSetWraps r e

instance SparesSuperseded.decidable (r : Runtime) (e : Event) : Decidable (SparesSuperseded r e) :=
  inferInstanceAs (Decidable (OnEffect sparesHistorical r e ∧ NoSetWraps r e))

theorem superseded_step {r' : Runtime} {e : Event} (hstep : Step r e r')
    (meets : OnEffect sparesHistorical r e) (numbered : Numbered r'.plane.abs)
    (ordered : Ordered r.plane.abs)
    (protocol : Protocol.Step (e.action r) r.plane.abs r'.plane.abs) (hs : Superseded r.plane.abs) :
    Superseded r'.plane.abs := by
  rcases hstep.effect_cases meets with ⟨m, out, rfl, -, hexec, -, hspares⟩ | hsame | ⟨config, rfl⟩
  · refine protocol.superseded numbered ordered hs fun k v s hact hv hs historical => ?_
    rw [hexec.action_eq] at hact
    obtain ⟨replica, hreplica, rfl⟩ := Option.map_eq_some_iff.mp hv
    obtain ⟨state, hstate, rfl⟩ := Option.map_eq_some_iff.mp hs
    rw [sparesHistorical, promoted_of_act hact, Option.bind_some, hreplica, Option.bind_some,
      show r.plane.states[replica.key]? = some state from hstate] at hspares
    have hspared : state.lifecycle ≠ .historical := by simpa using hspares
    exact hspared historical
  · rw [abs_eq_of_records hsame]
    exact hs
  · exact protocol.superseded numbered ordered hs fun k v s hact => by simp [Event.action] at hact

/-- In a run that puts no replica of a HISTORICAL generation into authority, none counts. -/
theorem supersession_effective {r : Runtime}
    (h : Reachable Opened (Restrict Step SparesSuperseded) r) {k : ReplicaId}
    {replica : ReplicaRecord} {s : StateGenerationRecord}
    (recorded : r.plane.replicas[k]? = some replica)
    (generation : r.plane.states[replica.key]? = some s) (historical : s.lifecycle = .historical) :
    replicaCountsTowardReplicationFactor replica = false := by
  obtain ⟨-, -, hsuperseded⟩ : WellKept r ∧ Ordered r.plane.abs ∧ Superseded r.plane.abs := by
    refine runtime_invariant (I := fun p => Ordered p ∧ Superseded p)
      ⟨ordered_empty, fun K s hs => by cases hs⟩ (fun r e r' hkept hstep hok hprotocol hI => ?_) h
    have hnumbered := hkept.numbered hstep hok.2 hI.1.numbered
    exact ⟨hprotocol.ordered hnumbered hI.1,
      superseded_step hstep hok.1 hnumbered hI.1 hprotocol hI.2⟩
  have hnot := (hsuperseded replica.key s.view (abs_states generation) historical).1 k replica.view
    (abs_replicas recorded) rfl
  rwa [← counting_iff, Bool.not_eq_true] at hnot

/-- Two generations, each with a copy; the commit of the second supersedes the first. -/
def Scenario.superseding : List Mutation :=
  [cluster 1, state 1 1 .immutable, stateCommit 1 1 5] ++ copy 20 1 1 1 7 false
    ++ [replica 21 1 1 1, completion 21, verification 21, state 1 2 .immutable, stateCommit 1 2 6]

theorem supersession_effective_of_superseding :
    ∃ replica s, (reach superseding).plane.replicas[(⟨20⟩ : ReplicaId)]? = some replica
      ∧ (reach superseding).plane.states[replica.key]? = some s ∧ s.lifecycle = .historical
      ∧ replicaCountsTowardReplicationFactor replica = false := by
  have hhistorical : ((reach superseding).plane.replicas[(⟨20⟩ : ReplicaId)]?.any fun replica =>
      (reach superseding).plane.states[replica.key]?.any (·.lifecycle == .historical)) = true := by
    decide +kernel
  obtain ⟨replica, hreplica, hstate⟩ := (Option.any_eq_true _ _).mp hhistorical
  obtain ⟨s, hs, hlifecycle⟩ := (Option.any_eq_true _ _).mp hstate
  have hlifecycle : s.lifecycle = .historical := by simpa using hlifecycle
  exact ⟨replica, s, hreplica, hs, hlifecycle,
    supersession_effective (reachable_of_complies (by decide +kernel)) hreplica hs hlifecycle⟩

/-- A copy of the superseded generation that was verified in time is committed after all, and
counts. -/
theorem historical_copy_counts_of_superseding :
    ReachableRuntime (reach (superseding ++ [commit 21 8 false]))
      ∧ ((reach (superseding ++ [commit 21 8 false])).plane.replicas[(⟨21⟩ : ReplicaId)]?.any
        fun replica => replicaCountsTowardReplicationFactor replica
          && (reach (superseding ++ [commit 21 8 false])).plane.states[replica.key]?.any
            (·.lifecycle == .historical)) = true :=
  ⟨reachable _, by decide +kernel⟩

end StateFabric
