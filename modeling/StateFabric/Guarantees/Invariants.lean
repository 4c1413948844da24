import StateFabric.Guarantees.Scenario
import StateFabric.Refinement.Faults

/-!
# Invariants of every reachable plane

Three invariants read back in the terms of the records: on every lineage at most one generation
that is not a branch is CURRENT, a copy counts toward the replication factor only under a live
incarnation of its cluster, and the structural checks of a load always pass.
-/

namespace StateFabric

open Protocol Transition ControlPlane Scenario

/-- An invariant of the protocol holds in every runtime that a run that lasts reaches, which is well
kept. -/
theorem LastingRuntime.invariant {I : Plane → Prop} {r : Runtime} (h : LastingRuntime r)
    (start : I Plane.empty)
    (keep : ∀ {a p p'}, Protocol.Step a p p' → I p → I p') : WellKept r ∧ I r.plane.abs :=
  lasting_invariant start (fun _ _ _ _ _ _ hstep hI => keep hstep hI) h

/-- An invariant of the protocol holds in every reachable runtime, which is well kept. -/
theorem ReachableRuntime.invariant {I : Plane → Prop} {r : Runtime} (h : ReachableRuntime r)
    (start : I Plane.empty)
    (keep : ∀ {a p p'}, Protocol.Step a p p' → I p → I p') : WellKept r ∧ I r.plane.abs :=
  h.lasting.invariant start keep

theorem ReachableRuntime.wellKept {r : Runtime} (h : ReachableRuntime r) : WellKept r :=
  wellKept_of_lasting h.lasting

/-! ## One current trunk -/

/-- For every state identity and lineage, at most one generation that is not a branch is
CURRENT. -/
def OneCurrentTrunk (p : ControlPlane) : Prop :=
  ∀ (K K' : StateKey) (s s' : StateGenerationRecord),
    p.states[K]? = some s → p.states[K']? = some s' →
    s.stateId = s'.stateId → s.lineage = s'.lineage → s.branch = false → s'.branch = false →
    s.lifecycle = .current → s'.lifecycle = .current → K = K'

theorem one_current_trunk {r : Runtime} (h : ReachableRuntime r) : OneCurrentTrunk r.plane := by
  obtain ⟨hkept, htrunk⟩ : WellKept r ∧ Trunk r.plane.abs :=
    h.invariant (fun K K' s s' hs => by simp [Plane.empty] at hs) fun hstep => hstep.trunk
  intro K K' s s' hs hs' hid hlineage hb hb' hc hc'
  have hkeys : K.stateId = K'.stateId := by
    rw [← hkept.coherent.states hs, ← hkept.coherent.states hs']
    exact hid
  exact htrunk K K' s.view s'.view (abs_states hs) (abs_states hs') hkeys hlineage hb hb' hc hc'

/-- Two trunk generations of one state, committed one after the other. -/
def Scenario.twoGenerations : List Mutation :=
  [state 1 1 .immutable, stateCommit 1 1 7, state 1 2 .immutable, stateCommit 1 2 8]

theorem one_current_trunk_of_two_generations :
    OneCurrentTrunk (reach twoGenerations).plane
      ∧ (reach twoGenerations).plane.states[(⟨⟨1⟩, ⟨2⟩⟩ : StateKey)]?.map (·.lifecycle)
        = some .current :=
  ⟨one_current_trunk (reachable _), by decide +kernel⟩

/-! ## No counting behind a fence -/

/-- The hosting cluster of a replica is registered, live, and at the incarnation the replica was
written under. -/
def HostedLive (p : ControlPlane) (replica : ReplicaRecord) : Prop :=
  ∃ cluster, p.clusters[replica.location.clusterId]? = some cluster
    ∧ cluster.liveAuthority = true
    ∧ cluster.incarnation = replica.location.clusterIncarnation

theorem no_counting_behind_a_fence {r : Runtime} (h : ReachableRuntime r) {k : ReplicaId}
    {replica : ReplicaRecord} (recorded : r.plane.replicas[k]? = some replica)
    (counting : replicaCountsTowardReplicationFactor replica = true) :
    HostedLive r.plane replica := by
  obtain ⟨-, hhosting⟩ : WellKept r ∧ Hosting r.plane.abs :=
    h.invariant (fun k v hv => by simp [Plane.empty] at hv) fun hstep => hstep.hosting
  obtain ⟨c, hc, hlive, hincarnation⟩ :=
    hhosting k replica.view (abs_replicas recorded) ((counting_iff replica).mp counting)
  obtain ⟨cluster, hcluster, rfl⟩ := Option.map_eq_some_iff.mp hc
  exact ⟨cluster, hcluster, hlive, hincarnation⟩

/-- One copy of an immutable generation, committed. -/
def Scenario.oneCopy : List Mutation :=
  cluster 1 :: state 1 1 .immutable :: copy 20 1 1 1 7 false

theorem no_counting_behind_a_fence_of_one_copy :
    ∃ replica, (reach oneCopy).plane.replicas[(⟨20⟩ : ReplicaId)]? = some replica
      ∧ replicaCountsTowardReplicationFactor replica = true
      ∧ HostedLive (reach oneCopy).plane replica := by
  have hcounts : (reach oneCopy).plane.replicas[(⟨20⟩ : ReplicaId)]?.any
      replicaCountsTowardReplicationFactor = true := by decide +kernel
  obtain ⟨replica, hreplica, hcounting⟩ := (Option.any_eq_true _ _).mp hcounts
  exact ⟨replica, hreplica, hcounting,
    no_counting_behind_a_fence (reachable _) hreplica hcounting⟩

/-! ## Structural validity -/

/-- A plane that a run that lasts reaches is one that a run of the protocol reaches. -/
theorem LastingRuntime.protocol {r : Runtime} (h : LastingRuntime r) :
    Reachable (· = Plane.empty) (fun p a p' => Protocol.Step a p p') r.plane.abs := by
  obtain ⟨-, hreachable⟩ := h.invariant
    (I := Reachable (· = Plane.empty) fun p a p' => Protocol.Step a p p')
    (.of_init rfl) fun hstep hp => hp.tail hstep
  exact hreachable

end StateFabric
