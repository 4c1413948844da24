import StateFabric.Guarantees.Authorization
import StateFabric.Guarantees.Content
import StateFabric.Guarantees.Membership

/-!
# Ceilings

The counting copies of a generation stay within the ceiling of the default replication policy when
every operation commit, revalidation and handoff that brings in a copy leaves room for it
(`replica_ceiling`).  Only `commit_replica` looks at that ceiling by itself.
-/

namespace StateFabric

open Protocol Transition ControlPlane OrderedMap Scenario

variable {r r' : Runtime} {m : Mutation} {e : Event} {K : StateKey} {k : ReplicaId}
  {p : ControlPlane} {c : ClusterId} {plan : TransferPlan} {ceiling : UInt32}
  {policy : ReplicationPolicyRecord} {out : Outcome Response} {t : TransferRequest}

/-! ## Counting copies -/

/-- The identities of the counting copies of a generation. -/
def ControlPlane.countedCopies (p : ControlPlane) (K : StateKey) : Finset ReplicaId :=
  (((p.replicasOfState K).filter replicaCountsTowardReplicationFactor).map
    (·.replicaId)).toFinset

theorem live_of_counts {replica : ReplicaRecord}
    (counts : replicaCountsTowardReplicationFactor replica = true) :
    replica.isTerminal = false := by
  obtain ⟨-, -, -, -, hlifecycle | hlifecycle⟩ := (counting_iff replica).mp counts
  · have hphase : replica.lifecycle = .authoritative := hlifecycle
    simp [ReplicaRecord.isTerminal, hphase]
  · have hphase : replica.lifecycle = .degraded := hlifecycle
    simp [ReplicaRecord.isTerminal, hphase]

namespace Coherent

variable {p : ControlPlane}

theorem mem_countedCopies (h : Coherent p) : k ∈ p.countedCopies K ↔ p.CountsFor K k := by
  simp only [countedCopies, List.mem_toFinset, List.mem_map, List.mem_filter]
  constructor
  · rintro ⟨replica, ⟨hmem, hcounts⟩, rfl⟩
    obtain ⟨hreplica, hkey⟩ := h.mem_replicasOfState.mp hmem
    exact ⟨replica, hreplica, hkey, hcounts⟩
  · rintro ⟨replica, hreplica, hkey, hcounts⟩
    have hid : replica.replicaId = k := (h.replicas hreplica).1
    exact ⟨replica, ⟨h.mem_replicasOfState.mpr ⟨hid.symm ▸ hreplica, hkey⟩, hcounts⟩, hid⟩

theorem nodup_replicaList (h : Coherent p) : (p.replicaList.map (·.replicaId)).Nodup := by
  have hkeys : p.replicaList.map (·.replicaId) = p.replicas.toList.map Prod.fst := by
    rw [replicaList, List.map_map]
    refine List.map_congr_left fun e he => ?_
    exact (h.replicas (OrderedMap.mem_toList_iff.mp he)).1
  rw [hkeys]
  exact OrderedMap.nodup_keys_toList p.replicas

theorem rebuild_authoritativeCount (h : Coherent p) (set : ReplicaSetRecord) :
    (p.rebuildReplicaSet set).authoritativeCount
      = UInt32.ofNat (p.countedCopies set.key).card := by
  have hcount : (p.rebuildReplicaSet set).authoritativeCount
      = UInt32.ofNat ((p.rebuildReplicaSet set).authoritativeMembers.filter
        (·.authoritative)).length := by
    simp only [rebuildReplicaSet, recomputeReplicaSet]
    split <;> rfl
  have hmembers : (p.rebuildReplicaSet set).authoritativeMembers
      = (((p.replicasOfState set.key).filter (!·.isTerminal)).filter
        replicaCountsTowardReplicationFactor).map makeMember := by
    simp only [rebuildReplicaSet, recomputeReplicaSet]
    split <;> rfl
  -- A copy that counts is live, and its member entry is authoritative.
  have hlive : ((p.replicasOfState set.key).filter (!·.isTerminal)).filter
      replicaCountsTowardReplicationFactor
        = (p.replicasOfState set.key).filter replicaCountsTowardReplicationFactor := by
    rw [List.filter_filter]
    refine List.filter_congr fun replica _ => ?_
    cases hcounts : replicaCountsTowardReplicationFactor replica with
    | false => rfl
    | true => simp [live_of_counts hcounts]
  have hauthoritative : (((p.replicasOfState set.key).filter
      replicaCountsTowardReplicationFactor).map makeMember).filter (·.authoritative)
        = ((p.replicasOfState set.key).filter replicaCountsTowardReplicationFactor).map
          makeMember := by
    refine List.filter_eq_self.mpr fun member hmember => ?_
    obtain ⟨replica, hreplica, rfl⟩ := List.mem_map.mp hmember
    exact (List.mem_filter.mp hreplica).2
  have hnodup : (((p.replicasOfState set.key).filter
      replicaCountsTowardReplicationFactor).map (·.replicaId)).Nodup := by
    refine List.Nodup.sublist ?_ h.nodup_replicaList
    exact (List.filter_sublist.trans List.filter_sublist).map _
  rw [hcount, hmembers, hlive, hauthoritative, countedCopies, List.toFinset_card_of_nodup hnodup,
    List.length_map, List.length_map]

end Coherent

/-- A copy that counts after a protocol step counted before it, or the step established it. -/
theorem Protocol.Step.member_cases {a : Action} {p p' : Plane} (h : Protocol.Step a p p')
    (member : p'.Member K k) :
    p.Member K k ∨ ∃ v, p.replicas k = some v ∧ v.key = K ∧ a.Establishes p K k := by
  obtain ⟨v', hv', hkey, hcounting⟩ := member
  rcases h.replicas k with hk | ⟨w, hw, hmove⟩
  · exact .inl ⟨v', hk ▸ hv', hkey, hcounting⟩
  · obtain rfl : w = v' := some_unique hw hv'
    obtain ⟨v, hv, hvkey, hcase⟩ := hmove.counting_cases hcounting
    have hK : v.key = K := hvkey.trans hkey
    rcases hcase with ⟨hcounted, -⟩ | ⟨-, hestablishes, -⟩
    · exact .inl ⟨v, hv, hK, hcounted⟩
    · exact .inr ⟨v, hv, hK, hK ▸ hestablishes⟩

theorem establishes_of_act (h : (m.act r).Establishes r.plane.abs K k) :
    m.establishes r.plane = some k := by
  cases m with
  | commitReplica | revalidateReplica =>
    simpa [Action.Establishes, Mutation.act, Mutation.establishes] using h
  | transferOwnership request =>
    have hhandoff : (⟨request.stateId, request.stateGeneration⟩ : StateKey) = K
        ∧ request.newOwnerReplica = k := by
      simpa [Action.Establishes, Mutation.act] using h
    rw [Mutation.establishes, hhandoff.2]
  | commitOperation commit =>
    obtain ⟨op, hcompletable, hdestination⟩ : ∃ op,
        r.plane.abs.Completable commit.operationId op ∧ op.destination = k := by
      simpa [Action.Establishes, Mutation.act] using h
    obtain ⟨record, hrecord, rfl⟩ := Option.map_eq_some_iff.mp hcompletable.recorded
    rw [Mutation.establishes, hrecord, ← hdestination]
    rfl
  | _ => simp [Action.Establishes, Mutation.act] at h

/-! ## The ceiling -/

/-- The request brings no counting copy into a generation that has as many as the ceiling
allows.  A replica commit checks that by itself. -/
def leavesRoom (ceiling : UInt32) (r : Runtime) (m : Mutation) : Bool :=
  match m with
  | .commitReplica _ => true
  | m => (m.establishes r.plane).all fun k => r.plane.replicas[k]?.all fun replica =>
      replicaCountsTowardReplicationFactor replica
        || decide ((r.plane.countedCopies replica.key).card < ceiling.toNat)

/-- The step is taken under one default replication policy and leaves room below its ceiling. -/
def UnderPolicy (policy : ReplicationPolicyRecord) (r : Runtime) (e : Event) : Prop :=
  r.config.defaultReplicationPolicy = policy
    ∧ OnEffect (leavesRoom policy.retention.maximumReplicasPerState) r e

/-- No generation has more counting copies than a ceiling, and no set says so. -/
structure WithinCeiling (ceiling : UInt32) (p : ControlPlane) : Prop where
  copies (K : StateKey) : (p.countedCopies K).card ≤ ceiling.toNat
  sets (K : StateKey) (set : ReplicaSetRecord) : p.replicaSets[K]? = some set →
    set.authoritativeCount ≤ ceiling

theorem withinCeiling_empty (coherent : Coherent p) (h : p.abs = Plane.empty) :
    WithinCeiling ceiling p where
  copies K := by
    have hnone : p.countedCopies K = ∅ := by
      rw [Finset.eq_empty_iff_forall_notMem]
      intro k hk
      rw [coherent.mem_countedCopies, countsFor_iff, h] at hk
      obtain ⟨v, hv, -⟩ := hk
      cases hv
    simp [hnone]
  sets K set hset := by
    have hnone : p.abs.setGeneration K = none := by rw [h]; rfl
    rw [abs_setGeneration hset] at hnone
    cases hnone

theorem Coherent.toNat_rebuild (h : Coherent p)
    (copies : ∀ K, (p.countedCopies K).card ≤ ceiling.toNat) (set : ReplicaSetRecord) :
    (p.rebuildReplicaSet set).authoritativeCount.toNat = (p.countedCopies set.key).card := by
  rw [h.rebuild_authoritativeCount]
  exact UInt32.toNat_ofNat_of_lt' ((copies set.key).trans_lt ceiling.toNat_lt)

theorem Coherent.rebuild_le (h : Coherent p)
    (copies : ∀ K, (p.countedCopies K).card ≤ ceiling.toNat) (set : ReplicaSetRecord) :
    (p.rebuildReplicaSet set).authoritativeCount ≤ ceiling := by
  rw [UInt32.le_iff_toNat_le, h.toNat_rebuild copies]
  exact copies set.key

theorem Executes.room (h : Executes r m out) (effective : out.effects ≠ [])
    (coherent : Coherent r.plane)
    (within : WithinCeiling policy.retention.maximumReplicasPerState r.plane)
    (valid : policy.replicationPolicyId.valid = true)
    (default : r.config.defaultReplicationPolicy = policy)
    (room : leavesRoom policy.retention.maximumReplicasPerState r m = true)
    {replica : ReplicaRecord} (establishes : m.establishes r.plane = some k)
    (recorded : r.plane.replicas[k]? = some replica)
    (uncounted : replicaCountsTowardReplicationFactor replica = false) :
    (r.plane.countedCopies replica.key).card
      < policy.retention.maximumReplicasPerState.toNat := by
  cases m with
  | commitReplica =>
    obtain rfl := Option.some.inj establishes
    obtain ⟨inner, hinner, heffects, -⟩ := map_outcome_eq_ok h.body
    rcases commitReplica_committed hinner with ⟨hnil, -⟩ | ⟨target, plan, c⟩
    · exact absurd (heffects.trans hnil) effective
    · obtain rfl := some_unique recorded c.recorded
      obtain ⟨set, hset, hroom⟩ := c.room
      have hpolicy : maximumReplicasPerState (resolveReplicationPolicy r.plane r.config {})
          = policy.retention.maximumReplicasPerState := by
        have hinvalid : ({} : ReplicationPolicyId).valid = false := rfl
        rw [resolveReplicationPolicy, hinvalid, if_neg Bool.false_ne_true, default, if_pos valid]
        rfl
      have hkey : set.key = replica.key := (coherent.replicaSets hset).1
      have hcount := coherent.toNat_rebuild within.copies set
      rw [← hkey, ← hcount, ← hpolicy]
      exact UInt32.lt_iff_toNat_lt.mp hroom
  | _ =>
    simp only [leavesRoom, establishes, recorded, uncounted, Option.all_some, Bool.false_or,
      decide_eq_true_eq] at room
    exact room

/-- A step that leaves room keeps the counting copies below the ceiling. -/
theorem WithinCeiling.copies_step
    (h : WithinCeiling policy.retention.maximumReplicasPerState r.plane) (kept : WellKept r)
    (valid : policy.replicationPolicyId.valid = true) (hstep : Step r e r')
    (under : UnderPolicy policy r e) (K : StateKey) :
    (r'.plane.countedCopies K).card ≤ policy.retention.maximumReplicasPerState.toNat := by
  obtain ⟨kept', hprotocol⟩ := kept.step hstep
  have hnew : ∀ k, k ∈ r'.plane.countedCopies K → k ∉ r.plane.countedCopies K →
      ∃ v, r.plane.abs.replicas k = some v ∧ v.key = K
        ∧ (e.action r).Establishes r.plane.abs K k := by
    intro k hk hfresh
    rw [kept'.coherent.mem_countedCopies, countsFor_iff] at hk
    rw [kept.coherent.mem_countedCopies, countsFor_iff] at hfresh
    exact (hprotocol.member_cases hk).resolve_left hfresh
  by_cases hsubset : r'.plane.countedCopies K ⊆ r.plane.countedCopies K
  · exact (Finset.card_le_card hsubset).trans (h.copies K)
  obtain ⟨k, hk, hfresh⟩ := Finset.not_subset.mp hsubset
  obtain ⟨v, hv, hkey, hestablishes⟩ := hnew k hk hfresh
  rcases hstep.effect_cases under.2 with ⟨m, out, rfl, rfl, hexec, heffects, hroom⟩ | hsame
    | ⟨config, rfl⟩
  · rw [hexec.action_eq] at hnew hestablishes
    obtain ⟨replica, hreplica, rfl⟩ := abs_replicas_eq_some.mp hv
    obtain rfl : replica.key = K := hkey
    have hestablished := establishes_of_act hestablishes
    have huncounted : replicaCountsTowardReplicationFactor replica = false := by
      rw [kept.coherent.mem_countedCopies] at hfresh
      rw [← Bool.not_eq_true]
      exact fun hcounts => hfresh ⟨replica, hreplica, rfl, hcounts⟩
    have hbelow := hexec.room heffects kept.coherent h valid under.1 hroom hestablished hreplica
      huncounted
    -- The request establishes one copy only, so the copies grow by at most that one.
    have hone : (r.after m).plane.countedCopies replica.key
        ⊆ insert k (r.plane.countedCopies replica.key) := by
      intro other hother
      rw [Finset.mem_insert]
      by_cases hbefore : other ∈ r.plane.countedCopies replica.key
      · exact .inr hbefore
      · obtain ⟨-, -, -, hother⟩ := hnew other hother hbefore
        exact .inl (some_unique (establishes_of_act hother) hestablished)
    calc ((r.after m).plane.countedCopies replica.key).card
        ≤ (insert k (r.plane.countedCopies replica.key)).card := Finset.card_le_card hone
      _ ≤ (r.plane.countedCopies replica.key).card + 1 := Finset.card_insert_le _ _
      _ ≤ policy.retention.maximumReplicasPerState.toNat := hbelow
  · rw [kept'.coherent.mem_countedCopies, countsFor_iff, abs_eq_of_records hsame, ← countsFor_iff,
      ← kept.coherent.mem_countedCopies] at hk
    exact absurd hk hfresh
  · simp [Event.action, Action.Establishes] at hestablishes

theorem rebuildReplicaSet_congr {q : ControlPlane} (h : p.replicas = q.replicas)
    (set : ReplicaSetRecord) : p.rebuildReplicaSet set = q.rebuildReplicaSet set := by
  simp only [rebuildReplicaSet, replicasOfState, replicaList, h]

/-- A step leaves every set with a count that is zero, the one it had, the one its copies gave
before the step or the one they give after it. -/
theorem WellKept.count_cases (h : WellKept r) (covered : r.plane.abs.Covered) (hstep : Step r e r')
    {set' : ReplicaSetRecord} (hset' : r'.plane.replicaSets[K]? = some set') :
    set'.authoritativeCount = 0
      ∨ (∃ set, r.plane.replicaSets[K]? = some set
        ∧ (set'.authoritativeCount = set.authoritativeCount
          ∨ set'.authoritativeCount = (r.plane.rebuildReplicaSet set).authoritativeCount))
      ∨ ∃ set, set'.authoritativeCount = (r'.plane.rebuildReplicaSet set).authoritativeCount := by
  rcases h.records_cases hstep with hsame | ⟨m, out, rfl, rfl, hexec⟩
    | ⟨config, loaded, -, -, -, hrecords⟩
  · exact .inr (.inl ⟨set', replicaSets_eq_of_records hsame ▸ hset', .inl rfl⟩)
  · rw [replicaSets_eq_of_records hexec.records_eq] at hset'
    rcases r.plane.replicaSets_applyAll_cases out.effects K with hold | ⟨w, ⟨hmem, rfl⟩, hput⟩
    · exact .inr (.inl ⟨set', hold ▸ hset', .inl rfl⟩)
    · obtain rfl : w = set' := some_unique hput hset'
      rcases (hexec.puts h.coherent _ hmem).conserves_set h.coherent covered with
        ⟨set, hset, -, hcount⟩ | ⟨-, hzero⟩
      · exact .inr (.inl ⟨set, hset, hcount⟩)
      · exact .inl hzero
  · rw [replicaSets_eq_of_records hrecords, getElem?_recover_replicaSets] at hset'
    obtain ⟨set, -, rfl⟩ := Option.map_eq_some_iff.mp hset'
    refine .inr (.inr ⟨_, congrArg _ (rebuildReplicaSet_congr ?_ _)⟩)
    rw [replicas_eq_of_records hrecords, recover_replicas_eq]

theorem WithinCeiling.step (h : WithinCeiling policy.retention.maximumReplicasPerState r.plane)
    (kept : WellKept r) (covered : r.plane.abs.Covered)
    (valid : policy.replicationPolicyId.valid = true) (hstep : Step r e r')
    (under : UnderPolicy policy r e) :
    WithinCeiling policy.retention.maximumReplicasPerState r'.plane := by
  have hcopies := h.copies_step kept valid hstep under
  have hcoherent := (kept.step hstep).1.coherent
  refine ⟨hcopies, fun K set' hset' => ?_⟩
  rcases kept.count_cases covered hstep hset' with hzero | ⟨set, hset, hcount | hcount⟩
    | ⟨set, hcount⟩
  · rw [hzero, UInt32.le_iff_toNat_le]
    exact Nat.zero_le _
  · rw [hcount]
    exact h.sets K set hset
  · rw [hcount]
    exact kept.coherent.rebuild_le h.copies set
  · rw [hcount]
    exact hcoherent.rebuild_le hcopies set

/-- Replica ceiling: under one valid default policy, when no operation commit, revalidation or
handoff brings a copy into a full generation, every replica set counts at most as many
authoritative members as the policy allows, as stored and as its copies give it. -/
theorem replica_ceiling {policy : ReplicationPolicyRecord}
    (valid : policy.replicationPolicyId.valid = true) {r : Runtime}
    (h : Reachable Opened (Restrict Step (UnderPolicy policy)) r) :
    ∀ (K : StateKey) (set : ReplicaSetRecord), r.plane.replicaSets[K]? = some set →
      set.authoritativeCount ≤ policy.retention.maximumReplicasPerState
        ∧ (r.plane.rebuildReplicaSet set).authoritativeCount
          ≤ policy.retention.maximumReplicasPerState := by
  obtain ⟨hkept, -, hwithin⟩ := records_invariant
    (I := WithinCeiling policy.retention.maximumReplicasPerState)
    (fun p hcoherent hempty => withinCeiling_empty hcoherent hempty)
    (fun r e r' hkept hcovered hstep hunder hwithin =>
      hwithin.step hkept hcovered valid hstep hunder) h
  exact fun K set hset => ⟨hwithin.sets K set hset, hkept.coherent.rebuild_le hwithin.copies set⟩

instance (policy : ReplicationPolicyRecord) (r : Runtime) (e : Event) :
    Decidable (UnderPolicy policy r e) := by
  unfold UnderPolicy
  infer_instance

/-- A configuration whose default policy allows one copy. -/
def Scenario.sparing : FabricConfig :=
  { config with
    defaultReplicationPolicy :=
      { replicationPolicyId := ⟨1⟩, retention := { maximumReplicasPerState := 1 } } }

theorem Scenario.sparing_opens : (openFabric sparing {}).isOk = true := by decide +kernel

theorem replica_ceiling_of_sourced :
    Reachable Opened (Restrict Step (UnderPolicy sparing.defaultReplicationPolicy))
        ((Runtime.start sparing).afterAll sourced)
      ∧ ∀ (K : StateKey) (set : ReplicaSetRecord),
        ((Runtime.start sparing).afterAll sourced).plane.replicaSets[K]? = some set →
          set.authoritativeCount ≤ 1 := by
  have hreachable : Reachable Opened (Restrict Step (UnderPolicy sparing.defaultReplicationPolicy))
      ((Runtime.start sparing).afterAll sourced) :=
    ⟨_, opened_start sparing_opens, Runtime.runs_afterAll_of_complies (by decide +kernel)⟩
  exact ⟨hreachable, fun K set hset => (replica_ceiling (by decide) hreachable K set hset).1⟩

/-- The generation is replicated into the second cluster under the default policy, and a third copy
is registered there. -/
def Scenario.overCeiling : List Mutation :=
  sourced ++ [replicationUnder 0, completion 28, verification 28, operationCommit 24 8,
    replica 40 1 1 2]

/-- Under a default policy that allows one copy, and with no policy published, the set of the
generation counts two. -/
theorem ceiling_exceeded_of_overCeiling :
    Opened (Runtime.start sparing)
      ∧ Transition.Runs Step (.start sparing) ((Runtime.start sparing).afterAll overCeiling)
      ∧ sparing.defaultReplicationPolicy.replicationPolicyId.valid = true
      ∧ sparing.defaultReplicationPolicy.retention.maximumReplicasPerState = 1
      ∧ ((Runtime.start sparing).afterAll overCeiling).plane.replicationPolicies.isEmpty = true
      ∧ ((Runtime.start sparing).afterAll overCeiling).plane.replicaSets[
        (⟨⟨1⟩, ⟨1⟩⟩ : StateKey)]?.map (·.authoritativeCount) = some 2 :=
  ⟨opened_start sparing_opens, Runtime.runs_afterAll _ _, by decide, by decide, by decide +kernel,
    by decide +kernel⟩

theorem Step.eq_after (h : Step r (.mutation m) r') : r' = r.after m := by
  cases h
  rfl

end StateFabric
