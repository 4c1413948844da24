import StateFabric.Coordinator.Agent
import StateFabric.Guarantees.Operations

/-!
# What an agent's frames can do

A report of an agent writes the one record it names: EVIDENCE the cluster in its payload, a
transfer or verification report the replica in its payload.  Neither is compared with the cluster
the session is registered for, and the coordinator epoch in the header of a frame is compared with
nothing.  So a session reaches the records of other clusters, and a report of an old epoch is
refused only when the fabric has another reason to.

Payloads of every type but EVIDENCE come through the wire as they were sent.
-/

namespace StateFabric

open Protocol Transition ControlPlane OrderedMap Scenario

variable {session : Session} {epoch : CoordinatorEpoch} {replyType : MessageType} {accepted : Text}
  {update : ClusterEvidenceUpdate} {α : Type} {v : EvidencePayload}

variable {r : Runtime} {m : Mutation} {out : Outcome Response} {k : ReplicaId} {o : OperationId}

/-! ## What a frame asks for -/

/-- What an agent's frame can ask for: a full evidence update or a report about a replica. -/
def Mutation.FromAgent (m : Mutation) : Prop :=
  (∃ update, m = .publishClusterEvidence update ∧ update.hasCapabilities = true
    ∧ update.hasCapacity = true) ∨ ∃ k o, m.report = some (k, o)

theorem Mutation.FromAgent.fromAgent (h : m.FromAgent) : m.fromAgent = true := by
  rcases h with ⟨update, rfl, -⟩ | ⟨k, o, hreport⟩
  · rfl
  · exact Mutation.fromAgent_of_report hreport

/-- A request an agent's frame asks for is an evidence update or a report about a replica. -/
theorem Session.fromAgent_of_request {frame : Frame} (h : session.request epoch frame = some m) :
    m.FromAgent := by
  have hunderstood : ∀ {α : Type} {payload : Option α} {what : String} {action : α → AgentAction}
      {replyType : MessageType} {accepted : Text},
      understood payload what action = .ok (.request m replyType accepted) →
        ∃ value, action value = .request m replyType accepted := by
    intro α payload what action replyType accepted hu
    cases payload with
    | none => cases hu
    | some value => exact ⟨value, Except.ok.inj hu⟩
  obtain ⟨replyType, accepted, h⟩ : ∃ replyType accepted,
      session.understand epoch frame = .ok (.request m replyType accepted) := by
    unfold request at h
    split at h
    · rename_i hunderstand
      obtain rfl := Option.some.inj h
      exact ⟨_, _, hunderstand⟩
    · cases h
  unfold understand at h
  split at h
  · obtain ⟨evidence, hrequest⟩ := hunderstood h
    obtain ⟨rfl, -, -⟩ := AgentAction.request.inj hrequest
    exact .inl ⟨_, rfl, rfl, rfl⟩
  · obtain ⟨report, hrequest⟩ := hunderstood h
    obtain ⟨rfl, -, -⟩ := AgentAction.request.inj hrequest
    exact .inr ⟨_, _, rfl⟩
  · obtain ⟨report, hrequest⟩ := hunderstood h
    split at hrequest
    · obtain ⟨rfl, -, -⟩ := AgentAction.request.inj hrequest
      exact .inr ⟨_, _, rfl⟩
    · obtain ⟨rfl, -, -⟩ := AgentAction.request.inj hrequest
      exact .inr ⟨_, _, rfl⟩
  · obtain ⟨report, hrequest⟩ := hunderstood h
    obtain ⟨rfl, -, -⟩ := AgentAction.request.inj hrequest
    exact .inr ⟨_, _, rfl⟩
  all_goals cases h

theorem Executes.reportBatch (h : Executes r m out) (coherent : Coherent r.plane)
    (report : m.report = some (k, o)) :
    ∃ replica revised ops, Reported r.plane k replica ∧ revised.replicaId = k
      ∧ revised.updatedAt = r.plane.logicalTime + 1
      ∧ ReplicaBatch r.inputs revised false ops out.effects := by
  obtain ⟨replica, revised, hreplica, hwritten, -⟩ := h.written coherent report
  obtain ⟨moved, hadvancement, -⟩ := Runtime.advancement_spec coherent report
  exact ⟨replica, revised, moved.toList, hreplica, hwritten.id.trans hreplica.id,
    hwritten.stamped, hwritten.batch hadvancement⟩

theorem Executes.evidenceWritten (h : Executes r (.publishClusterEvidence update) out)
    (coherent : Coherent r.plane) (full : update.hasCapabilities = true)
    (measured : update.hasCapacity = true) :
    ∃ record, .putCluster record ∈ out.effects
      ∧ (∀ w, .putCluster w ∈ out.effects → w = record) ∧ (∀ w, .putReplica w ∉ out.effects)
      ∧ record.clusterId = update.clusterId ∧ record.updatedAt = r.plane.logicalTime + 1
      ∧ record.capabilities = update.capabilities.canonicalize
      ∧ record.capacity = update.capacity := by
  obtain ⟨inner, hinner, heffects, -⟩ := map_outcome_eq_ok h.body
  obtain ⟨existing, record, hexisting, -, batch, hcapabilities, hcapacity, hid, -⟩ :=
    publishClusterEvidence_batch hinner
  rw [if_pos full] at hcapabilities
  rw [if_pos measured] at hcapacity
  rw [← heffects] at batch
  refine ⟨record, batch.mem_putCluster, fun _ => batch.eq_of_mem_putCluster, fun w hw => ?_,
    hid.trans (coherent.clusters hexisting),
    publishClusterEvidence_stamped hinner (heffects ▸ batch.mem_putCluster), hcapabilities,
    hcapacity⟩
  obtain ⟨copy, hcopy, -⟩ := batch.exists_of_mem_putReplica hw
  cases hcopy

/-! ## Frames of two agents -/

namespace Scenario

/-- HELLO of the agent of a cluster. -/
def hello (c : UInt64) : HelloPayload :=
  { clusterId := ⟨c⟩, capacity := (clusterRequest c).capacity, listenPort := 4000 }

def frame (type : MessageType) (epoch : CoordinatorEpoch) (payload : Bytes) : Frame :=
  { header := { messageType := type, coordinatorEpoch := epoch }, payload := payload }

/-- What the coordinator does with a HELLO on a new connection. -/
def join (r : Runtime) (c : UInt64) : Runtime × Result (Session × Frame) :=
  handleAgentHello r {} (text "10.0.0.1:5000") (frame .hello {} (HelloPayload.codec.encode (hello c)))

/-- The session after a HELLO. -/
def sessionOf (r : Runtime) (c : UInt64) : Session :=
  ((join r c).2.map Prod.fst).toOption.getD {}

theorem join_runtime (r : Runtime) {c : UInt64} (fits : HelloPayload.codec.fits (hello c) = true) :
    (join r c).1 = r.after (.registerCluster (hello c).registration) :=
  (handleAgentHello_runtime r _ _ _).trans (by
    rw [helloRequest, frame, readPayload_of_reads (HelloPayload.codec.reads _ fits)]
    rfl)

/-- A fabric in which the second cluster hosts a copy. -/
def hostedElsewhere : List Mutation := [cluster 2, state 1 1 .immutable, replica 1 1 1 2]

/-- The fabric after the agent of the first cluster joined. -/
def joinedFabric : Runtime :=
  reach (hostedElsewhere ++ [.registerCluster (hello 1).registration])

theorem joinedFabric_reachable : ReachableRuntime joinedFabric := reachable _

/-- The session of the first cluster's agent. -/
def firstSession : Session := sessionOf (reach hostedElsewhere) 1

theorem joinedFabric_eq : (join (reach hostedElsewhere) 1).1 = joinedFabric := by
  rw [join_runtime _ (by decide +kernel), joinedFabric, reach, reach, Runtime.afterAll_append]
  rfl

/-- The incarnation of a cluster. -/
def incarnationOf (r : Runtime) (c : ClusterId) : ClusterIncarnationId :=
  (r.plane.clusters[c]?.map (·.incarnation)).getD {}

/-- Evidence about a cluster of the joined fabric. -/
def evidenceAbout (c : UInt64) : EvidencePayload :=
  { clusterId := ⟨c⟩
    clusterIncarnation := incarnationOf joinedFabric ⟨c⟩
    health := .failed
    capacity := { totalLogicalBytes := 1 } }

def evidenceFrame (v : EvidencePayload) : Frame := frame .evidence ⟨1⟩ (EvidencePayload.layout.encode v)

/-- A report that the transfer to a copy failed. -/
def failureFrame (epoch k : UInt64) : Frame :=
  frame .transferResult ⟨epoch⟩
    (TransferReportPayload.codec.encode { replicaId := ⟨k⟩, failed := 1 })

end Scenario

/-! ## Isolation of sessions -/

/-- Between two planes, no replica hosted by a cluster other than `c` and no cluster record other
than that of `c` changes, and no replica appears. -/
def ControlPlane.ChangesOnly (c : ClusterId) (p q : ControlPlane) : Prop :=
  (∀ k : ReplicaId, (∀ replica, p.replicas[k]? = some replica → replica.location.clusterId ≠ c) →
      q.replicas[k]? = p.replicas[k]?)
    ∧ ∀ c' : ClusterId, c' ≠ c → q.clusters[c']? = p.clusters[c']?

/-- The record a report names is that of the cluster, or of a replica it hosts. -/
def Mutation.concerns (m : Mutation) (p : ControlPlane) (c : ClusterId) : Bool :=
  match m with
  | .publishClusterEvidence update => update.clusterId == c
  | _ => m.report.any fun (k, _) => p.replicas[k]?.any (·.location.clusterId == c)

/-- What a frame asks for concerns the session's own cluster or is not carried out: the frame makes
no request, or the fabric is shutting down or a guard of the handler does not hold. -/
def Session.keepsToItself (session : Session) (r : Runtime) (frame : Frame) : Bool :=
  (session.request r.plane.coordinatorEpoch frame).all fun m =>
    m.concerns r.plane session.clusterId || r.ignores m

/-- An insertion changes only keys outside `Q` exactly when its own key is one, or was bound to
the same value. -/
theorem forall_getElem?_insert_iff {κ : Type} [Ord κ] [Std.TransOrd κ] [Std.LawfulEqOrd κ]
    [DecidableEq κ] {m : Std.ExtTreeMap κ α} {k : κ} {v : α} {Q : κ → Prop} :
    (∀ x, Q x → (m.insert k v)[x]? = m[x]?) ↔ ¬ Q k ∨ m[k]? = some v := by
  constructor
  · intro hall
    by_cases hQ : Q k
    · have hkey := hall k hQ
      rw [getElem?_insert_eq, if_pos rfl] at hkey
      exact .inr hkey.symm
    · exact .inl hQ
  · intro hor x hx
    rw [getElem?_insert_eq]
    split
    · rename_i heq
      subst heq
      rcases hor with hnot | hsame
      · exact absurd hx hnot
      · exact hsame.symm
    · rfl

/-- An executed evidence update changes only records of `c` if it names `c`, or if it repeats a
record that carries its own tick. -/
theorem Executes.changesOnly_evidence_iff (h : Executes r (.publishClusterEvidence update) out)
    (coherent : Coherent r.plane) (full : update.hasCapabilities = true)
    (measured : update.hasCapacity = true) (c : ClusterId) :
    ∃ record : ClusterRecord, record.updatedAt = r.plane.logicalTime + 1
      ∧ (r.plane.ChangesOnly c (r.after (.publishClusterEvidence update)).plane
        ↔ update.clusterId = c ∨ r.plane.clusters[update.clusterId]? = some record) := by
  obtain ⟨record, hput, honly, hnone, hid, hstamp, -, -⟩ := h.evidenceWritten coherent full measured
  have hclusters : (r.after (.publishClusterEvidence update)).plane.clusters
      = r.plane.clusters.insert update.clusterId record := by
    rw [clusters_eq_of_records h.records_eq, clusters_applyAll_of_put hput honly, hid]
  have hreplicas : (r.after (.publishClusterEvidence update)).plane.replicas = r.plane.replicas := by
    rw [replicas_eq_of_records h.records_eq, replicas_applyAll_of_not_mem hnone]
  have hnot : ¬ update.clusterId ≠ c ↔ update.clusterId = c := not_not
  refine ⟨record, hstamp, ?_⟩
  rw [ChangesOnly, hclusters, hreplicas, forall_getElem?_insert_iff, hnot]
  exact ⟨fun hchanges => hchanges.2, fun hcluster => ⟨fun _ _ => rfl, hcluster⟩⟩

/-- An executed report changes only records of `c` if `c` hosts the replica it names, or if it
repeats a record that carries its own tick. -/
theorem Executes.changesOnly_report_iff (h : Executes r m out) (coherent : Coherent r.plane)
    (report : m.report = some (k, o)) (c : ClusterId) :
    ∃ revised : ReplicaRecord, revised.updatedAt = r.plane.logicalTime + 1
      ∧ (r.plane.ChangesOnly c (r.after m).plane
        ↔ (∃ replica, r.plane.replicas[k]? = some replica ∧ replica.location.clusterId = c)
          ∨ r.plane.replicas[k]? = some revised) := by
  obtain ⟨replica, revised, ops, hreplica, hid, hstamp, batch⟩ := h.reportBatch coherent report
  have hclusters : (r.after m).plane.clusters = r.plane.clusters := by
    rw [clusters_eq_of_records h.records_eq]
    exact batch.clusters_applyAll
  have hreplicas : (r.after m).plane.replicas = r.plane.replicas.insert k revised := by
    rw [replicas_eq_of_records h.records_eq, ← hid]
    exact batch.replicas_applyAll
  have hnot : (¬ ∀ replica, r.plane.replicas[k]? = some replica →
        replica.location.clusterId ≠ c)
      ↔ ∃ replica, r.plane.replicas[k]? = some replica ∧ replica.location.clusterId = c := by
    simp
  refine ⟨revised, hstamp, ?_⟩
  rw [ChangesOnly, hclusters, hreplicas, forall_getElem?_insert_iff, hnot]
  exact ⟨fun hchanges => hchanges.1, fun hhosted => ⟨hhosted, fun _ _ => rfl⟩⟩

theorem Mutation.concerns_report {p : ControlPlane} {c : ClusterId}
    (report : m.report = some (k, o)) :
    m.concerns p c = true
      ↔ ∃ replica, p.replicas[k]? = some replica ∧ replica.location.clusterId = c := by
  have hconcerns : m.concerns p c = p.replicas[k]?.any (·.location.clusterId == c) := by
    cases m with
    | publishClusterEvidence => cases report
    | _ => simp [Mutation.concerns, report]
  rw [hconcerns, Option.any_eq_true]
  simp

/-- The request of a frame changes only records of `c` if it concerns `c` or is ignored; while the
clock is ahead of the records, only then. -/
theorem Runtime.changesOnly_iff (coherent : Coherent r.plane) (agent : m.FromAgent)
    (c : ClusterId) :
    ((m.concerns r.plane c || r.ignores m) = true → r.plane.ChangesOnly c (r.after m).plane)
      ∧ (r.plane.Unstamped → r.plane.ChangesOnly c (r.after m).plane →
        (m.concerns r.plane c || r.ignores m) = true) := by
  rcases r.agent_cases agent.fromAgent with ⟨out, hexec, hheard⟩ | ⟨hsame, hignored⟩
  · rw [hheard, Bool.or_false]
    rcases agent with ⟨update, rfl, hfull, hmeasured⟩ | ⟨k, o, hreport⟩
    · obtain ⟨record, hstamp, hiff⟩ := hexec.changesOnly_evidence_iff coherent hfull hmeasured c
      have hconcerns : (Mutation.publishClusterEvidence update).concerns r.plane c = true
          ↔ update.clusterId = c := by simp [Mutation.concerns]
      rw [hiff, hconcerns]
      exact ⟨.inl, fun hclock hcase =>
        hcase.resolve_right fun hrecord => hclock.clusters _ _ hrecord hstamp⟩
    · obtain ⟨revised, hstamp, hiff⟩ := hexec.changesOnly_report_iff coherent hreport c
      rw [hiff, Mutation.concerns_report hreport]
      exact ⟨.inl, fun hclock hcase =>
        hcase.resolve_right fun hrecord => hclock.replicas _ _ hrecord hstamp⟩
  · rw [hsame, hignored, Bool.or_true]
    exact ⟨fun _ => ⟨fun _ _ => rfl, fun _ _ => rfl⟩, fun _ _ => rfl⟩

/-- A frame received on a session changes no cluster record but that of the session's cluster, and
no replica but those it hosts, if it keeps to itself; unless the clock has been set back behind the
records, only then. -/
theorem session_isolation {r : Runtime} (reachable : ReachableRuntime r) (session : Session)
    (frame : Frame) :
    (session.keepsToItself r frame = true →
        r.plane.ChangesOnly session.clusterId (handleAgentFrame r session frame).1.plane)
      ∧ (r.plane.Unstamped →
        r.plane.ChangesOnly session.clusterId (handleAgentFrame r session frame).1.plane →
          session.keepsToItself r frame = true) := by
  rw [handleAgentFrame_runtime, Session.keepsToItself]
  cases hrequest : session.request r.plane.coordinatorEpoch frame with
  | none => exact ⟨fun _ => ⟨fun _ _ => rfl, fun _ _ => rfl⟩, fun _ _ => rfl⟩
  | some =>
    exact Runtime.changesOnly_iff reachable.wellKept.coherent
      (Session.fromAgent_of_request hrequest) _

/-- The agent of the first cluster publishes evidence about the second, and fails a transfer to a
copy the second hosts. -/
theorem session_reaches_other_clusters :
    ReachableRuntime joinedFabric
      ∧ (join (reach hostedElsewhere) 1).1 = joinedFabric
      ∧ firstSession.clusterId = ⟨1⟩ ∧ firstSession.isAgent = true
      ∧ ¬ joinedFabric.plane.ChangesOnly ⟨1⟩
          (handleAgentFrame joinedFabric firstSession
            (evidenceFrame (evidenceAbout 2))).1.plane
      ∧ ¬ joinedFabric.plane.ChangesOnly ⟨1⟩
          (handleAgentFrame joinedFabric firstSession
            (failureFrame 1 1)).1.plane := by
  refine ⟨joinedFabric_reachable, joinedFabric_eq, by decide +kernel,
    by decide +kernel, fun hevidence => ?_, fun hfailure => ?_⟩
  · exact absurd (hevidence.2 ⟨2⟩ (by decide)) (by decide +kernel)
  · have hhost : ∀ copy : ReplicaRecord,
        joinedFabric.plane.replicas[(⟨1⟩ : ReplicaId)]? = some copy →
          copy.location.clusterId ≠ ⟨1⟩ := by
      intro copy hcopy hhosted
      have hcluster : joinedFabric.plane.replicas[(⟨1⟩ : ReplicaId)]?.map
          (·.location.clusterId) = some ⟨2⟩ := by decide +kernel
      rw [hcopy, Option.map_some, hhosted] at hcluster
      exact absurd hcluster (by decide)
    exact absurd (hfailure.1 ⟨1⟩ hhost) (by decide +kernel)

theorem session_isolation_own_evidence :
    firstSession.keepsToItself joinedFabric
        (evidenceFrame (evidenceAbout 1)) = true
      ∧ joinedFabric.plane.ChangesOnly firstSession.clusterId
          (handleAgentFrame joinedFabric firstSession
            (evidenceFrame (evidenceAbout 1))).1.plane := by
  have hown : firstSession.keepsToItself joinedFabric
      (evidenceFrame (evidenceAbout 1)) = true := by decide +kernel
  exact ⟨hown, (session_isolation joinedFabric_reachable _ _).1 hown⟩

/-! ## Reports of an old epoch -/

theorem durableSequence_commit (r : Runtime) {es : List Effect} (h : es ≠ [])
    (tick : Tick) (epoch : CoordinatorEpoch) :
    (r.commit es tick epoch).plane.durableSequence = r.plane.durableSequence + 1 := by
  have hsettled : ∀ q : Runtime,
      q.settled.plane.durableSequence = q.plane.durableSequence := fun q => by
    unfold Runtime.settled
    split <;> rfl
  rw [Runtime.commit_of_nonempty r (List.isEmpty_eq_false_iff.mpr h), hsettled]
  rfl

theorem Executes.plane_ne (h : Executes r m out) (effects : out.effects ≠ []) :
    (r.after m).plane ≠ r.plane := by
  intro hsame
  have hsequence := congrArg ControlPlane.durableSequence hsame
  rw [h.after_eq, durableSequence_commit r effects] at hsequence
  simp at hsequence

/-- The frame makes no request (its payload does not decode, or it is no report), or the fabric is
shutting down, or a guard of the handler does not hold. -/
def Session.ignored (session : Session) (r : Runtime) (frame : Frame) : Bool :=
  (session.request r.plane.coordinatorEpoch frame).all r.ignores

/-- The frame under another coordinator epoch. -/
def Frame.underEpoch (frame : Frame) (epoch : CoordinatorEpoch) : Frame :=
  { frame with header := { frame.header with coordinatorEpoch := epoch } }

/-- The frames that report about a replica. -/
def MessageType.isReport : MessageType → Bool
  | .transferProgress | .transferResult | .verifyResult => true
  | _ => false

/-- A request of an agent leaves the plane alone exactly when it is ignored. -/
theorem Runtime.plane_eq_iff_ignores (coherent : Coherent r.plane) (agent : m.FromAgent) :
    (r.after m).plane = r.plane ↔ r.ignores m = true := by
  rcases r.agent_cases agent.fromAgent with ⟨out, hexec, hheard⟩ | ⟨hsame, hignored⟩
  · have heffects : out.effects ≠ [] := by
      rcases agent with ⟨update, rfl, hfull, hmeasured⟩ | ⟨k, o, hreport⟩
      · obtain ⟨record, hput, -⟩ := hexec.evidenceWritten coherent hfull hmeasured
        exact List.ne_nil_of_mem hput
      · obtain ⟨replica, revised, ops, -, -, -, batch⟩ := hexec.reportBatch coherent hreport
        exact List.ne_nil_of_mem batch.replica
    exact iff_of_false (hexec.plane_ne heffects) (by simp [hheard])
  · exact iff_of_true (by rw [hsame]) hignored

/-- A frame leaves the plane alone exactly when it is ignored, and whether it is ignored does not
depend on the coordinator epoch in its header: a report of an old epoch is refused by the guards that
refuse the same report under the current one, and by no other. -/
theorem old_epoch_reports {r : Runtime} (reachable : ReachableRuntime r) (session : Session)
    (frame : Frame) :
    ((handleAgentFrame r session frame).1.plane = r.plane ↔ session.ignored r frame = true)
      ∧ ∀ epoch, session.ignored r (frame.underEpoch epoch) = session.ignored r frame := by
  refine ⟨?_, fun _ => rfl⟩
  rw [handleAgentFrame_runtime, Session.ignored]
  cases hrequest : session.request r.plane.coordinatorEpoch frame with
  | none => exact iff_of_true rfl rfl
  | some =>
    exact Runtime.plane_eq_iff_ignores reachable.wellKept.coherent
      (Session.fromAgent_of_request hrequest)

/-- The fabric of the joined agent after its epoch advanced. -/
def Scenario.advancedFabric : Runtime :=
  reach (hostedElsewhere ++ [.registerCluster (hello 1).registration, .advanceEpoch])

theorem Scenario.advancedFabric_reachable : ReachableRuntime advancedFabric :=
  reachable _

/-- A report under the epoch before the last is carried out. -/
theorem old_epoch_report_executed :
    ReachableRuntime advancedFabric
      ∧ (failureFrame 1 1).header.messageType.isReport = true
      ∧ staleEpoch (failureFrame 1 1).header.coordinatorEpoch
          advancedFabric.plane.coordinatorEpoch = true
      ∧ (handleAgentFrame advancedFabric firstSession
          (failureFrame 1 1)).1.plane ≠ advancedFabric.plane := by
  refine ⟨advancedFabric_reachable, rfl, by decide +kernel, fun hsame => ?_⟩
  have hcopies := congrArg (fun p : ControlPlane => p.replicas[(⟨1⟩ : ReplicaId)]?) hsame
  exact absurd hcopies (by decide +kernel)

theorem old_epoch_report_of_unknown_replica :
    staleEpoch (failureFrame 1 9).header.coordinatorEpoch
        advancedFabric.plane.coordinatorEpoch = true
      ∧ firstSession.ignored advancedFabric (failureFrame 1 9) = true
      ∧ (handleAgentFrame advancedFabric firstSession
          (failureFrame 1 9)).1.plane = advancedFabric.plane := by
  have hignored : firstSession.ignored advancedFabric (failureFrame 1 9) = true := by
    decide +kernel
  exact ⟨by decide +kernel, hignored, (old_epoch_reports advancedFabric_reachable firstSession
    (failureFrame 1 9)).1.mpr hignored⟩

/-! ## What comes through the wire -/

theorem sortUnique_eq_nil [Ord α] [Std.TransOrd α] {values : List α} :
    sortUnique values = [] ↔ values = [] := by
  rw [sortUnique, ← List.isEmpty_iff, Std.ExtTreeSet.isEmpty_toList, Std.ExtTreeSet.isEmpty_iff,
    Std.ExtTreeSet.ofList_eq_empty_iff]

/-- The capabilities that reach the other side are those sent, up to order and repetitions,
exactly when all of them are on the wire. -/
theorem EvidencePayload.canonicalize_carried_iff :
    v.carried.capabilities.canonicalize = v.capabilities.canonicalize ↔ v.Plain := by
  simp only [carried, Plain, ClusterCapabilities.canonicalize, ClusterCapabilities.mk.injEq,
    true_and]
  have hstorage : (sortUnique [] : List Text) = sortUnique v.capabilities.storageClasses
      ↔ v.capabilities.storageClasses = [] := by
    rw [sortUnique_eq_nil.mpr rfl, eq_comm, sortUnique_eq_nil]
  rw [hstorage]
  rw [eq_comm (a := false), eq_comm (a := false)]

/-- The reply acknowledges that the request of the frame was executed. -/
def acknowledges : Result (Option Frame) → Bool
  | .ok (some reply) => (readPayload SimplePayload.codec.decode reply.payload).any (·.ok == 1)
  | _ => false

/-- The first word of an acknowledgement is read back, whatever else it holds. -/
theorem SimplePayload.ok_of_read {v ack : SimplePayload}
    (h : readPayload SimplePayload.codec.decode (SimplePayload.codec.encode v) = some ack) :
    ack.ok = v.ok := by
  have hall : ByteReader.readAll SimplePayload.codec.decode (SimplePayload.codec.encode v)
      = .ok ack := by
    unfold readPayload at h
    generalize ByteReader.readAll SimplePayload.codec.decode _ = read at h ⊢
    cases read with
    | error => cases h
    | ok => exact congrArg Except.ok (Option.some.inj h)
  obtain ⟨fields, _, hfields, hpure⟩ := Reader.run_bind_eq_ok.mp (Reader.run_of_readAll hall)
  obtain ⟨rfl, -⟩ := Prod.mk.inj (Except.ok.inj hpure)
  obtain ⟨_, hfields⟩ := Codec.run_fst hfields
  obtain ⟨_, hfields⟩ := Codec.run_fst hfields
  obtain ⟨_, hfields⟩ := Codec.run_fst hfields
  have hword := (Codec.unit.pair ByteCodec.u32).reads ((), v.ok) rfl
    (ByteCodec.u16.encode v.code ++ ((ByteCodec.str maxDetailLength).encode v.detail
      ++ ((ByteCodec.str maxDetailLength).encode v.extra ++ [])))
  exact congrArg Prod.snd (Prod.mk.inj (Except.ok.inj (hfields.symm.trans hword))).1

theorem executes_of_acknowledges (h : acknowledges (.ok (some
      (replyFrame replyType epoch
        (SimplePayload.codec.encode (acknowledgement (r.answer m) accepted))))) = true) :
    ∃ out, Executes r m out := by
  obtain ⟨ack, hread, hok⟩ := (Option.any_eq_true _ _).mp h
  have hword := SimplePayload.ok_of_read hread
  rw [beq_iff_eq.mp hok] at hword
  rcases r.after_cases m with hexec | ⟨-, ⟨e, hanswer⟩, -⟩
  · exact hexec
  · rw [hanswer] at hword
    simp [acknowledgement] at hword

/-- Acknowledged evidence is recorded as it was sent exactly when all of it is on the wire. -/
theorem evidence_recorded_iff (coherent : Coherent r.plane) {header : FrameHeader}
    (type : header.messageType = .evidence) (fits : EvidencePayload.layout.fits v = true)
    (ack : acknowledges (handleAgentFrame r session { header, payload := EvidencePayload.layout.encode v }).2 = true) :
    (∃ record, (handleAgentFrame r session { header, payload := EvidencePayload.layout.encode v }).1.plane.clusters[
          v.clusterId]? = some record
        ∧ record.capabilities = v.capabilities.canonicalize ∧ record.capacity = v.capacity)
      ↔ v.Plain := by
  have hread : readPayload EvidencePayload.layout.decode (EvidencePayload.layout.encode v) = some v.carried :=
    readPayload_of_reads (EvidencePayload.reads fits)
  have hunderstand : session.understand r.plane.coordinatorEpoch { header, payload := EvidencePayload.layout.encode v }
      = .ok (.request (.publishClusterEvidence v.carried.update) .evidenceAck
          (text "evidence accepted")) := by
    simp only [Session.understand, type, hread, understood, found]
    rfl
  simp only [handleAgentFrame, hunderstand] at ack ⊢
  obtain ⟨out, hexec⟩ := executes_of_acknowledges ack
  obtain ⟨record, hput, honly, -, hid, -, hcapabilities, hcapacity⟩ :=
    hexec.evidenceWritten coherent rfl rfl
  have hrecord : (r.after (.publishClusterEvidence v.carried.update)).plane.clusters[
      v.clusterId]? = some record := by
    rw [clusters_eq_of_records hexec.records_eq, clusters_applyAll_of_put hput honly, hid,
      getElem?_insert_eq]
    exact if_pos rfl
  rw [← EvidencePayload.canonicalize_carried_iff]
  constructor
  · rintro ⟨found, hfound, hsame, -⟩
    obtain rfl := some_unique hrecord hfound
    exact hcapabilities.symm.trans hsame
  · intro hsame
    exact ⟨record, hrecord, hcapabilities.trans hsame, hcapacity⟩

theorem payload_round_trip (maxBytes : Nat) (v : Payload) (fits : v.fits maxBytes = true) :
    (Payload.read maxBytes v.type v.encode = some v ↔ v.Plain)
      ∧ ∀ (r : Runtime) (session : Session) (header : FrameHeader) (v : EvidencePayload),
        ReachableRuntime r → header.messageType = .evidence →
        EvidencePayload.layout.fits v = true →
        acknowledges (handleAgentFrame r session { header, payload := EvidencePayload.layout.encode v }).2 = true →
        ((∃ record, (handleAgentFrame r session { header, payload := EvidencePayload.layout.encode v }).1.plane.clusters[
              v.clusterId]? = some record
            ∧ record.capabilities = v.capabilities.canonicalize ∧ record.capacity = v.capacity)
          ↔ v.Plain) := by
  refine ⟨?_, fun r session header v reachable htype hfits hack => ?_⟩
  · rw [Payload.read_encode fits, Option.some.injEq, Payload.carried_eq_iff]
  · have hkept := reachable.wellKept
    exact evidence_recorded_iff hkept.coherent htype hfits hack

/-- Evidence about the first cluster with everything on the wire. -/
def Scenario.plainEvidence : EvidencePayload := evidenceAbout 1

/-- The same evidence with a storage class and encryption at rest. -/
def Scenario.encryptedEvidence : EvidencePayload :=
  { plainEvidence with
    capabilities := { storageClasses := [text "nvme"], encryptionAtRest := true } }

/-- Evidence of a storage class and of encryption at rest is acknowledged and recorded without
them. -/
theorem evidence_loses_capabilities :
    EvidencePayload.layout.fits encryptedEvidence = true
      ∧ Payload.read 0 .evidence (EvidencePayload.layout.encode encryptedEvidence)
          ≠ some (.evidence encryptedEvidence)
      ∧ acknowledges (handleAgentFrame joinedFabric firstSession
          (evidenceFrame encryptedEvidence)).2 = true
      ∧ (handleAgentFrame joinedFabric firstSession
          (evidenceFrame encryptedEvidence)).1.plane.clusters[
            encryptedEvidence.clusterId]?.map (·.capabilities)
          ≠ some encryptedEvidence.capabilities.canonicalize := by
  refine ⟨by decide +kernel, by decide +kernel, by decide +kernel, by decide +kernel⟩

theorem payload_round_trip_plain_evidence :
    Payload.read 0 .evidence (EvidencePayload.layout.encode plainEvidence)
        = some (.evidence plainEvidence)
      ∧ ∃ record, (handleAgentFrame joinedFabric firstSession
            { header := { messageType := .evidence }
              payload := EvidencePayload.layout.encode plainEvidence }).1.plane.clusters[
            plainEvidence.clusterId]? = some record
          ∧ record.capabilities = plainEvidence.capabilities.canonicalize
          ∧ record.capacity = plainEvidence.capacity := by
  have hplain : plainEvidence.Plain := by decide +kernel
  obtain ⟨hread, hrecorded⟩ :=
    payload_round_trip 0 (.evidence plainEvidence) (by decide +kernel)
  exact ⟨hread.mpr hplain, (hrecorded joinedFabric firstSession
    { messageType := .evidence } plainEvidence joinedFabric_reachable rfl
    (by decide +kernel) (by decide +kernel)).mpr hplain⟩

end StateFabric
