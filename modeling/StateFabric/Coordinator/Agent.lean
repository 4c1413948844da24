import StateFabric.Fabric.Run
import StateFabric.Transport.Payload

/-!
# Agent frames

How the coordinator serves a cluster agent: `handle_agent_hello` and `handle_agent_frame` of
`src/coordinator.cpp`.  A frame is read as what it asks of the fabric (`Session.understand`); the
request is executed, and its outcome is reported in the acknowledgement.

Which cluster a report is about is not read from the frame's header: EVIDENCE names its cluster in
the payload, and a transfer or verification report names its replica there.  The epoch a report is
checked against is the fabric's own.
-/

namespace StateFabric

/-- What the coordinator keeps of a connection. -/
structure Session where
  clusterId : ClusterId := {}
  incarnation : ClusterIncarnationId := {}
  workerBootId : WorkerBootId := {}
  host : Text := []
  dataPort : UInt16 := 0
  isAgent : Bool := false
  deriving DecidableEq

/-- `host_of`: the peer's address without its port, which follows the last colon. -/
def hostOf (peer : Text) : Text :=
  if peer.contains 58 then ((peer.reverse.dropWhile (· != 58)).drop 1).reverse else peer

/-- A frame the coordinator sends. -/
def replyFrame (messageType : MessageType) (epoch : CoordinatorEpoch) (payload : Bytes) : Frame :=
  { header := { messageType, coordinatorEpoch := epoch }, payload }

/-- The error of a payload that does not decode. -/
def malformed (what : String) : Error :=
  makeError .frameCorrupt (text ("malformed " ++ what))

/-! ## Joining -/

/-- The registration a HELLO asks for. -/
def HelloPayload.registration (hello : HelloPayload) : ClusterRegistration :=
  { clusterId := hello.clusterId
    region := hello.region
    site := hello.site
    failureDomain := hello.failureDomain
    locationDescriptor := hello.locationDescriptor
    workerId := hello.workerId
    workerBootId := hello.workerBootId
    capabilities := hello.capabilities
    capacity := hello.capacity
    health := .healthy
    expectedCoordinatorEpoch := hello.expectedCoordinatorEpoch }

/-- `handle_agent_hello`, up to the registry of sessions: the session and the acknowledgement. -/
def handleAgentHello (r : Runtime) (session : Session) (peer : Text) (frame : Frame) :
    Runtime × Result (Session × Frame) :=
  match readPayload HelloPayload.codec.decode frame.payload with
  | none => (r, .error (malformed "HELLO"))
  | some hello =>
    let (r, registered) := r.mutate (registerCluster hello.registration)
    let epoch := r.plane.coordinatorEpoch
    let ack : HelloAckPayload :=
      { clusterId := hello.clusterId
        coordinatorId := r.config.coordinatorId
        coordinatorEpoch := epoch }
    match registered with
    | .error e =>
      let ack := { ack with accepted := 0, detail := e.str }
      (r, .ok (session, replyFrame .helloAck epoch (HelloAckPayload.codec.encode ack)))
    | .ok record =>
      let ack :=
        { ack with
          accepted := 1
          incarnation := record.incarnation
          workerId := record.workerId
          workerBootId := record.workerBootId
          detail := text "registered" }
      let session :=
        { clusterId := hello.clusterId
          incarnation := record.incarnation
          workerBootId := record.workerBootId
          host := hostOf peer
          dataPort := hello.listenPort.toUInt16
          isAgent := true }
      (r, .ok (session, replyFrame .helloAck epoch (HelloAckPayload.codec.encode ack)))

theorem Runtime.mutate_map {ρ : Type} (r : Runtime) (body : MutationInputs → Result (Outcome ρ))
    (f : ρ → Response) :
    r.mutate (fun inputs => (body inputs).map (·.map f))
      = ((r.mutate body).1, (r.mutate body).2.map f) := by
  unfold mutate
  cases r.shuttingDown with
  | true => rfl
  | false =>
    cases hbody : body r.inputs with
    | error => simp [hbody, Except.map]
    | ok =>
      simp only [hbody, Except.map, Outcome.map, Runtime.persistAndApply_none, Bool.false_eq_true,
        if_false]
      rfl

/-- The request of a HELLO whose payload decodes. -/
def helloRequest (frame : Frame) : Option Mutation :=
  (readPayload HelloPayload.codec.decode frame.payload).map (.registerCluster ·.registration)

/-- A HELLO does to the fabric what its request does. -/
theorem handleAgentHello_runtime (r : Runtime) (session : Session) (peer : Text) (frame : Frame) :
    (handleAgentHello r session peer frame).1 = (helloRequest frame).elim r r.after := by
  unfold handleAgentHello helloRequest
  cases readPayload HelloPayload.codec.decode frame.payload with
  | none => rfl
  | some hello =>
    have hafter : r.after (.registerCluster hello.registration)
        = (r.mutate (registerCluster hello.registration)).1 :=
      congrArg Prod.fst (r.mutate_map (registerCluster hello.registration) .cluster)
    simp only [Option.map_some, Option.elim_some, hafter]
    split <;> rfl

/-! ## Reports -/

/-- The update EVIDENCE asks for. -/
def EvidencePayload.update (evidence : EvidencePayload) : ClusterEvidenceUpdate :=
  { clusterId := evidence.clusterId
    incarnation := evidence.clusterIncarnation
    workerBootId := evidence.workerBootId
    health := evidence.health
    capabilities := evidence.capabilities
    capacity := evidence.capacity
    hasCapabilities := true
    hasCapacity := true
    expectedCoordinatorEpoch := evidence.expectedCoordinatorEpoch }

namespace TransferReportPayload

/-- The part of a progress record that every report fills in. -/
def named (report : TransferReportPayload) (session : Session) (epoch : CoordinatorEpoch) :
    TransferProgress :=
  { transferId := report.transferId
    transferGeneration := report.transferGeneration
    replicaId := report.replicaId
    replicaGeneration := report.replicaGeneration
    operationId := report.operationId
    operationGeneration := report.operationGeneration
    clusterId := session.clusterId
    clusterIncarnation := report.clusterIncarnation
    workerBootId := report.workerBootId
    expectedCoordinatorEpoch := epoch }

def progress (report : TransferReportPayload) (session : Session) (epoch : CoordinatorEpoch) :
    TransferProgress :=
  { report.named session epoch with bytesTransferred := report.bytesTransferred }

def failure (report : TransferReportPayload) (session : Session) (epoch : CoordinatorEpoch) :
    TransferProgress :=
  { report.named session epoch with failed := true, failureReason := report.detail }

def completion (report : TransferReportPayload) (session : Session) (epoch : CoordinatorEpoch) :
    TransferCompletion :=
  { transferId := report.transferId
    transferGeneration := report.transferGeneration
    replicaId := report.replicaId
    replicaGeneration := report.replicaGeneration
    operationId := report.operationId
    operationGeneration := report.operationGeneration
    clusterId := session.clusterId
    clusterIncarnation := report.clusterIncarnation
    workerBootId := report.workerBootId
    expectedCoordinatorEpoch := epoch
    bytesTransferred := report.bytesTransferred
    measuredDigest := report.measuredDigest
    transferComplete := true }

end TransferReportPayload

def VerifyReportPayload.verification (report : VerifyReportPayload) (session : Session)
    (epoch : CoordinatorEpoch) : ReplicaVerification :=
  { verificationId := report.verificationId
    replicaId := report.replicaId
    replicaGeneration := report.replicaGeneration
    operationId := report.operationId
    operationGeneration := report.operationGeneration
    clusterId := session.clusterId
    clusterIncarnation := report.clusterIncarnation
    workerBootId := report.workerBootId
    expectedCoordinatorEpoch := epoch
    integrityVerified := report.integrityVerified != 0
    measuredDigest := report.measuredDigest
    compatibilityVerified := report.compatibilityVerified != 0
    verifiedBytes := report.verifiedBytes
    -- The decoder accepts only the numbers of durability classes.
    establishedDurability := (WireEnum.ofCode report.durability.toUInt16).getD .unknown
    detail := report.detail }

/-- What a frame of an agent asks for. -/
inductive AgentAction
  /-- A request to the fabric, with the type of its acknowledgement and the text of success. -/
  | request (m : Mutation) (replyType : MessageType) (accepted : Text)
  /-- An acknowledgement carries no authority and needs no reply. -/
  | acknowledged
  | heartbeat

/-- What a decoded payload asks for, or the error of one that does not decode. -/
def understood {α : Type} (payload : Option α) (what : String) (action : α → AgentAction) :
    Result AgentAction :=
  (found payload (malformed what)).map action

/-- What a frame received on a session asks for; `epoch` is the fabric's. -/
def Session.understand (session : Session) (epoch : CoordinatorEpoch) (frame : Frame) :
    Result AgentAction :=
  match frame.header.messageType with
  | .evidence =>
    understood (readPayload EvidencePayload.layout.decode frame.payload) "EVIDENCE" fun evidence =>
      .request (.publishClusterEvidence evidence.update) .evidenceAck (text "evidence accepted")
  | .transferProgress =>
    understood (readPayload TransferReportPayload.codec.decode frame.payload) "TRANSFER_PROGRESS"
      fun report =>
        .request (.recordTransferProgress (report.progress session epoch)) .transferProgressAck
          (text "progress accepted")
  | .transferResult =>
    understood (readPayload TransferReportPayload.codec.decode frame.payload) "TRANSFER_RESULT"
      fun report =>
        if report.failed ≠ 0 then
          .request (.recordTransferProgress (report.failure session epoch)) .transferResultAck
            (text "failure recorded")
        else
          .request (.recordTransferCompletion (report.completion session epoch))
            .transferResultAck (text "transfer recorded")
  | .verifyResult =>
    understood (readPayload VerifyReportPayload.codec.decode frame.payload) "VERIFY_RESULT"
      fun report =>
        .request (.verifyReplica (report.verification session epoch)) .verifyResultAck
          (text "verification recorded")
  | .transferIntentAck | .transferProgressAck | .transferResultAck | .verifyResultAck
  | .shutdownAck | .heartbeatAck => .ok .acknowledged
  | .heartbeat => .ok .heartbeat
  | _ => .error (makeError .protocolUnsupported (text "unexpected agent message type"))

/-- The acknowledgement of a request. -/
def acknowledgement {ρ : Type} (answer : Result ρ) (accepted : Text) : SimplePayload :=
  match answer with
  | .ok _ => { ok := 1, detail := accepted }
  | .error e => { ok := 0, code := e.code.number, detail := e.str }

/-- `handle_agent_frame`: the reply, if the frame needs one.  An error ends the session. -/
def handleAgentFrame (r : Runtime) (session : Session) (frame : Frame) :
    Runtime × Result (Option Frame) :=
  match session.understand r.plane.coordinatorEpoch frame with
  | .error e => (r, .error e)
  | .ok .acknowledged => (r, .ok none)
  | .ok .heartbeat =>
    let alive : SimplePayload := { ok := 1, detail := text "alive" }
    (r, .ok (some (replyFrame .heartbeatAck r.plane.coordinatorEpoch
      (SimplePayload.codec.encode alive))))
  | .ok (.request m replyType accepted) =>
    let ack := acknowledgement (r.answer m) accepted
    (r.after m,
      .ok (some (replyFrame replyType (r.after m).plane.coordinatorEpoch
        (SimplePayload.codec.encode ack))))

/-- The request a frame received on a session asks for, if any. -/
def Session.request (session : Session) (epoch : CoordinatorEpoch) (frame : Frame) :
    Option Mutation :=
  match session.understand epoch frame with
  | .ok (.request m _ _) => some m
  | _ => none

/-- A frame does to the fabric what its request does. -/
theorem handleAgentFrame_runtime (r : Runtime) (session : Session) (frame : Frame) :
    (handleAgentFrame r session frame).1
      = (session.request r.plane.coordinatorEpoch frame).elim r r.after := by
  unfold handleAgentFrame Session.request
  cases session.understand r.plane.coordinatorEpoch frame with
  | error => rfl
  | ok action => cases action <;> rfl

end StateFabric
