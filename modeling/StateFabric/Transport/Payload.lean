import StateFabric.Transport.Frame

/-!
# Message payloads

The payload codecs of `src/protocol.cpp`, which are separate from the codecs of the durable
records.  Every decoder refuses a payload with bytes left over.

`Payload` is a payload of any type, and `Payload.read` its decoder; a payload within the bounds
of its decoder is read back as `Payload.carried`, which differs from what was written in the
capabilities of EVIDENCE only.
-/

namespace StateFabric

open Reader ByteCodec

variable {maxBytes : Nat}

def maxDetailLength : Nat := 512
def maxLocationLength : Nat := 256
def maxClusterTagLength : Nat := 128

/-- The number of an error code. -/
def ErrorCode.number : ErrorCode → UInt16
  | .ok => 0 | .invalidArgument => 1 | .notFound => 2 | .unknownState => 3
  | .unknownReplica => 4 | .unknownCluster => 5 | .unknownOperation => 6 | .unknownPolicy => 7
  | .unknownStateClass => 8 | .staleEpoch => 20 | .staleWorker => 21
  | .staleClusterIncarnation => 22 | .staleStateGeneration => 23
  | .staleReplicaGeneration => 24 | .staleReplicaSetGeneration => 25
  | .stalePlacementGeneration => 26 | .staleMigrationGeneration => 27
  | .staleTransferGeneration => 28 | .staleEvidence => 29 | .staleOperationGeneration => 30
  | .noAuthoritativeReplica => 40 | .integrityUnknown => 41 | .integrityMismatch => 42
  | .incompatible => 43 | .compatibilityUnknown => 44 | .destinationIneligible => 45
  | .sourceIneligible => 46 | .underReplicated => 47 | .overReplicated => 48
  | .splitBrainRisk => 49 | .migrationConflict => 50 | .transferFailed => 51
  | .transferIncomplete => 52 | .commitConflict => 53 | .duplicateConflict => 54
  | .revalidationRequired => 55 | .illegalTransition => 56 | .policyViolation => 57
  | .capacityInsufficient => 58 | .fenced => 59 | .quarantined => 60
  | .immutableStateConflict => 61 | .authorityNotEstablished => 62 | .persistenceCorrupt => 80
  | .persistenceUnsupportedVersion => 81 | .persistenceIo => 82 | .persistenceTruncated => 83
  | .frameCorrupt => 100 | .frameTooLarge => 101 | .frameTruncated => 102
  | .protocolUnsupported => 103 | .transportIo => 104 | .transportClosed => 105
  | .resourceExhausted => 120 | .outcomeUnknown => 121 | .cancelled => 122
  | .shuttingDown => 123 | .internalError => 124 | .notSupported => 125 | .unknown => 126

/-! ## Parts of payloads -/

/-- A list of capability names. -/
def tagList (refusal : String) : ByteCodec (List Text) :=
  counted maxClusterTagCount (makeError .resourceExhausted (text refusal)) (str maxClusterTagLength)

/-- The capacity a cluster reports. -/
def reportedCapacity : ByteCodec ClusterCapacity :=
  capacityCodec (makeError .frameCorrupt (text "reported capacity is inconsistent"))
    (makeError .frameCorrupt (text "reported utilization exceeds 1000 per mille"))

/-- The capabilities a cluster joins with. -/
def joiningCapabilities : ByteCodec ClusterCapabilities :=
  Layout.start ClusterCapabilities ClusterCapabilities.mk
    |>.field (tagList "capability tag count exceeds the bound") (·.tags)
    |>.field (tagList "storage class count exceeds the bound") (·.storageClasses)
    |>.field (tagList "accelerator count exceeds the bound") (·.acceleratorArchitectures)
    |>.field boolean (·.encryptionAtRest) |>.field boolean (·.attestation) |>.record

/-! ## Joining and evidence -/

/-- HELLO: an agent joins. -/
structure HelloPayload where
  clusterId : ClusterId := {}
  region : RegionId := {}
  site : SiteId := {}
  failureDomain : FailureDomainId := {}
  workerId : WorkerId := {}
  workerBootId : WorkerBootId := {}
  priorIncarnation : ClusterIncarnationId := {}
  locationDescriptor : Text := []
  capabilities : ClusterCapabilities := {}
  capacity : ClusterCapacity := {}
  expectedCoordinatorEpoch : CoordinatorEpoch := {}
  listenPort : UInt64 := 0
  deriving DecidableEq

/-- The payload of HELLO. -/
def HelloPayload.codec : ByteCodec HelloPayload :=
  Layout.start HelloPayload HelloPayload.mk
    |>.field ident (·.clusterId) |>.field ident (·.region) |>.field ident (·.site)
    |>.field ident (·.failureDomain) |>.field ident (·.workerId) |>.field ident (·.workerBootId)
    |>.field ident (·.priorIncarnation) |>.field (str maxLocationLength) (·.locationDescriptor)
    |>.field joiningCapabilities (·.capabilities) |>.field reportedCapacity (·.capacity)
    |>.field ident (·.expectedCoordinatorEpoch) |>.field u64 (·.listenPort) |>.record

/-- HELLO_ACK: the coordinator's answer. -/
structure HelloAckPayload where
  clusterId : ClusterId := {}
  incarnation : ClusterIncarnationId := {}
  workerId : WorkerId := {}
  workerBootId : WorkerBootId := {}
  coordinatorId : CoordinatorId := {}
  coordinatorEpoch : CoordinatorEpoch := {}
  accepted : UInt32 := 0
  detail : Text := []
  deriving DecidableEq

/-- The payload of HELLO_ACK. -/
def HelloAckPayload.codec : ByteCodec HelloAckPayload :=
  Layout.start HelloAckPayload HelloAckPayload.mk
    |>.field ident (·.clusterId) |>.field ident (·.incarnation) |>.field ident (·.workerId)
    |>.field ident (·.workerBootId) |>.field ident (·.coordinatorId)
    |>.field ident (·.coordinatorEpoch) |>.field u32 (·.accepted)
    |>.field (str maxDetailLength) (·.detail) |>.record

/-- EVIDENCE: cluster capability, capacity and health publication. -/
structure EvidencePayload where
  clusterId : ClusterId := {}
  clusterIncarnation : ClusterIncarnationId := {}
  workerBootId : WorkerBootId := {}
  health : ClusterHealthState := .unknown
  capabilities : ClusterCapabilities := {}
  capacity : ClusterCapacity := {}
  expectedCoordinatorEpoch : CoordinatorEpoch := {}
  deriving DecidableEq

namespace EvidencePayload

/-- The payload of EVIDENCE.  The other capabilities are not on the wire and keep their
defaults. -/
def layout : Layout UInt8 Error EvidencePayload EvidencePayload :=
  Layout.start EvidencePayload
      (fun clusterId clusterIncarnation workerBootId health tags acceleratorArchitectures capacity
          expectedCoordinatorEpoch =>
        { clusterId, clusterIncarnation, workerBootId, health,
          capabilities := { tags, acceleratorArchitectures }, capacity, expectedCoordinatorEpoch })
    |>.field ident (·.clusterId) |>.field ident (·.clusterIncarnation)
    |>.field ident (·.workerBootId)
    |>.field (code (makeError .frameCorrupt (text "invalid cluster health value"))) (·.health)
    |>.field (tagList "capability tag count exceeds the bound") (·.capabilities.tags)
    |>.field (tagList "accelerator count exceeds the bound") (·.capabilities.acceleratorArchitectures)
    |>.field reportedCapacity (·.capacity) |>.field ident (·.expectedCoordinatorEpoch)

/-- The evidence that reaches the other side. -/
def carried (v : EvidencePayload) : EvidencePayload :=
  { v with
    capabilities :=
      { tags := v.capabilities.tags
        acceleratorArchitectures := v.capabilities.acceleratorArchitectures } }

/-- Evidence within the bounds is read as what reaches the other side. -/
theorem reads {v : EvidencePayload} (h : layout.fits v = true) :
    Reads layout.decode (layout.encode v) v.carried := layout.reads h

/-- Every capability of the evidence is one that EVIDENCE carries. -/
def Plain (v : EvidencePayload) : Prop :=
  v.capabilities.storageClasses = [] ∧ v.capabilities.encryptionAtRest = false
    ∧ v.capabilities.attestation = false

instance (v : EvidencePayload) : Decidable v.Plain := by
  unfold Plain
  infer_instance

/-- Evidence reaches the other side as it is when all of it is on the wire. -/
theorem carried_eq_iff {v : EvidencePayload} : v.carried = v ↔ v.Plain := by
  obtain ⟨_, _, _, _, ⟨_, storageClasses, _, encryptionAtRest, attestation⟩, _, _⟩ := v
  simp only [carried, Plain, EvidencePayload.mk.injEq, ClusterCapabilities.mk.injEq, true_and,
    and_true]
  exact ⟨fun ⟨hstorage, hencryption, hattestation⟩ =>
      ⟨hstorage.symm, hencryption.symm, hattestation.symm⟩,
    fun ⟨hstorage, hencryption, hattestation⟩ =>
      ⟨hstorage.symm, hencryption.symm, hattestation.symm⟩⟩

end EvidencePayload

/-! ## Transfers -/

/-- TRANSFER_INTENT: the coordinator authorizes a transfer to an agent. -/
structure TransferIntentPayload where
  transferId : TransferId := {}
  transferGeneration : TransferGeneration := {}
  operationId : OperationId := {}
  operationGeneration : OperationGeneration := {}
  migrationId : MigrationId := {}
  migrationGeneration : MigrationGeneration := {}
  reservationId : ReservationId := {}
  reservationGeneration : ReservationGeneration := {}
  stateId : StateId := {}
  stateGeneration : StateGeneration := {}
  destinationReplica : ReplicaId := {}
  destinationReplicaGeneration : ReplicaGeneration := {}
  destinationCluster : ClusterId := {}
  destinationIncarnation : ClusterIncarnationId := {}
  sourceCluster : ClusterId := {}
  sourceIncarnation : ClusterIncarnationId := {}
  sourceReplica : ReplicaId := {}
  payloadBytes : UInt64 := 0
  expectedDigest : Digest := {}
  payloadSeed : UInt64 := 0
  coordinatorEpoch : CoordinatorEpoch := {}
  reservationExpiresAt : Tick := 0
  sourceHost : Text := []
  sourceDataPort : UInt64 := 0
  destinationDataPort : UInt64 := 0
  deriving DecidableEq

/-- The payload of TRANSFER_INTENT. -/
def TransferIntentPayload.codec : ByteCodec TransferIntentPayload :=
  Layout.start TransferIntentPayload TransferIntentPayload.mk
    |>.field ident (·.transferId) |>.field ident (·.transferGeneration)
    |>.field ident (·.operationId) |>.field ident (·.operationGeneration)
    |>.field ident (·.migrationId) |>.field ident (·.migrationGeneration)
    |>.field ident (·.reservationId) |>.field ident (·.reservationGeneration)
    |>.field ident (·.stateId) |>.field ident (·.stateGeneration)
    |>.field ident (·.destinationReplica) |>.field ident (·.destinationReplicaGeneration)
    |>.field ident (·.destinationCluster) |>.field ident (·.destinationIncarnation)
    |>.field ident (·.sourceCluster) |>.field ident (·.sourceIncarnation)
    |>.field ident (·.sourceReplica) |>.field u64 (·.payloadBytes)
    |>.check (fun make =>
        let v := make {} 0 {} 0 [] 0 0
        decide (v.payloadBytes.toNat ≤ maxFramePayloadBytes))
      (makeError .frameTooLarge (text "declared transfer payload exceeds the bound"))
    |>.field nested (·.expectedDigest) |>.field u64 (·.payloadSeed)
    |>.field ident (·.coordinatorEpoch) |>.field u64 (·.reservationExpiresAt)
    |>.field (str maxLocationLength) (·.sourceHost) |>.field u64 (·.sourceDataPort)
    |>.field u64 (·.destinationDataPort) |>.record

/-- TRANSFER_PROGRESS and TRANSFER_RESULT: an agent reports about a transfer. -/
structure TransferReportPayload where
  transferId : TransferId := {}
  transferGeneration : TransferGeneration := {}
  operationId : OperationId := {}
  operationGeneration : OperationGeneration := {}
  replicaId : ReplicaId := {}
  replicaGeneration : ReplicaGeneration := {}
  clusterIncarnation : ClusterIncarnationId := {}
  workerBootId : WorkerBootId := {}
  bytesTransferred : UInt64 := 0
  measuredDigest : Digest := {}
  completed : UInt32 := 0
  failed : UInt32 := 0
  detail : Text := []
  deriving DecidableEq

/-- The payload of TRANSFER_PROGRESS and TRANSFER_RESULT. -/
def TransferReportPayload.codec : ByteCodec TransferReportPayload :=
  Layout.start TransferReportPayload TransferReportPayload.mk
    |>.field ident (·.transferId) |>.field ident (·.transferGeneration)
    |>.field ident (·.operationId) |>.field ident (·.operationGeneration)
    |>.field ident (·.replicaId) |>.field ident (·.replicaGeneration)
    |>.field ident (·.clusterIncarnation) |>.field ident (·.workerBootId)
    |>.field u64 (·.bytesTransferred) |>.field nested (·.measuredDigest) |>.field u32 (·.completed)
    |>.field u32 (·.failed)
    |>.check (fun make => let v := make []; decide (v.completed ≤ 1) && decide (v.failed ≤ 1))
      (makeError .frameCorrupt (text "invalid boolean flag in transfer report"))
    |>.field (str maxDetailLength) (·.detail) |>.record

/-- VERIFY_RESULT: an agent reports the outcome of a verification. -/
structure VerifyReportPayload where
  verificationId : VerificationId := {}
  replicaId : ReplicaId := {}
  replicaGeneration : ReplicaGeneration := {}
  operationId : OperationId := {}
  operationGeneration : OperationGeneration := {}
  clusterIncarnation : ClusterIncarnationId := {}
  workerBootId : WorkerBootId := {}
  integrityVerified : UInt32 := 0
  measuredDigest : Digest := {}
  compatibilityVerified : UInt32 := 0
  verifiedBytes : UInt64 := 0
  durability : UInt32 := 0
  detail : Text := []
  deriving DecidableEq

/-- The number of the last durability class. -/
def archivalNumber : UInt32 := (WireEnum.code DurabilityClass.archival).toUInt32

/-- The payload of VERIFY_RESULT. -/
def VerifyReportPayload.codec : ByteCodec VerifyReportPayload :=
  Layout.start VerifyReportPayload VerifyReportPayload.mk
    |>.field ident (·.verificationId) |>.field ident (·.replicaId)
    |>.field ident (·.replicaGeneration) |>.field ident (·.operationId)
    |>.field ident (·.operationGeneration) |>.field ident (·.clusterIncarnation)
    |>.field ident (·.workerBootId) |>.field u32 (·.integrityVerified)
    |>.field nested (·.measuredDigest) |>.field u32 (·.compatibilityVerified)
    |>.field u64 (·.verifiedBytes) |>.field u32 (·.durability)
    |>.check (fun make => let v := make []; decide (v.durability ≤ archivalNumber))
      (makeError .frameCorrupt (text "invalid durability class in verify report"))
    |>.field (str maxDetailLength) (·.detail) |>.record

/-! ## Data -/

/-- DATA_REQUEST: a peer asks an agent for the bytes of one hosted replica. -/
structure DataRequestPayload where
  stateId : StateId := {}
  stateGeneration : StateGeneration := {}
  replicaId : ReplicaId := {}
  offset : UInt64 := 0
  length : UInt64 := 0
  deriving DecidableEq

/-- The payload of DATA_REQUEST. -/
def DataRequestPayload.codec : ByteCodec DataRequestPayload :=
  Layout.start DataRequestPayload DataRequestPayload.mk
    |>.field ident (·.stateId) |>.field ident (·.stateGeneration) |>.field ident (·.replicaId)
    |>.field u64 (·.offset) |>.field u64 (·.length) |>.record

/-- DATA_CHUNK: a bounded slice of replica bytes and its position. -/
structure DataChunkPayload where
  stateId : StateId := {}
  stateGeneration : StateGeneration := {}
  replicaId : ReplicaId := {}
  offset : UInt64 := 0
  last : UInt32 := 0
  digest : Digest := {}
  bytes : Bytes := []
  deriving DecidableEq

/-- The payload of DATA_CHUNK; the bound is the reader's alone. -/
def DataChunkPayload.codec (maxBytes : Nat) : ByteCodec DataChunkPayload :=
  Layout.start DataChunkPayload DataChunkPayload.mk
    |>.field ident (·.stateId) |>.field ident (·.stateGeneration) |>.field ident (·.replicaId)
    |>.field u64 (·.offset) |>.field u32 (·.last)
    |>.check (fun make => let v := make {} []; decide (v.last ≤ 1))
      (makeError .frameCorrupt (text "invalid last flag in a data chunk"))
    |>.field nested (·.digest) |>.field (blob maxBytes) (·.bytes) |>.record

/-- HOST_STATE: pushes replica bytes into an agent's store. -/
structure HostStatePayload where
  stateId : StateId := {}
  stateGeneration : StateGeneration := {}
  replicaId : ReplicaId := {}
  replicaGeneration : ReplicaGeneration := {}
  expectedDigest : Digest := {}
  bytes : Bytes := []
  deriving DecidableEq

/-- The payload of HOST_STATE; the bound is the reader's alone. -/
def HostStatePayload.codec (maxBytes : Nat) : ByteCodec HostStatePayload :=
  Layout.start HostStatePayload HostStatePayload.mk
    |>.field ident (·.stateId) |>.field ident (·.stateGeneration) |>.field ident (·.replicaId)
    |>.field ident (·.replicaGeneration) |>.field nested (·.expectedDigest)
    |>.field (blob maxBytes) (·.bytes) |>.record

/-- A simple acknowledgement or error report.  The decoder takes any number for a code. -/
structure SimplePayload where
  ok : UInt32 := 0
  code : UInt16 := 0
  detail : Text := []
  extra : Text := []
  deriving DecidableEq

/-- The payload of acknowledgements and errors. -/
def SimplePayload.codec : ByteCodec SimplePayload :=
  Layout.start SimplePayload SimplePayload.mk
    |>.field u32 (·.ok) |>.field u16 (·.code) |>.field (str maxDetailLength) (·.detail)
    |>.field (str maxDetailLength) (·.extra) |>.record

/-! ## Payloads of every type -/

/-- What a decoder makes of a whole payload; nothing may be left over. -/
def readPayload {α : Type} (reader : ByteReader α) (payload : Bytes) : Option α :=
  (ByteReader.readAll reader payload).toOption

/-- A payload whose reading leaves nothing over is read. -/
theorem readPayload_of_reads {α : Type} {reader : ByteReader α} {payload : Bytes} {value : α}
    (h : Reads reader payload value) : readPayload reader payload = some value := by
  have hall : ByteReader.readAll reader payload = .ok value := readAll_of_reads h _
  rw [readPayload, hall]
  rfl

/-- The types of payloads. -/
inductive PayloadType
  | hello | helloAck | evidence | transferIntent | transferReport | verifyReport | dataRequest
  | dataChunk | hostState | simple
  deriving DecidableEq

/-- A payload of any type. -/
inductive Payload
  | hello (v : HelloPayload)
  | helloAck (v : HelloAckPayload)
  | evidence (v : EvidencePayload)
  | transferIntent (v : TransferIntentPayload)
  | transferReport (v : TransferReportPayload)
  | verifyReport (v : VerifyReportPayload)
  | dataRequest (v : DataRequestPayload)
  | dataChunk (v : DataChunkPayload)
  | hostState (v : HostStatePayload)
  | simple (v : SimplePayload)
  deriving DecidableEq

namespace Payload

/-- The type of a payload. -/
def type : Payload → PayloadType
  | hello _ => .hello
  | helloAck _ => .helloAck
  | evidence _ => .evidence
  | transferIntent _ => .transferIntent
  | transferReport _ => .transferReport
  | verifyReport _ => .verifyReport
  | dataRequest _ => .dataRequest
  | dataChunk _ => .dataChunk
  | hostState _ => .hostState
  | simple _ => .simple

/-- What is written of a payload. -/
def encode : Payload → Bytes
  | hello v => HelloPayload.codec.encode v
  | helloAck v => HelloAckPayload.codec.encode v
  | evidence v => EvidencePayload.layout.encode v
  | transferIntent v => TransferIntentPayload.codec.encode v
  | transferReport v => TransferReportPayload.codec.encode v
  | verifyReport v => VerifyReportPayload.codec.encode v
  | dataRequest v => DataRequestPayload.codec.encode v
  | dataChunk v => (DataChunkPayload.codec 0).encode v
  | hostState v => (HostStatePayload.codec 0).encode v
  | simple v => SimplePayload.codec.encode v

/-- The decoder of a type; only the decoders of replica bytes are given a bound. -/
def read (maxBytes : Nat) (type : PayloadType) (payload : Bytes) : Option Payload :=
  match type with
  | .hello => (readPayload HelloPayload.codec.decode payload).map hello
  | .helloAck => (readPayload HelloAckPayload.codec.decode payload).map helloAck
  | .evidence => (readPayload EvidencePayload.layout.decode payload).map evidence
  | .transferIntent => (readPayload TransferIntentPayload.codec.decode payload).map transferIntent
  | .transferReport => (readPayload TransferReportPayload.codec.decode payload).map transferReport
  | .verifyReport => (readPayload VerifyReportPayload.codec.decode payload).map verifyReport
  | .dataRequest => (readPayload DataRequestPayload.codec.decode payload).map dataRequest
  | .dataChunk => (readPayload (DataChunkPayload.codec maxBytes).decode payload).map dataChunk
  | .hostState => (readPayload (HostStatePayload.codec maxBytes).decode payload).map hostState
  | .simple => (readPayload SimplePayload.codec.decode payload).map simple

/-- The payload is within the bounds its decoder declares. -/
def fits (maxBytes : Nat) : Payload → Bool
  | hello v => HelloPayload.codec.fits v
  | helloAck v => HelloAckPayload.codec.fits v
  | evidence v => EvidencePayload.layout.fits v
  | transferIntent v => TransferIntentPayload.codec.fits v
  | transferReport v => TransferReportPayload.codec.fits v
  | verifyReport v => VerifyReportPayload.codec.fits v
  | dataRequest v => DataRequestPayload.codec.fits v
  | dataChunk v => (DataChunkPayload.codec maxBytes).fits v
  | hostState v => (HostStatePayload.codec maxBytes).fits v
  | simple v => SimplePayload.codec.fits v

/-- The payload that reaches the other side. -/
def carried : Payload → Payload
  | evidence v => evidence v.carried
  | v => v

/-- A payload within the bounds is read as what reaches the other side. -/
theorem read_encode {v : Payload} (h : v.fits maxBytes = true) :
    read maxBytes v.type v.encode = some v.carried := by
  have hread {α : Type} {reader : ByteReader α} {bytes : Bytes} {value : α} (make : α → Payload)
      (hreads : Reads reader bytes value) :
      (readPayload reader bytes).map make = some (make value) :=
    congrArg (Option.map make) (readPayload_of_reads hreads)
  cases v <;> simp only [fits] at h <;> simp only [type, read, encode, carried]
  case hello v => exact hread hello (HelloPayload.codec.reads v h)
  case helloAck v => exact hread helloAck (HelloAckPayload.codec.reads v h)
  case evidence => exact hread evidence (EvidencePayload.reads h)
  case transferIntent v => exact hread transferIntent (TransferIntentPayload.codec.reads v h)
  case transferReport v => exact hread transferReport (TransferReportPayload.codec.reads v h)
  case verifyReport v => exact hread verifyReport (VerifyReportPayload.codec.reads v h)
  case dataRequest v => exact hread dataRequest (DataRequestPayload.codec.reads v h)
  case dataChunk v => exact hread dataChunk ((DataChunkPayload.codec maxBytes).reads v h)
  case hostState v => exact hread hostState ((HostStatePayload.codec maxBytes).reads v h)
  case simple v => exact hread simple (SimplePayload.codec.reads v h)

/-- Everything in the payload is on the wire. -/
def Plain : Payload → Prop
  | evidence v => v.Plain
  | _ => True

/-- A payload reaches the other side as it is when all of it is on the wire. -/
theorem carried_eq_iff {v : Payload} : v.carried = v ↔ v.Plain := by
  cases v with
  | evidence => simp only [carried, Plain, evidence.injEq, EvidencePayload.carried_eq_iff]
  | _ => simp [carried, Plain]

end Payload

end StateFabric
