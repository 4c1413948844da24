import StateFabric.Persistence.Format

/-!
# Frames

The framed protocol of `src/protocol.cpp`.  A frame is a header of eighty bytes and a payload.
The header carries the authority metadata of the message, the length and the checksum of the
payload, and a checksum of its own, computed with its own field zeroed.  Decoding refuses a
header whose magic number, version, message type, declared length or checksum is wrong, and a
payload that is not the one the header was made for.
-/

namespace StateFabric

open Reader

def frameMagic : UInt32 := 0x43435346
def protocolVersion : UInt16 := 1
def frameHeaderBytes : Nat := 80
def maxFramePayloadBytes : Nat := 8 * 1024 * 1024

/-- The kinds of messages. -/
inductive MessageType
  | invalid | hello | helloAck | evidence | evidenceAck | heartbeat | heartbeatAck
  | transferIntent | transferIntentAck | transferProgress | transferProgressAck
  | transferResult | transferResultAck | verifyResult | verifyResultAck | commitNotice
  | commitNoticeAck | revalidateNotice | revalidateNoticeAck | shutdown | shutdownAck
  | errorReport | dataRequest | dataChunk | hostState | hostStateAck | controlRequest
  | controlResponse
  deriving DecidableEq

-- The table is searched for the number of a message, so a message of type 0 is a valid one.
instance : WireEnum MessageType :=
  .numbered (fun
    | .invalid => 0 | .hello => 1 | .helloAck => 2 | .evidence => 3 | .evidenceAck => 4
    | .heartbeat => 5 | .heartbeatAck => 6 | .transferIntent => 10 | .transferIntentAck => 11
    | .transferProgress => 12 | .transferProgressAck => 13 | .transferResult => 14
    | .transferResultAck => 15 | .verifyResult => 16 | .verifyResultAck => 17
    | .commitNotice => 20 | .commitNoticeAck => 21 | .revalidateNotice => 22
    | .revalidateNoticeAck => 23 | .shutdown => 30 | .shutdownAck => 31 | .errorReport => 40
    | .dataRequest => 50 | .dataChunk => 51 | .hostState => 52 | .hostStateAck => 53
    | .controlRequest => 60 | .controlResponse => 61)
    MessageType.ofNat 28 (by rintro ⟨⟩ <;> rfl)

/-- The authority metadata every frame carries. -/
structure FrameHeader where
  protocolVersion : UInt16 := StateFabric.protocolVersion
  messageType : MessageType := .invalid
  flags : UInt32 := 0
  payloadLength : UInt32 := 0
  payloadCrc : UInt32 := 0
  coordinatorEpoch : CoordinatorEpoch := {}
  clusterId : ClusterId := {}
  clusterIncarnation : ClusterIncarnationId := {}
  workerId : WorkerId := {}
  workerBootId : WorkerBootId := {}
  operationGeneration : OperationGeneration := {}
  sequence : UInt64 := 0
  deriving DecidableEq

/-- A complete frame. -/
structure Frame where
  header : FrameHeader := {}
  payload : Bytes := []
  deriving DecidableEq

/-! ## Writing -/

namespace FrameHeader

/-- `encode_header_fields`. -/
def encodeFields (header : FrameHeader) : Bytes :=
  [ByteWriter.u32 frameMagic, ByteWriter.u16 header.protocolVersion,
   ByteWriter.u16 (WireEnum.code header.messageType), ByteWriter.u32 header.flags,
   ByteWriter.u32 header.payloadLength, ByteWriter.u32 header.payloadCrc,
   encodeId header.coordinatorEpoch, encodeId header.clusterId,
   encodeId header.clusterIncarnation, encodeId header.workerId, encodeId header.workerBootId,
   encodeId header.operationGeneration, ByteWriter.u64 header.sequence].flatten

/-- The checksum of a header, its own field zeroed. -/
def checksum (header : FrameHeader) : UInt32 :=
  crc32c (header.encodeFields ++ ByteWriter.u32 0)

/-- The eighty bytes of a header. -/
def image (header : FrameHeader) : Bytes :=
  header.encodeFields ++ ByteWriter.u32 header.checksum

end FrameHeader

/-- The header a frame is sent with. -/
def Frame.stamped (frame : Frame) : FrameHeader :=
  { frame.header with
    protocolVersion := protocolVersion
    payloadLength := UInt32.ofNat frame.payload.length
    payloadCrc := crc32c frame.payload }

def encodeFrame (frame : Frame) : Bytes := frame.stamped.image ++ frame.payload

/-- A frame as it goes out on a connection whose next sequence number is `nextSequence`: a frame
without a number of its own gets that one. -/
def Frame.outgoing (nextSequence : UInt64) (frame : Frame) : Frame :=
  if frame.header.sequence = 0 then
    { frame with header := { frame.header with sequence := nextSequence } }
  else frame

/-- `send_frame` on an open connection: the bytes it writes and the next sequence number. -/
def sendFrame (nextSequence : UInt64) (frame : Frame) : Bytes × UInt64 :=
  (encodeFrame (frame.outgoing nextSequence),
    if frame.header.sequence = 0 then nextSequence + 1 else nextSequence)

/-- Calls of `send_frame` one after the other. -/
def sendFrames (nextSequence : UInt64) : List Frame → Bytes × UInt64
  | [] => ([], nextSequence)
  | frame :: frames =>
    let (image, nextSequence) := sendFrame nextSequence frame
    let (images, nextSequence) := sendFrames nextSequence frames
    (image ++ images, nextSequence)

/-- The frames as such calls number them. -/
def outgoingFrames (nextSequence : UInt64) : List Frame → List Frame
  | [] => []
  | frame :: frames =>
    frame.outgoing nextSequence :: outgoingFrames (sendFrame nextSequence frame).2 frames

/-! ## Reading -/

/-- The fields of a header up to its payload checksum. -/
def readHeaderStart : ByteReader (UInt32 × UInt16 × UInt16 × UInt32 × UInt32 × UInt32) := do
  let magic ← ByteReader.u32
  let version ← ByteReader.u16
  let rawType ← ByteReader.u16
  let flags ← ByteReader.u32
  let payloadLength ← ByteReader.u32
  let payloadCrc ← ByteReader.u32
  pure (magic, version, rawType, flags, payloadLength, payloadCrc)

/-- The other fields of a header, put into it, and its checksum. -/
def readHeaderIdentities (header : FrameHeader) : ByteReader (FrameHeader × UInt32) := do
  let coordinatorEpoch ← decodeId
  let clusterId ← decodeId
  let clusterIncarnation ← decodeId
  let workerId ← decodeId
  let workerBootId ← decodeId
  let operationGeneration ← decodeId
  let sequence ← ByteReader.u64
  let checksum ← ByteReader.u32
  pure
    ({ header with
       coordinatorEpoch, clusterId, clusterIncarnation, workerId, workerBootId
       operationGeneration, sequence }, checksum)

/-- What a reader reads, refusing with `e` when it fails. -/
def readOr {α : Type} (reader : ByteReader α) (bytes : Bytes) (e : Error) : Result (α × Bytes) :=
  found (reader.run bytes).toOption e

def decodeFrameHeader (headerBytes : Bytes) : Result FrameHeader := do
  let truncated := makeError .frameTruncated (text "frame header is truncated")
  rejectIf (headerBytes.length != frameHeaderBytes)
    (makeError .frameTruncated (text "frame header has the wrong length"))
  let ((magic, version, rawType, flags, payloadLength, payloadCrc), rest) ←
    readOr readHeaderStart headerBytes truncated
  rejectIf (magic != frameMagic) (makeError .frameCorrupt (text "frame magic mismatch"))
  rejectIf (version != protocolVersion)
    (makeError .protocolUnsupported (text "unsupported protocol version"))
  let messageType ← found (WireEnum.ofCode rawType)
    (makeError .protocolUnsupported (text "unknown message type"))
  let ((header, checksum), _) ← readOr
    (readHeaderIdentities
      { protocolVersion := version, messageType, flags, payloadLength, payloadCrc })
    rest truncated
  rejectIf (decide (maxFramePayloadBytes < header.payloadLength.toNat))
    (makeError .frameTooLarge (text "declared payload exceeds the frame bound"))
  rejectIf (header.checksum != checksum)
    (makeError .frameCorrupt (text "frame header checksum mismatch"))
  pure header

def decodeFramePayload (header : FrameHeader) (payloadBytes : Bytes) : Result Bytes := do
  rejectIf (payloadBytes.length != header.payloadLength.toNat)
    (makeError .frameTruncated (text "frame payload length mismatch"))
  rejectIf (crc32c payloadBytes != header.payloadCrc)
    (makeError .frameCorrupt (text "frame payload checksum mismatch"))
  pure payloadBytes

def decodeFrame (image : Bytes) (maxPayload : Nat) : Result Frame := do
  rejectIf (decide (image.length < frameHeaderBytes))
    (makeError .frameTruncated (text "frame is shorter than its header"))
  let header ← decodeFrameHeader (image.take frameHeaderBytes)
  rejectIf (decide (maxPayload < header.payloadLength.toNat))
    (makeError .frameTooLarge (text "declared payload exceeds the receive bound"))
  rejectIf (image.length != frameHeaderBytes + header.payloadLength.toNat)
    (makeError .frameTruncated (text "frame image does not match its declared length"))
  let payload ← decodeFramePayload header (image.drop frameHeaderBytes)
  pure { header, payload }

/-! ## Receiving -/

/-- What a call of `recv` finds: bytes of the stream, of which it takes as many as were asked
for and leaves the others; nothing for now; or a failure of the socket.  When nothing is left
the stream has ended. -/
inductive Arrival
  | bytes (first : UInt8) (rest : Bytes)
  | wouldBlock
  | failure (socketError : Nat)
  deriving DecidableEq

/-- Why a buffer was not filled. -/
inductive Interruption
  /-- The stream ended with so many bytes in the buffer. -/
  | closed (received : Nat)
  | failed (socketError : Nat)
  deriving DecidableEq

/-- A loop of `receive_frame`: calls `recv` until as many bytes as wanted have been received. -/
def fillBuffer (wanted : Nat) (received : Bytes) :
    List Arrival → Except Interruption (Bytes × List Arrival)
  | [] =>
    if wanted ≤ received.length then .ok (received, []) else .error (.closed received.length)
  | arrival :: rest =>
    if wanted ≤ received.length then .ok (received, arrival :: rest)
    else
      match arrival with
      | .wouldBlock => fillBuffer wanted received rest
      | .failure socketError => .error (.failed socketError)
      | .bytes first more =>
        let missing := wanted - received.length
        -- Bytes are left over only when the buffer is full.
        match (first :: more).drop missing with
        | [] => fillBuffer wanted (received ++ (first :: more)) rest
        | next :: others =>
          .ok (received ++ (first :: more).take missing, .bytes next others :: rest)

def transportError (socketError : Nat) (message : Text) : Error :=
  { code := .transportIo, message, detail := text "socket error " ++ natText socketError }

/-- `receive_frame` on an open connection; the rest of the stream stays in the socket. -/
def receiveFrame (maxPayload : Nat) (socket : List Arrival) : Result (Frame × List Arrival) :=
  match fillBuffer frameHeaderBytes [] socket with
  | .error (.closed received) =>
    if received = 0 then
      .error (makeError .transportClosed (text "the peer closed the connection"))
    else .error (makeError .frameTruncated (text "the peer closed during a frame header"))
  | .error (.failed socketError) => .error (transportError socketError (text "receive failed"))
  | .ok (headerBytes, socket) => do
    let header ← decodeFrameHeader headerBytes
    rejectIf (decide (maxPayload < header.payloadLength.toNat))
      (makeError .frameTooLarge (text "the declared payload exceeds the receive bound"))
    match fillBuffer header.payloadLength.toNat [] socket with
    | .error (.closed _) =>
      .error (makeError .frameTruncated (text "the peer closed during a frame payload"))
    | .error (.failed socketError) =>
      .error (transportError socketError (text "receive failed"))
    | .ok (payload, socket) =>
      -- Unlike `decode_frame_payload`, this path does not check the checksum of no payload.
      rejectIf (!payload.isEmpty && crc32c payload != header.payloadCrc)
        (makeError .frameCorrupt (text "frame payload checksum mismatch"))
      pure ({ header, payload }, socket)

end StateFabric
