import StateFabric.Coordinator.Agent

/-!
# The data plane of an agent

The agent's side of a transfer, `src/cluster_agent.cpp`: the store of replica bytes, the loop that
streams a replica to a peer, the loop that pulls one, and the handlers that put into the store.
A call of the store is atomic but a stream is not: each round of the serving loop finds the store
as other threads left it.
-/

namespace StateFabric

/-! ## The store -/

/-- The bytes of a hosted replica and the digest measured of them. -/
structure StoredReplica where
  stateId : StateId := {}
  generation : StateGeneration := {}
  bytes : Bytes := []
  digest : Digest := {}
  deriving DecidableEq

abbrev ReplicaStore := Std.ExtTreeMap ReplicaId StoredReplica

namespace ReplicaStore

def put (store : ReplicaStore) (replica : ReplicaId) (stateId : StateId)
    (generation : StateGeneration) (bytes : Bytes) (digest : Digest) : ReplicaStore :=
  store.insert replica { stateId, generation, bytes, digest }

def sizeOf (store : ReplicaStore) (replica : ReplicaId) : Nat :=
  store[replica]?.elim 0 (·.bytes.length)

def digestOf (store : ReplicaStore) (replica : ReplicaId) : Digest :=
  store[replica]?.elim {} (·.digest)

/-- A length of zero asks for everything from the offset on. -/
def read (store : ReplicaStore) (replica : ReplicaId) (offset length : Nat) : Option Bytes :=
  store[replica]?.bind fun entry =>
    if entry.bytes.length < offset then none
    else
      let available := entry.bytes.length - offset
      let take := if length = 0 then available else min length available
      some ((entry.bytes.drop offset).take take)

end ReplicaStore

/-! ## Serving -/

def dataChunkBytes : Nat := 256 * 1024

/-- A request being served, with the digest and the size found when it arrived. -/
structure DataStream where
  request : DataRequestPayload
  digest : Digest
  total : Nat
  offset : Nat

namespace DataStream

/-- One round of the serving loop; `none` when the store no longer has the bytes. -/
def next (s : DataStream) (store : ReplicaStore) : Option (DataChunkPayload × DataStream) :=
  (store.read s.request.replicaId s.offset dataChunkBytes).map fun slice =>
    let offset := s.offset + slice.length
    ({ stateId := s.request.stateId, stateGeneration := s.request.stateGeneration
       replicaId := s.request.replicaId, offset := UInt64.ofNat s.offset
       last := if s.total ≤ offset then 1 else 0, digest := s.digest, bytes := slice },
     { s with offset })

/-- The chunks sent when the rounds of the loop find these stores. -/
def chunks : List ReplicaStore → DataStream → List DataChunkPayload
  | [], _ => []
  | store :: stores, s =>
    if s.offset < s.total then
      match s.next store with
      | some (chunk, s) => chunk :: chunks stores s
      | none => []
    else []

end DataStream

def DataChunkPayload.frame (chunk : DataChunkPayload) : Frame :=
  { header := { messageType := .dataChunk }, payload := (DataChunkPayload.codec 0).encode chunk }

/-- The DATA_REQUEST branch of `handle_data_connection`; `digest_of` and `size_of` are calls of
their own. -/
def serveData (atDigest atSize : ReplicaStore) (stores : List ReplicaStore)
    (request : DataRequestPayload) : List Frame :=
  let total := atSize.sizeOf request.replicaId
  if total = 0 then
    [DataChunkPayload.frame
      { stateId := request.stateId, stateGeneration := request.stateGeneration
        replicaId := request.replicaId, last := 1 }]
  else
    (DataStream.chunks stores ⟨request, atDigest.digestOf request.replicaId, total,
      request.offset.toNat⟩).map DataChunkPayload.frame

/-! ## Pulling -/

/-- What `pull_from_peer` asks its peer for. -/
def TransferIntentPayload.dataRequest (intent : TransferIntentPayload) : DataRequestPayload :=
  { stateId := intent.stateId, stateGeneration := intent.stateGeneration
    replicaId := intent.sourceReplica }

/-- The loop of `pull_from_peer` over the frames that arrive before the connection fails with
`closing`; `receive_frame` refuses a frame over the payload bound, and `progress` is how the report
after the first chunk is sent. -/
def pullChunks (maximum : Nat) (intent : TransferIntentPayload) (closing : Error)
    (progress : Result Unit) : List Frame → Bytes → Sha256 → Bool → Result (Bytes × Digest)
  | [], _, _, _ => .error closing
  | frame :: frames, bytes, hasher, reported => do
    rejectIf (decide (maximum < frame.payload.length))
      (makeError .frameTooLarge (text "the declared payload exceeds the receive bound"))
    rejectIf (frame.header.messageType != .dataChunk)
      (makeError .protocolUnsupported (text "expected a data chunk"))
    let chunk ← found (readPayload (DataChunkPayload.codec maximum).decode frame.payload)
      (malformed "data chunk")
    rejectIf (chunk.replicaId != intent.sourceReplica)
      (makeError .frameCorrupt (text "data chunk names a different replica"))
    rejectIf (chunk.bytes.isEmpty && chunk.last == 1)
      (makeError .transferFailed (text "the source does not host the requested replica bytes"))
    let hasher := hasher.update chunk.bytes
    let bytes := bytes ++ chunk.bytes
    (if reported then .ok () else progress)
    if chunk.last == 1 then
      rejectIf (intent.payloadBytes != 0 && bytes.length != intent.payloadBytes.toNat)
        (makeError .transferIncomplete
          (text "the received byte count does not match the authorized length"))
      pure (bytes, hasher.finalize)
    else
      rejectIf (maximum < bytes.length)
        (makeError .frameTooLarge (text "the transfer exceeded the payload bound"))
      pullChunks maximum intent closing progress frames bytes hasher true

/-! ## Handlers -/

/-- What makes an agent put into its store. -/
inductive StoreEvent
  | hosted (host : HostStatePayload)
  | pushed (host : HostStatePayload)
  | transfer (maximum : Nat) (intent : TransferIntentPayload) (closing : Error)
      (progress : Result Unit) (frames : List Frame)

/-- The HOST_STATE branch of `handle_data_connection`, with its acknowledgement. -/
def hostState (store : ReplicaStore) (host : HostStatePayload) : ReplicaStore × SimplePayload :=
  let measured := sha256 host.bytes
  if measured != host.expectedDigest && host.expectedDigest.valid then
    (store, { ok := 0, code := ErrorCode.integrityMismatch.number
              detail := text "hosted bytes do not match the declared digest" })
  else
    (store.put host.replicaId host.stateId host.stateGeneration host.bytes measured,
     { ok := 1, code := ErrorCode.ok.number, detail := measured.hex })

/-- The store after a HOST_STATE on a data connection, one on the control connection, which does not
look at the declared digest, and a TRANSFER_INTENT. -/
def ReplicaStore.after (store : ReplicaStore) : StoreEvent → ReplicaStore
  | .hosted host => (hostState store host).1
  | .pushed host =>
    store.put host.replicaId host.stateId host.stateGeneration host.bytes (sha256 host.bytes)
  | .transfer maximum intent closing progress frames =>
    match pullChunks maximum intent closing progress frames [] {} false with
    | .error _ => store
    | .ok (bytes, measured) =>
      store.put intent.destinationReplica intent.stateId intent.stateGeneration bytes measured

end StateFabric
