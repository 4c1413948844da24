import StateFabric.Agent.DataPlane
import StateFabric.Library.Transition

/-!
# Transfers between agents

A digest does not depend on the pieces the bytes come in.  The digest an agent stores and reports
is always that of the bytes it holds, whatever frames it was sent.  A replica that stays in its
store while it is streamed is pulled byte for byte, whatever happens to the other replicas between
two chunks.
-/

namespace StateFabric

open Transition

/-! ## Hashing in pieces -/

namespace Sha256

/-- Absorption works on the state and the buffer alone. -/
theorem foldl_absorb (data : List UInt8) (state : Words) (buffer : List UInt8) :
    ∃ state' buffer', ∀ total finalized, data.foldl absorb ⟨state, buffer, total, finalized⟩
      = ⟨state', buffer', total, finalized⟩ := by
  induction data generalizing state buffer with
  | nil => exact ⟨state, buffer, fun _ _ => rfl⟩
  | cons byte data ih =>
    simp only [List.foldl_cons, absorb]
    split
    · exact ih _ _
    · exact ih _ _

theorem update_update (hasher : Sha256) (a b : List UInt8) :
    (hasher.update a).update b = hasher.update (a ++ b) := by
  obtain ⟨state, buffer, total, finalized⟩ := hasher
  obtain ⟨state', buffer', h⟩ := foldl_absorb a state buffer
  cases finalized with
  | true => rfl
  | false => simp [update, h, List.foldl_append, UInt64.ofNat_add, add_assoc]

theorem foldl_absorb_piece {piece : List UInt8} (present : piece ≠ []) {hasher : Sha256}
    (room : hasher.buffer.length + piece.length ≤ 64) :
    piece.foldl absorb hasher = hasher.push piece := by
  induction piece generalizing hasher with
  | nil => exact absurd rfl present
  | cons byte piece ih =>
    cases piece with
    | nil => rfl
    | cons next piece =>
      simp only [List.length_cons] at room
      have hopen : ¬ (hasher.buffer ++ [byte]).length = 64 := by simp; omega
      rw [List.foldl_cons, absorb, if_neg hopen, ih (by simp) (by simp; omega)]
      simp [push]

theorem unfinished_foldl_absorb {hasher : Sha256} (unfinished : hasher.buffer.length < 64)
    (data : List UInt8) : (data.foldl absorb hasher).buffer.length < 64 := by
  induction data generalizing hasher with
  | nil => exact unfinished
  | cons byte data ih =>
    apply ih
    dsimp only [absorb]
    split
    · exact Nat.zero_lt_succ _
    · simp at *
      omega

theorem fill_eq {rounds : Nat} {hasher : Sha256} (unfinished : hasher.buffer.length < 64)
    {data : List UInt8} (enough : data.length ≤ rounds) :
    fill rounds hasher data = data.foldl absorb hasher := by
  induction rounds generalizing hasher data with
  | zero => rw [List.length_eq_zero_iff.mp (Nat.le_zero.mp enough), fill, List.foldl_nil]
  | succ rounds ih =>
    rw [fill]
    split
    · rename_i hempty
      rw [hempty, List.foldl_nil]
    · rename_i hpresent
      have hpositive := List.length_pos_iff.mpr hpresent
      dsimp only
      generalize htake : min data.length (64 - hasher.buffer.length) = take
      have hlength : (data.take take).length = take := List.length_take_of_le (by omega)
      rw [← foldl_absorb_piece (List.length_pos_iff.mp (by omega)) (by omega),
        ih (unfinished_foldl_absorb unfinished _) (by rw [List.length_drop]; omega),
        ← List.foldl_append, List.take_append_drop]

theorem updateBlocks_eq {hasher : Sha256} (unfinished : hasher.buffer.length < 64)
    (data : List UInt8) : hasher.updateBlocks data = hasher.update data := by
  unfold updateBlocks update
  split
  · rfl
  · exact fill_eq (by exact unfinished) le_rfl

end Sha256

/-- However a string is split into calls of `update`, the digest is that of the whole string. -/
theorem sha256_of_pieces (pieces : List (List UInt8)) :
    (pieces.foldl Sha256.updateBlocks {}).finalize = sha256 pieces.flatten := by
  suffices h : ∀ whole : List UInt8, pieces.foldl Sha256.updateBlocks (({} : Sha256).update whole)
      = ({} : Sha256).update (whole ++ pieces.flatten) from congrArg Sha256.finalize (h [])
  induction pieces with
  | nil => simp
  | cons piece pieces ih =>
    intro whole
    have hunfinished : (({} : Sha256).update whole).buffer.length < 64 :=
      Sha256.unfinished_foldl_absorb (by simp) whole
    rw [List.foldl_cons, Sha256.updateBlocks_eq hunfinished, Sha256.update_update, ih,
      List.flatten_cons, List.append_assoc]

variable {maximum : Nat} {intent : TransferIntentPayload} {closing : Error}
  {progress : Result Unit} {bytes : Bytes} {reported : Bool}

/-- Whatever frames arrive, the digest of a pull is that of the bytes it returns. -/
theorem pullChunks_digest {frames : List Frame} {result : Bytes × Digest}
    (h : pullChunks maximum intent closing progress frames bytes (({} : Sha256).update bytes)
      reported = .ok result) : result.2 = sha256 result.1 := by
  induction frames generalizing bytes reported with
  | nil => cases h
  | cons frame frames ih =>
    simp only [pullChunks, rejectIf_bind_eq_ok, found_bind_eq_ok, Sha256.update_update] at h
    obtain ⟨-, -, chunk, -, -, -, h⟩ := h
    rw [bind_eq_ok] at h
    obtain ⟨-, -, h⟩ := h
    split at h
    · rw [rejectIf_bind_eq_ok] at h
      rw [← Except.ok.inj h.2]
      rfl
    · rw [rejectIf_bind_eq_ok] at h
      exact ih h.2

/-! ## What a store holds -/

namespace ReplicaStore

/-- Every replica is stored with the digest of its bytes. -/
def Measured (store : ReplicaStore) : Prop :=
  ∀ (k : ReplicaId) (entry : StoredReplica), store[k]? = some entry →
    entry.digest = sha256 entry.bytes

theorem Measured.put {store : ReplicaStore} (h : store.Measured) (k : ReplicaId)
    (stateId : StateId) (generation : StateGeneration) {digest : Digest}
    (measured : digest = sha256 bytes) :
    (store.put k stateId generation bytes digest).Measured := by
  intro k' entry hentry
  rw [ReplicaStore.put, Std.ExtTreeMap.getElem?_insert] at hentry
  split at hentry
  · rw [← Option.some.inj hentry]
    exact measured
  · exact h k' entry hentry

theorem read_chunk {store : ReplicaStore} {k : ReplicaId} {entry : StoredReplica}
    (held : store[k]? = some entry) {offset : Nat} (started : offset < entry.bytes.length) :
    store.read k offset dataChunkBytes = some ((entry.bytes.drop offset).take dataChunkBytes) := by
  have hshort : ¬ entry.bytes.length < offset := by omega
  have hnonzero : dataChunkBytes ≠ 0 := by decide
  simp only [read, held, Option.bind_some, if_neg hshort, if_neg hnonzero]
  rw [← List.length_drop, ← List.take_take, List.take_length]

end ReplicaStore

/-- In every run of an agent, whatever its peers and the coordinator send, each replica it holds is
stored with the SHA-256 digest of its bytes. -/
theorem stored_digest_measured {store : ReplicaStore}
    (reachable : Reachable (· = ∅) (fun store e store' => store' = store.after e) store) :
    store.Measured := by
  refine reachable.invariant (fun store hempty k entry hentry => ?_) ?_
  · simp [hempty] at hentry
  rintro store e store' rfl h
  cases e with
  | hosted host =>
    rw [ReplicaStore.after, hostState]
    split
    · exact h
    · exact h.put _ _ _ rfl
  | pushed host => exact h.put _ _ _ rfl
  | transfer maximum intent closing progress frames =>
    rw [ReplicaStore.after]
    split
    · exact h
    · rename_i pulled
      exact h.put _ _ _ (pullChunks_digest pulled)

/-! ## Pulling what is served -/

namespace DataChunkPayload

/-- What the payload of a chunk takes besides the bytes of the replica. -/
def overhead : Nat := 72

theorem length_payload {chunk : DataChunkPayload} (short : chunk.bytes.length ≤ 4294967295) :
    chunk.frame.payload.length = overhead + chunk.bytes.length := by
  have hwritten : chunk.frame.payload = encodeId chunk.stateId
      ++ (encodeId chunk.stateGeneration ++ (encodeId chunk.replicaId
      ++ (ByteWriter.u64 chunk.offset ++ (ByteWriter.u32 chunk.last
      ++ (chunk.digest.bytes.toList ++ (ByteWriter.blob chunk.bytes ++ [])))))) := rfl
  rw [hwritten, ByteWriter.blob, if_neg (by omega)]
  simp [encodeId, ByteWriter.u64, ByteWriter.u32, overhead]
  omega

theorem read_frame {chunk : DataChunkPayload} (last : chunk.last ≤ 1)
    (short : chunk.bytes.length ≤ min maximum 4294967295) :
    readPayload (codec maximum).decode chunk.frame.payload = some chunk := by
  refine readPayload_of_reads ((codec maximum).reads chunk ?_)
  have hfits : (codec maximum).fits chunk
      = (decide (chunk.last ≤ 1) && ByteReader.textFits maximum chunk.bytes) := by
    simp [codec, Layout.record, Layout.fits, Layout.field, Layout.check, Layout.start, Codec.pair,
      Codec.check, Codec.unit, Codec.total, ByteCodec.ident, ByteCodec.u64, ByteCodec.u32,
      ByteCodec.nested, ByteCodec.blob, Wire.codec]
  rw [hfits, ByteReader.textFits, decide_eq_true last, Bool.true_and, decide_eq_true_eq]
  exact short

end DataChunkPayload

section Pulled

variable {entry : StoredReplica} (bound : entry.bytes.length ≤ maximum)
  (framed : DataChunkPayload.overhead + min entry.bytes.length dataChunkBytes ≤ maximum)
  (authorized : intent.payloadBytes = 0 ∨ intent.payloadBytes.toNat = entry.bytes.length)
  {stores : List ReplicaStore}

include bound framed authorized

/-- The rest of a replica is pulled after its prefix, by induction on the rounds of the loop. -/
theorem pullChunks_chunks (held : ∀ store ∈ stores, store[intent.sourceReplica]? = some entry)
    {digest : Digest} {offset : Nat} (started : offset < entry.bytes.length)
    (enough : entry.bytes.length ≤ offset + stores.length * dataChunkBytes) :
    pullChunks maximum intent closing (.ok ())
      ((DataStream.chunks stores ⟨intent.dataRequest, digest, entry.bytes.length, offset⟩).map
        DataChunkPayload.frame) (entry.bytes.take offset)
      (({} : Sha256).update (entry.bytes.take offset)) reported
      = .ok (entry.bytes, sha256 entry.bytes) := by
  induction stores generalizing offset reported with
  | nil => simp at enough; omega
  | cons store stores ih =>
    have hread := ReplicaStore.read_chunk (held store List.mem_cons_self) started
    have hpulled : entry.bytes.take offset ++ (entry.bytes.drop offset).take dataChunkBytes
        = entry.bytes.take (offset + ((entry.bytes.drop offset).take dataChunkBytes).length) := by
      rw [List.take_add, ← List.prefix_iff_eq_take.mp (List.take_prefix ..)]
    have hlength := List.length_take (i := dataChunkBytes) (l := entry.bytes.drop offset)
    rw [List.length_drop] at hlength
    generalize (entry.bytes.drop offset).take dataChunkBytes = slice at hread hpulled hlength
    unfold dataChunkBytes at hlength enough framed
    rw [DataStream.chunks, if_pos started, DataStream.next,
      show intent.dataRequest.replicaId = intent.sourceReplica from rfl, hread]
    have hshort : slice.length ≤ min maximum 4294967295 := by omega
    refine rejectIf_bind_eq_ok.mpr ⟨?_, rejectIf_bind_eq_ok.mpr ⟨rfl, found_bind_eq_ok.mpr ⟨_,
      DataChunkPayload.read_frame ?_ hshort, ?_⟩⟩⟩
    · rw [DataChunkPayload.length_payload (hshort.trans (Nat.min_le_right ..)),
        decide_eq_false_iff_not]
      dsimp only
      omega
    · dsimp only
      split <;> decide
    refine rejectIf_bind_eq_ok.mpr ⟨bne_self_eq_false _, rejectIf_bind_eq_ok.mpr ⟨?_, ?_⟩⟩
    · have hempty : slice ≠ [] := List.length_pos_iff.mp (by omega)
      simp [hempty]
    refine bind_eq_ok.mpr ⟨(), by cases reported <;> rfl, ?_⟩
    simp only [Sha256.update_update, hpulled]
    -- The chunk that reaches the size found on arrival is the one marked as the last.
    by_cases hlast : entry.bytes.length ≤ offset + slice.length
    · rw [if_pos (by simp [hlast]), List.take_of_length_le hlast]
      refine rejectIf_bind_eq_ok.mpr ⟨?_, rfl⟩
      rcases authorized with hnone | hwhole <;> simp [*]
    · rw [if_neg (by simp [hlast])]
      refine rejectIf_bind_eq_ok.mpr ⟨?_, ih (fun w hw => held w (List.mem_cons_of_mem _ hw)) ?_ ?_⟩
      · rw [decide_eq_false_iff_not, List.length_take]
        omega
      · omega
      · rw [List.length_cons] at enough
        unfold dataChunkBytes
        omega

/-- A replica is pulled as it is stored, with its digest, while other replicas come and go: every
store that the serving loop finds holds it, the loop has as many rounds as there are chunks, and
neither the replica nor the payload of a chunk is over the bound of the pulling agent. -/
theorem pull_returns_stored (nonempty : entry.bytes ≠ []) {atDigest atSize : ReplicaStore}
    (held : ∀ store ∈ atSize :: stores, store[intent.sourceReplica]? = some entry)
    (enough : entry.bytes.length ≤ stores.length * dataChunkBytes) :
    pullChunks maximum intent closing (.ok ())
      (serveData atDigest atSize stores intent.dataRequest) [] {} false
      = .ok (entry.bytes, sha256 entry.bytes) := by
  have hsize : atSize.sizeOf intent.dataRequest.replicaId = entry.bytes.length := by
    rw [ReplicaStore.sizeOf, TransferIntentPayload.dataRequest, held atSize List.mem_cons_self]
    rfl
  have hpositive := List.length_pos_iff.mpr nonempty
  rw [serveData, hsize, if_neg (by omega)]
  exact pullChunks_chunks bound framed authorized (fun w hw => held w (List.mem_cons_of_mem _ hw))
    hpositive (by omega)

end Pulled

theorem pull_returns_stored_of_three_bytes :
    let intent : TransferIntentPayload := { sourceReplica := ⟨3⟩ }
    let store := ReplicaStore.after ∅ (.pushed { replicaId := ⟨3⟩, bytes := [1, 2, 3] })
    pullChunks 75 intent (malformed "") (.ok ()) (serveData ∅ store [store] intent.dataRequest)
      [] {} false = .ok ([1, 2, 3], sha256 [1, 2, 3]) := by
  intro intent store
  have hheld : ∀ held ∈ [store, store], held[intent.sourceReplica]?
      = some ⟨{}, {}, [1, 2, 3], sha256 [1, 2, 3]⟩ := by
    simp [intent, store, ReplicaStore.after, ReplicaStore.put]
  exact pull_returns_stored (by decide) (by decide) (.inl rfl) (by decide) hheld (by decide)

/-- A replica that a peer holds is pulled into an empty store. -/
theorem stored_digest_measured_of_pull :
    let intent : TransferIntentPayload := { sourceReplica := ⟨3⟩, destinationReplica := ⟨4⟩ }
    let peer := ReplicaStore.after ∅ (.pushed { replicaId := ⟨3⟩, bytes := [1, 2, 3] })
    let store := ReplicaStore.after ∅ (.transfer 75 intent (malformed "") (.ok ())
      (serveData peer peer [peer] intent.dataRequest))
    store[(⟨4⟩ : ReplicaId)]?.map (·.bytes) = some [1, 2, 3] ∧ store.Measured := by
  intro intent peer store
  let entry : StoredReplica := ⟨{}, {}, [1, 2, 3], sha256 [1, 2, 3]⟩
  have hheld : peer[intent.sourceReplica]? = some entry := by
    simp [intent, peer, entry, ReplicaStore.after, ReplicaStore.put]
  have hchunks : pullChunks 75 intent (malformed "") (.ok ())
      ((DataStream.chunks [peer] ⟨intent.dataRequest, peer.digestOf ⟨3⟩, entry.bytes.length, 0⟩).map
        DataChunkPayload.frame) (entry.bytes.take 0) (({} : Sha256).update (entry.bytes.take 0)) false
      = .ok (entry.bytes, sha256 entry.bytes) :=
    pullChunks_chunks (by decide) (by decide) (.inl rfl) (by simpa using hheld) (by decide)
      (by decide)
  have hpulled : pullChunks 75 intent (malformed "") (.ok ())
      (serveData peer peer [peer] intent.dataRequest) [] {} false
      = .ok ([1, 2, 3], sha256 [1, 2, 3]) := by
    have hsize : peer.sizeOf intent.dataRequest.replicaId = 3 := by
      rw [ReplicaStore.sizeOf, show intent.dataRequest.replicaId = intent.sourceReplica from rfl,
        hheld]
      rfl
    rw [serveData, hsize]
    exact hchunks
  refine ⟨?_, stored_digest_measured (.tail (.of_init rfl) (e := .transfer ..) rfl)⟩
  simp only [store, ReplicaStore.after, hpulled]
  simp [ReplicaStore.put, intent]

end StateFabric
