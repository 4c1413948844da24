import StateFabric.Refinement.Format
import StateFabric.Transport.Frame

/-!
# What frames hold

The header decoder accepts the image of a header and nothing else (`decodeFrameHeader_eq_ok`), and
the frame decoder the image of a header followed by the payload it was made for
(`decodeFrame_eq_ok`).  The receive loop gives the bytes that were asked for, however the stream
was split (`fillBuffer_eq`).
-/

namespace StateFabric

open Reader

variable {socket : List Arrival} {bytes rest : Bytes} {frame : Frame} {maxPayload wanted : Nat}
  {header : FrameHeader}

/-! ## Headers -/

theorem readOr_eq_ok {α : Type} {reader : ByteReader α} {e : Error} {found : α × Bytes} :
    readOr reader bytes e = .ok found ↔ reader.run bytes = .ok found := by
  rw [readOr, found_eq_ok]
  cases reader.run bytes <;> simp [Except.toOption]

namespace FrameHeader

variable (header : FrameHeader)

theorem length_encodeFields : header.encodeFields.length = 76 := rfl

theorem length_image : header.image.length = frameHeaderBytes := rfl

theorem image_eq_parts : header.image
    = [ByteWriter.u32 frameMagic, ByteWriter.u16 header.protocolVersion,
        ByteWriter.u16 (WireEnum.code header.messageType), ByteWriter.u32 header.flags,
        ByteWriter.u32 header.payloadLength, ByteWriter.u32 header.payloadCrc].flatten
      ++ [encodeId header.coordinatorEpoch, encodeId header.clusterId,
        encodeId header.clusterIncarnation, encodeId header.workerId,
        encodeId header.workerBootId, encodeId header.operationGeneration,
        ByteWriter.u64 header.sequence, ByteWriter.u32 header.checksum].flatten := by
  rw [image, encodeFields]
  generalize ByteWriter.u32 header.checksum = sum
  simp only [List.flatten_cons, List.flatten_nil, List.append_assoc, List.append_nil]

theorem run_readHeaderStart (rest : Bytes) :
    readHeaderStart.run (header.encodeFields ++ rest)
      = .ok ((frameMagic, header.protocolVersion, WireEnum.code header.messageType, header.flags,
          header.payloadLength, header.payloadCrc),
        [encodeId header.coordinatorEpoch, encodeId header.clusterId,
          encodeId header.clusterIncarnation, encodeId header.workerId,
          encodeId header.workerBootId, encodeId header.operationGeneration,
          ByteWriter.u64 header.sequence].flatten ++ rest) := by
  simp only [readHeaderStart, encodeFields, ↓run_u32, ↓run_u16, run_pure]

theorem run_readHeaderIdentities (checksum : UInt32) :
    (readHeaderIdentities
        { protocolVersion := header.protocolVersion, messageType := header.messageType,
          flags := header.flags, payloadLength := header.payloadLength,
          payloadCrc := header.payloadCrc }).run
      ([encodeId header.coordinatorEpoch, encodeId header.clusterId,
          encodeId header.clusterIncarnation, encodeId header.workerId,
          encodeId header.workerBootId, encodeId header.operationGeneration,
          ByteWriter.u64 header.sequence].flatten ++ ByteWriter.u32 checksum)
      = .ok ((header, checksum), []) := by
  have hlast : ByteReader.u32.run (ByteWriter.u32 checksum) = .ok (checksum, []) := by
    have hread := ByteReader.reads_u32 checksum []
    rwa [List.append_nil] at hread
  simp only [readHeaderIdentities]
  simp only [↓run_id, ↓run_u64, List.flatten_nil, List.nil_append]
  simp only [run_bind, hlast, run_pure]

end FrameHeader

theorem bytes_of_readHeaderStart {magic : UInt32} {version rawType : UInt16}
    {flags payloadLength payloadCrc : UInt32} (h : readHeaderStart.run bytes
      = .ok ((magic, version, rawType, flags, payloadLength, payloadCrc), rest)) :
    bytes = [ByteWriter.u32 magic, ByteWriter.u16 version, ByteWriter.u16 rawType,
      ByteWriter.u32 flags, ByteWriter.u32 payloadLength,
      ByteWriter.u32 payloadCrc].flatten ++ rest := by
  simp only [readHeaderStart, run_bind_eq_ok, run_pure, Except.ok.injEq, Prod.mk.injEq] at h
  obtain ⟨_, _, hmagic, _, _, hversion, _, _, htype, _, _, hflags, _, _, hlength, _, _, hcrc,
    ⟨rfl, rfl, rfl, rfl, rfl, rfl⟩, rfl⟩ := h
  rw [ByteReader.spells_u32 _ _ _ hmagic, ByteReader.spells_u16 _ _ _ hversion,
    ByteReader.spells_u16 _ _ _ htype, ByteReader.spells_u32 _ _ _ hflags,
    ByteReader.spells_u32 _ _ _ hlength, ByteReader.spells_u32 _ _ _ hcrc]
  simp only [List.flatten_cons, List.flatten_nil, List.append_assoc, List.nil_append]

theorem bytes_of_readHeaderIdentities {base : FrameHeader} {checksum : UInt32}
    (h : (readHeaderIdentities base).run bytes = .ok ((header, checksum), rest)) :
    header = { base with
        coordinatorEpoch := header.coordinatorEpoch, clusterId := header.clusterId,
        clusterIncarnation := header.clusterIncarnation, workerId := header.workerId,
        workerBootId := header.workerBootId, operationGeneration := header.operationGeneration,
        sequence := header.sequence }
      ∧ bytes = [encodeId header.coordinatorEpoch, encodeId header.clusterId,
        encodeId header.clusterIncarnation, encodeId header.workerId,
        encodeId header.workerBootId, encodeId header.operationGeneration,
        ByteWriter.u64 header.sequence, ByteWriter.u32 checksum].flatten ++ rest := by
  simp only [readHeaderIdentities, run_bind_eq_ok, run_pure, Except.ok.injEq, Prod.mk.injEq] at h
  obtain ⟨_, _, hepoch, _, _, hcluster, _, _, hincarnation, _, _, hworker, _, _, hboot, _, _,
    hgeneration, _, _, hsequence, _, _, hchecksum, ⟨rfl, rfl⟩, rfl⟩ := h
  refine ⟨rfl, ?_⟩
  rw [spells_id _ _ _ hepoch, spells_id _ _ _ hcluster, spells_id _ _ _ hincarnation,
    spells_id _ _ _ hworker, spells_id _ _ _ hboot, spells_id _ _ _ hgeneration,
    ByteReader.spells_u64 _ _ _ hsequence, ByteReader.spells_u32 _ _ _ hchecksum]
  simp only [List.flatten_cons, List.flatten_nil, List.append_assoc, List.nil_append]

/-- What the header decoder accepts: the image of a header of the right version whose payload is
not too long. -/
theorem decodeFrameHeader_eq_ok :
    decodeFrameHeader bytes = .ok header ↔
      bytes = header.image ∧ header.protocolVersion = protocolVersion
        ∧ header.payloadLength.toNat ≤ maxFramePayloadBytes := by
  rw [decodeFrameHeader, rejectIf_bind_eq_ok, bind_eq_ok]
  simp only [readOr_eq_ok, Prod.exists, ↓rejectIf_bind_eq_ok, ↓found_bind_eq_ok, bind_eq_ok,
    pure_eq_ok]
  constructor
  · rintro ⟨hlength, magic, version, rawType, flags, payloadLength, payloadCrc, rest, hstart,
      hmagic, hversion, messageType, htype, read, checksum, leftover, hidentities, hbounded,
      hchecksum, rfl⟩
    have hbytes := bytes_of_readHeaderStart hstart
    obtain ⟨hread, hrest⟩ := bytes_of_readHeaderIdentities hidentities
    have hcode : WireEnum.code read.messageType = rawType := by
      rw [congrArg FrameHeader.messageType hread]
      exact WireEnum.code_of_ofCode htype
    obtain rfl : magic = frameMagic := by simpa using hmagic
    obtain rfl : read.checksum = checksum := by simpa using hchecksum
    obtain rfl : read.protocolVersion = version := congrArg FrameHeader.protocolVersion hread
    obtain rfl : read.flags = flags := congrArg FrameHeader.flags hread
    obtain rfl : read.payloadLength = payloadLength := congrArg FrameHeader.payloadLength hread
    obtain rfl : read.payloadCrc = payloadCrc := congrArg FrameHeader.payloadCrc hread
    have himage : bytes = read.image ++ leftover := by
      rw [hbytes, hrest, ← hcode, read.image_eq_parts, List.append_assoc]
    -- The header takes all of the eighty bytes.
    have hleftover : leftover = [] := by
      have hlength : bytes.length = frameHeaderBytes := by simpa using hlength
      rw [himage, List.length_append, read.length_image] at hlength
      exact List.length_eq_zero_iff.mp (by omega)
    rw [hleftover, List.append_nil] at himage
    exact ⟨himage, by simpa using hversion, by simpa using hbounded⟩
  · rintro ⟨rfl, hversion, hbounded⟩
    have hlength : (header.image.length != frameHeaderBytes) = false := by
      simp [header.length_image]
    have hstart := header.run_readHeaderStart (ByteWriter.u32 header.checksum)
    rw [← FrameHeader.image] at hstart
    have hchecksum : (header.checksum != header.checksum) = false := bne_self_eq_false' ..
    exact ⟨hlength, _, _, _, _, _, _, _, hstart, by simp, by simp [hversion], header.messageType,
      WireEnum.ofCode_code _, _, _, _, header.run_readHeaderIdentities _, by simpa using hbounded,
      hchecksum, rfl⟩

/-! ## Frames -/

theorem decodeFramePayload_eq_ok {payload : Bytes} :
    decodeFramePayload header bytes = .ok payload ↔
      payload = bytes ∧ bytes.length = header.payloadLength.toNat
        ∧ crc32c bytes = header.payloadCrc := by
  simp only [decodeFramePayload, ↓rejectIf_bind_eq_ok, pure_eq_ok, bne_eq_false_iff_eq]
  constructor
  · rintro ⟨hlength, hcrc, rfl⟩
    exact ⟨rfl, hlength, hcrc⟩
  · rintro ⟨rfl, hlength, hcrc⟩
    exact ⟨hlength, hcrc, rfl⟩

/-- A payload that belongs to a header: of the length and with the checksum it declares. -/
def Frame.Sealed (frame : Frame) : Prop :=
  frame.payload.length = frame.header.payloadLength.toNat
    ∧ crc32c frame.payload = frame.header.payloadCrc

/-- What the frame decoder accepts: the image of a header it accepts, followed by the payload that
belongs to it, within the bound. -/
theorem decodeFrame_eq_ok {image : Bytes} :
    decodeFrame image maxPayload = .ok frame ↔
      image = frame.header.image ++ frame.payload
        ∧ frame.header.protocolVersion = protocolVersion
        ∧ frame.header.payloadLength.toNat ≤ min maxFramePayloadBytes maxPayload
        ∧ frame.Sealed := by
  rw [decodeFrame, rejectIf_bind_eq_ok, bind_eq_ok]
  simp only [↓rejectIf_bind_eq_ok, bind_eq_ok, decodeFrameHeader_eq_ok, decodeFramePayload_eq_ok,
    pure_eq_ok, decide_eq_false_iff_not, bne_eq_false_iff_eq, Nat.not_lt]
  constructor
  · rintro ⟨-, header, ⟨hheader, hversion, hbounded⟩, hmax, hlength, payload, ⟨rfl, hsealed⟩, rfl⟩
    refine ⟨?_, hversion, le_min hbounded hmax, hsealed⟩
    rw [← hheader, List.take_append_drop]
  · rintro ⟨rfl, hversion, hbounded, hsealed⟩
    have htake : (frame.header.image ++ frame.payload).take frameHeaderBytes
        = frame.header.image := List.take_left' frame.header.length_image
    have hdrop : (frame.header.image ++ frame.payload).drop frameHeaderBytes
        = frame.payload := List.drop_left' frame.header.length_image
    have hlength : (frame.header.image ++ frame.payload).length
        = frameHeaderBytes + frame.header.payloadLength.toNat := by
      rw [List.length_append, frame.header.length_image, hsealed.1]
    rw [htake, hdrop, hlength]
    exact ⟨Nat.le_add_right .., frame.header, ⟨rfl, hversion, hbounded.trans (min_le_left ..)⟩,
      hbounded.trans (min_le_right ..), rfl, frame.payload, ⟨rfl, hsealed⟩, rfl⟩

theorem Frame.sealed_stamped (bounded : frame.payload.length < UInt32.size) :
    Frame.Sealed ⟨frame.stamped, frame.payload⟩ :=
  ⟨(UInt32.toNat_ofNat_of_lt' bounded).symm, rfl⟩

/-! ## Received bytes -/

namespace Arrival

/-- The bytes a call of `recv` finds. -/
def found : Arrival → Bytes
  | .bytes first rest => first :: rest
  | _ => []

end Arrival

/-- The bytes a socket delivers until the stream ends. -/
def delivered (socket : List Arrival) : Bytes := socket.flatMap Arrival.found

/-- No call fails; it may find nothing for now. -/
def Steady (socket : List Arrival) : Prop := ∀ socketError, .failure socketError ∉ socket

theorem Steady.tail {arrival : Arrival} {rest : List Arrival} (h : Steady (arrival :: rest)) :
    Steady rest := fun socketError hmem => h socketError (List.mem_cons_of_mem _ hmem)

theorem Steady.cons {arrival : Arrival} {rest : List Arrival}
    (head : ∀ socketError, arrival ≠ .failure socketError) (h : Steady rest) :
    Steady (arrival :: rest) := by
  intro socketError hmem
  rcases List.mem_cons.mp hmem with heq | hrest
  · exact head socketError heq.symm
  · exact h socketError hrest

@[simp] theorem delivered_nil : delivered [] = [] := rfl

@[simp] theorem delivered_cons (arrival : Arrival) (rest : List Arrival) :
    delivered (arrival :: rest) = arrival.found ++ delivered rest := rfl

theorem fillBuffer_full {received : Bytes} (h : wanted ≤ received.length) (socket : List Arrival) :
    fillBuffer wanted received socket = .ok (received, socket) := by
  cases socket <;> simp [fillBuffer, h]

/-- Enough bytes fill the buffer, however they arrive; the others stay in the socket. -/
theorem fillBuffer_of_enough (received : Bytes) (steady : Steady socket)
    (room : received.length ≤ wanted)
    (enough : wanted ≤ received.length + (delivered socket).length) :
    ∃ rest, fillBuffer wanted received socket
        = .ok (received ++ (delivered socket).take (wanted - received.length), rest)
      ∧ delivered rest = (delivered socket).drop (wanted - received.length)
      ∧ Steady rest := by
  induction socket generalizing received with
  | nil =>
    have hfull : wanted ≤ received.length := by simpa using enough
    exact ⟨[], by simp [fillBuffer, hfull], by simp, steady⟩
  | cons arrival rest ih =>
    by_cases hfull : wanted ≤ received.length
    · have hnone : wanted - received.length = 0 := by omega
      exact ⟨arrival :: rest, by rw [fillBuffer_full hfull, hnone]; simp, by rw [hnone]; simp,
        steady⟩
    · cases arrival with
      | wouldBlock =>
        obtain ⟨left, hfill, hleft, hsteady⟩ := ih received steady.tail room enough
        exact ⟨left, by rw [fillBuffer, if_neg hfull]; exact hfill, hleft, hsteady⟩
      | failure socketError => exact absurd List.mem_cons_self (steady socketError)
      | bytes first more =>
        rw [fillBuffer, if_neg hfull]
        simp only [delivered_cons, Arrival.found]
        generalize hchunk : first :: more = chunk
        simp only [delivered_cons, Arrival.found, hchunk, List.length_append] at enough
        split
        · -- The chunk does not overfill the buffer, and the loop goes on.
          rename_i hdrop
          have hfits := List.drop_eq_nil_iff.mp hdrop
          obtain ⟨left, hfill, hleft, hsteady⟩ := ih (received ++ chunk) steady.tail
            (by rw [List.length_append]; omega) (by rw [List.length_append]; omega)
          have hmissing : wanted - (received ++ chunk).length
              = wanted - received.length - chunk.length := by
            rw [List.length_append]
            omega
          rw [hmissing] at hfill hleft
          refine ⟨left, ?_, ?_, hsteady⟩
          · rw [hfill, List.take_append, List.take_of_length_le hfits, List.append_assoc]
          · rw [hleft, List.drop_append, hdrop, List.nil_append]
        · -- The chunk fills the buffer, and what is left of it stays.
          rename_i next others hdrop
          have hlong : wanted - received.length ≤ chunk.length := by
            by_contra hshort
            rw [List.drop_eq_nil_of_le (by omega)] at hdrop
            cases hdrop
          refine ⟨.bytes next others :: rest, ?_, ?_, .cons (by simp) steady.tail⟩
          · rw [List.take_append_of_le_length hlong]
          · rw [delivered_cons, Arrival.found, ← hdrop, List.drop_append_of_le_length hlong]

theorem fillBuffer_of_short (received : Bytes) (steady : Steady socket)
    (short : received.length + (delivered socket).length < wanted) :
    ∃ count, fillBuffer wanted received socket = .error (.closed count) := by
  induction socket generalizing received with
  | nil =>
    have hmissing : ¬ wanted ≤ received.length := by simpa using short
    exact ⟨received.length, by simp [fillBuffer, hmissing]⟩
  | cons arrival rest ih =>
    have hmissing : ¬ wanted ≤ received.length := by omega
    rw [delivered_cons, List.length_append] at short
    cases arrival with
    | wouldBlock =>
      rw [fillBuffer, if_neg hmissing]
      exact ih received steady.tail (by simpa [Arrival.found] using short)
    | failure socketError => exact absurd List.mem_cons_self (steady socketError)
    | bytes first more =>
      rw [fillBuffer, if_neg hmissing]
      have hdrop : (first :: more).drop (wanted - received.length) = [] := by
        refine List.drop_eq_nil_of_le ?_
        rw [Arrival.found] at short
        omega
      simp only [hdrop]
      refine ih _ steady.tail ?_
      rw [List.length_append]
      rw [Arrival.found] at short
      omega

/-! ## Received frames -/

/-- What a receive accepts: the image of a header the header decoder accepts, followed by the
payload it declares; only a payload that is not empty has to have the declared checksum. -/
structure Received (maxPayload : Nat) (stream : Bytes) (frame : Frame) (rest : Bytes) : Prop where
  stream : stream = frame.header.image ++ (frame.payload ++ rest)
  version : frame.header.protocolVersion = protocolVersion
  bounded : frame.header.payloadLength.toNat ≤ min maxFramePayloadBytes maxPayload
  length : frame.payload.length = frame.header.payloadLength.toNat
  checksum : frame.payload ≠ [] → crc32c frame.payload = frame.header.payloadCrc

theorem receiveFrame_of_header (steady : Steady socket)
    (enough : frameHeaderBytes ≤ (delivered socket).length) (maxPayload : Nat) :
    ∃ left, delivered left = (delivered socket).drop frameHeaderBytes ∧ Steady left
      ∧ receiveFrame maxPayload socket = (do
        let header ← decodeFrameHeader ((delivered socket).take frameHeaderBytes)
        rejectIf (decide (maxPayload < header.payloadLength.toNat))
          (makeError .frameTooLarge (text "the declared payload exceeds the receive bound"))
        match fillBuffer header.payloadLength.toNat [] left with
        | .error (.closed _) =>
          .error (makeError .frameTruncated (text "the peer closed during a frame payload"))
        | .error (.failed socketError) =>
          .error (transportError socketError (text "receive failed"))
        | .ok (payload, socket) =>
          rejectIf (!payload.isEmpty && crc32c payload != header.payloadCrc)
            (makeError .frameCorrupt (text "frame payload checksum mismatch"))
          pure ({ header, payload }, socket)) := by
  obtain ⟨left, hfill, hleft, hsteady⟩ := fillBuffer_of_enough [] steady
    (Nat.zero_le _) (by simpa using enough)
  refine ⟨left, hleft, hsteady, ?_⟩
  rw [receiveFrame, hfill]
  rfl

theorem received_of_receiveFrame {left : List Arrival} (steady : Steady socket)
    (h : receiveFrame maxPayload socket = .ok (frame, left)) :
    Received maxPayload (delivered socket) frame (delivered left) := by
  by_cases henough : frameHeaderBytes ≤ (delivered socket).length
  · obtain ⟨between, hbetween, hsteady, hreceive⟩ :=
      receiveFrame_of_header steady henough maxPayload
    rw [hreceive] at h
    simp only [bind_eq_ok, ↓rejectIf_bind_eq_ok, decodeFrameHeader_eq_ok] at h
    obtain ⟨header, ⟨hheader, hversion, hbounded⟩, hmax, hpayload⟩ := h
    have hmax : header.payloadLength.toNat ≤ maxPayload := by simpa using hmax
    by_cases hall : header.payloadLength.toNat ≤ (delivered between).length
    · obtain ⟨left', hfill, hleft', -⟩ := fillBuffer_of_enough [] hsteady
        (Nat.zero_le _) (by simpa using hall)
      rw [hfill] at hpayload
      simp only [List.nil_append, List.length_nil, Nat.sub_zero, rejectIf_bind_eq_ok, pure_eq_ok,
        Prod.mk.injEq] at hpayload hleft'
      obtain ⟨hcrc, rfl, rfl⟩ := hpayload
      refine ⟨?_, hversion, le_min hbounded hmax, ?_, fun hpresent => ?_⟩
      · dsimp only
        rw [hleft', List.take_append_drop, hbetween, ← hheader, List.take_append_drop]
      · rw [List.length_take, Nat.min_eq_left hall]
      · simpa [hpresent] using hcrc
    · obtain ⟨count, hshort⟩ := fillBuffer_of_short [] hsteady
        (by simpa using hall)
      rw [hshort] at hpayload
      cases hpayload
  · obtain ⟨count, hshort⟩ := fillBuffer_of_short [] steady
      (by simpa using henough)
    rw [receiveFrame, hshort] at h
    dsimp only at h
    split at h <;> cases h

/-- A frame at the front of the stream is received, and the socket is left with the others. -/
theorem receiveFrame_of_received (steady : Steady socket)
    (h : Received maxPayload (delivered socket) frame rest) :
    ∃ left, receiveFrame maxPayload socket = .ok (frame, left) ∧ delivered left = rest
      ∧ Steady left := by
  have henough : frameHeaderBytes ≤ (delivered socket).length := by
    rw [h.stream, List.length_append, frame.header.length_image]
    exact Nat.le_add_right ..
  obtain ⟨left, hleft, hsteady, hreceive⟩ := receiveFrame_of_header steady henough maxPayload
  rw [hreceive]
  simp only [bind_eq_ok, ↓rejectIf_bind_eq_ok, decodeFrameHeader_eq_ok]
  have hstream := h.stream
  have htake : (delivered socket).take frameHeaderBytes = frame.header.image := by
    rw [hstream]
    exact List.take_left' frame.header.length_image
  have hdrop : delivered left = frame.payload ++ rest := by
    rw [hleft, hstream]
    exact List.drop_left' frame.header.length_image
  have hall : frame.header.payloadLength.toNat ≤ (delivered left).length := by
    rw [hdrop, List.length_append, h.length]
    exact Nat.le_add_right ..
  obtain ⟨left', hfill, hleft', hsteady'⟩ := fillBuffer_of_enough [] hsteady
    (Nat.zero_le _) (by simpa using hall)
  rw [hdrop, List.length_nil, Nat.sub_zero] at hfill hleft'
  rw [List.take_left' h.length, List.nil_append] at hfill
  rw [List.drop_left' h.length] at hleft'
  refine ⟨left', ⟨frame.header, ⟨htake, h.version, h.bounded.trans (min_le_left ..)⟩, ?_, ?_⟩,
    hleft', hsteady'⟩
  · simpa using h.bounded.trans (min_le_right ..)
  · rw [hfill]
    simp only [rejectIf_bind_eq_ok, pure_eq_ok, and_true]
    by_cases hempty : frame.payload = []
    · simp [hempty]
    · simp [h.checksum hempty]

/-- Whatever a steady socket delivers, a receive takes one frame off the stream, or refuses. -/
theorem receiveFrame_eq_ok (steady : Steady socket) :
    (∃ left, receiveFrame maxPayload socket = .ok (frame, left) ∧ delivered left = rest) ↔
      Received maxPayload (delivered socket) frame rest := by
  constructor
  · rintro ⟨left, hreceive, rfl⟩
    exact received_of_receiveFrame steady hreceive
  · intro h
    obtain ⟨left, hreceive, hleft, -⟩ := receiveFrame_of_received steady h
    exact ⟨left, hreceive, hleft⟩

end StateFabric
