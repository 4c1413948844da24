import StateFabric.Refinement.Frame

/-!
# Guarantees of the framed protocol

A frame is read back from its image, an image that is accepted is the one of the frame it gives,
and an image that was damaged in one byte is refused (`frame_integrity`).  Receiving a frame from a
stream gives what decoding the whole image gives, however the stream was split, except for a header
that declares no payload and a checksum other than that of no payload: the stream decoder does not
look at that checksum (`streaming_receive_agrees`).
-/

namespace StateFabric

open Reader

variable {left right rest : Bytes} {x y : UInt8}

variable {frame : Frame} {maxPayload : Nat} {image : Bytes}

/-! ## Integrity -/

namespace FrameHeader

theorem image_injective : Function.Injective FrameHeader.image := by
  intro h h' himage
  have hstart := h.run_readHeaderStart (ByteWriter.u32 h.checksum)
  rw [← image, himage, image, h'.run_readHeaderStart] at hstart
  obtain ⟨hfields, hrest⟩ := Prod.mk.inj (Except.ok.inj hstart)
  simp only [Prod.mk.injEq, true_and] at hfields
  obtain ⟨hversion, htype, hflags, hlength, hcrc⟩ := hfields
  have hidentities := h.run_readHeaderIdentities h.checksum
  rw [← hrest, ← hversion, ← WireEnum.code_injective htype, ← hflags, ← hlength, ← hcrc,
    h'.run_readHeaderIdentities] at hidentities
  exact (Prod.mk.inj (Prod.mk.inj (Except.ok.inj hidentities)).1).1.symm

theorem eq_of_one_change {h h' : FrameHeader} (image : h.image = left ++ x :: right)
    (image' : h'.image = left ++ y :: right) : x = y := by
  by_contra hne
  rw [FrameHeader.image, eq_comm] at image
  rcases append_cons_eq_append image with ⟨r, hfields, hright⟩ | ⟨l, hleft, hchecksum⟩
  · -- A byte of the fields was changed, so the checksum would have to be another one.
    have hsplit : h'.encodeFields ++ ByteWriter.u32 h'.checksum
        = (left ++ y :: r) ++ ByteWriter.u32 h.checksum := by
      rw [← FrameHeader.image, image', hright]
      simp
    have hlength : h'.encodeFields.length = (left ++ y :: r).length := by
      rw [h'.length_encodeFields, ← h.length_encodeFields, hfields]
      simp
    obtain ⟨hfields', hsum⟩ := List.append_inj hsplit hlength
    have hsame : h'.checksum = h.checksum := by
      rw [← bigEndian_u32 h'.checksum, hsum, bigEndian_u32]
    have hcrc : crc32c (left ++ y :: (r ++ ByteWriter.u32 0))
        = crc32c (left ++ x :: (r ++ ByteWriter.u32 0)) := by
      rw [checksum, checksum, hfields, hfields', List.append_assoc, List.append_assoc,
        List.cons_append, List.cons_append] at hsame
      exact hsame
    exact crc32c_ne_of_one_change _ _ (Ne.symm hne) hcrc
  · -- A byte of the checksum was changed, and the fields still have the old one.
    have hsplit : h'.encodeFields ++ ByteWriter.u32 h'.checksum
        = h.encodeFields ++ (l ++ y :: right) := by
      rw [← FrameHeader.image, image', hleft, List.append_assoc]
    obtain ⟨hfields', hsum⟩ := List.append_inj hsplit
      (h'.length_encodeFields.trans h.length_encodeFields.symm)
    rw [checksum, hfields', ← checksum, hchecksum] at hsum
    have htail := List.append_cancel_left hsum
    exact hne (List.cons.inj htail).1

end FrameHeader

theorem decodeFrame_damaged (encoded : encodeFrame frame = left ++ x :: right) (damaged : y ≠ x)
    (maxPayload : Nat) : ∃ e, decodeFrame (left ++ y :: right) maxPayload = .error e := by
  cases hdecode : decodeFrame (left ++ y :: right) maxPayload with
  | error e => exact ⟨e, rfl⟩
  | ok read =>
    obtain ⟨himage, -, -, -, hcrc⟩ := decodeFrame_eq_ok.mp hdecode
    exfalso
    rw [encodeFrame, eq_comm] at encoded
    rcases append_cons_eq_append encoded with ⟨r, hheader, hright⟩ | ⟨l, hleft, hpayload⟩
    · have hlength : (left ++ y :: r).length = read.header.image.length := by
        rw [read.header.length_image, ← frame.stamped.length_image, hheader]
        simp
      have hsplit : (left ++ y :: r) ++ frame.payload = read.header.image ++ read.payload := by
        rw [← himage, hright]
        simp
      obtain ⟨hread, -⟩ := List.append_inj hsplit hlength
      exact damaged (FrameHeader.eq_of_one_change hheader hread.symm).symm
    · have hsplit : frame.stamped.image ++ (l ++ y :: right)
          = read.header.image ++ read.payload := by
        rw [← himage, hleft, List.append_assoc]
      obtain ⟨hheader, hread⟩ := List.append_inj hsplit
        (frame.stamped.length_image.trans read.header.length_image.symm)
      rw [← FrameHeader.image_injective hheader, ← hread] at hcrc
      have hstamped : crc32c (l ++ y :: right) = crc32c (l ++ x :: right) := by
        rw [hcrc, ← hpayload]
        rfl
      exact crc32c_ne_of_one_change _ _ damaged hstamped

theorem Frame.stamped_of_sealed (sealed : frame.Sealed)
    (version : frame.header.protocolVersion = protocolVersion) : frame.stamped = frame.header := by
  have hlength : UInt32.ofNat frame.payload.length = frame.header.payloadLength := by
    rw [sealed.1, UInt32.ofNat_toNat]
  rw [stamped, hlength, sealed.2, ← version]

theorem decodeFrame_encodeFrame
    (bounded : frame.payload.length ≤ min maxFramePayloadBytes maxPayload) :
    decodeFrame (encodeFrame frame) maxPayload
      = .ok { header := frame.stamped, payload := frame.payload } := by
  have hsmall : frame.payload.length < UInt32.size :=
    Nat.lt_of_le_of_lt (bounded.trans (min_le_left ..)) (by decide)
  have hsealed := frame.sealed_stamped hsmall
  refine decodeFrame_eq_ok.mpr ⟨rfl, rfl, ?_, hsealed⟩
  rw [← hsealed.1]
  exact bounded

/-- Frame integrity: a frame within the bounds is read back with the header it was sent with, an
accepted image is the image of the frame read from it, and one damaged byte is detected. -/
theorem frame_integrity :
    (∀ (frame : Frame) (maxPayload : Nat),
      frame.payload.length ≤ min maxFramePayloadBytes maxPayload →
        decodeFrame (encodeFrame frame) maxPayload
          = .ok { header := frame.stamped, payload := frame.payload })
      ∧ (∀ (image : Bytes) (maxPayload : Nat) (frame : Frame),
        decodeFrame image maxPayload = .ok frame → encodeFrame frame = image)
      ∧ ∀ (frame : Frame) (maxPayload : Nat) (left right : Bytes) (x y : UInt8),
        encodeFrame frame = left ++ x :: right → y ≠ x →
          ∃ e, decodeFrame (left ++ y :: right) maxPayload = .error e := by
  refine ⟨fun frame maxPayload hbounded => decodeFrame_encodeFrame hbounded,
    fun image maxPayload frame hdecode => ?_,
    fun frame maxPayload left right x y hencoded hdamaged =>
      decodeFrame_damaged hencoded hdamaged maxPayload⟩
  obtain ⟨himage, hversion, -, hsealed⟩ := decodeFrame_eq_ok.mp hdecode
  rw [encodeFrame, Frame.stamped_of_sealed hsealed hversion, himage]

/-- An acknowledgement of three bytes. -/
def Scenario.ackFrame : Frame :=
  { header := { messageType := .heartbeatAck, flags := 9, coordinatorEpoch := ⟨4⟩ }
    payload := [1, 2, 3] }

open Scenario in
theorem frame_integrity_of_ack :
    decodeFrame (encodeFrame ackFrame) 16 = .ok { header := ackFrame.stamped, payload := [1, 2, 3] }
      ∧ encodeFrame { header := ackFrame.stamped, payload := [1, 2, 3] } = encodeFrame ackFrame
      ∧ ∃ e, decodeFrame (ackFrame.stamped.image ++ [1, 2, 7]) 16 = .error e := by
  have hread := frame_integrity.1 ackFrame 16 (by decide)
  refine ⟨hread, frame_integrity.2.1 _ 16 _ hread, ?_⟩
  have hdamaged := frame_integrity.2.2 ackFrame 16 (ackFrame.stamped.image ++ [1, 2]) [] 3 7
    (by simp [encodeFrame, ackFrame]) (by decide)
  simpa using hdamaged

/-! ## Streaming receive -/

/-- The payload length the header at the front of an image declares. -/
def declaredPayload (image : Bytes) : Nat := (bigEndian 32 ((image.drop 12).take 4)).toNat

theorem declaredPayload_image (header : FrameHeader) (rest : Bytes) :
    declaredPayload (header.image ++ rest) = header.payloadLength.toNat := by
  -- The length stands after the magic number, the version, the message type and the flags.
  obtain ⟨front, back, hfront, hparts⟩ : ∃ front back : Bytes, front.length = 12
      ∧ header.image ++ rest = front ++ (ByteWriter.u32 header.payloadLength ++ back) := by
    refine ⟨[ByteWriter.u32 frameMagic, ByteWriter.u16 header.protocolVersion,
      ByteWriter.u16 (WireEnum.code header.messageType), ByteWriter.u32 header.flags].flatten,
      ByteWriter.u32 header.payloadCrc ++ ([encodeId header.coordinatorEpoch,
        encodeId header.clusterId, encodeId header.clusterIncarnation, encodeId header.workerId,
        encodeId header.workerBootId, encodeId header.operationGeneration,
        ByteWriter.u64 header.sequence, ByteWriter.u32 header.checksum].flatten ++ rest), rfl, ?_⟩
    rw [header.image_eq_parts]
    simp only [List.flatten_cons, List.flatten_nil, List.append_assoc, List.append_nil]
  rw [declaredPayload, hparts, List.drop_left' hfront, List.take_left' (length_u32 _)]
  exact congrArg UInt32.toNat (bigEndian_u32 header.payloadLength)

/-- A header that is accepted, declares no payload, and declares a checksum other than that of no
payload. -/
def Hollow (image : Bytes) : Prop :=
  ∃ header, decodeFrameHeader image = .ok header ∧ header.payloadLength = 0
    ∧ header.payloadCrc ≠ crc32c []

/-- From a stream that holds one image of the declared length, a receive takes all of it. -/
theorem Received.rest_eq_nil (h : Received maxPayload image frame rest)
    (declared : image.length = frameHeaderBytes + declaredPayload image) : rest = [] := by
  rw [h.stream, declaredPayload_image, List.length_append, List.length_append,
    frame.header.length_image, h.length] at declared
  exact List.length_eq_zero_iff.mp (by omega)

/-- A receive accepts what the block decoder accepts; when it accepts more, the image is hollow. -/
theorem received_iff_decoded :
    decodeFrame image maxPayload = .ok frame ↔
      Received maxPayload image frame [] ∧ crc32c frame.payload = frame.header.payloadCrc := by
  rw [decodeFrame_eq_ok]
  constructor
  · rintro ⟨himage, hversion, hbounded, hlength, hcrc⟩
    refine ⟨⟨?_, hversion, hbounded, hlength, fun _ => hcrc⟩, hcrc⟩
    rw [List.append_nil]
    exact himage
  · rintro ⟨h, hcrc⟩
    refine ⟨?_, h.version, h.bounded, h.length, hcrc⟩
    rw [h.stream, List.append_nil]

theorem Received.hollow (h : Received maxPayload image frame [])
    (differs : crc32c frame.payload ≠ frame.header.payloadCrc) : Hollow image := by
  have hempty : frame.payload = [] := by
    by_contra hpresent
    exact differs (h.checksum hpresent)
  have himage : image = frame.header.image := by
    rw [h.stream, hempty, List.append_nil, List.append_nil]
  refine ⟨frame.header, decodeFrameHeader_eq_ok.mpr ⟨himage, h.version,
    h.bounded.trans (min_le_left ..)⟩, ?_, fun hcrc => differs ?_⟩
  · have hlength := h.length
    rw [hempty, List.length_nil] at hlength
    exact UInt32.toNat_inj.mp hlength.symm
  · rw [hempty, hcrc]

theorem Hollow.received (h : Hollow image) (maxPayload : Nat) :
    ∃ header, Received maxPayload image ⟨header, []⟩ [] ∧ header.payloadCrc ≠ crc32c [] := by
  obtain ⟨header, hdecode, hlength, hcrc⟩ := h
  obtain ⟨rfl, hversion, hbounded⟩ := decodeFrameHeader_eq_ok.mp hdecode
  have hzero : header.payloadLength.toNat = 0 := by rw [hlength]; rfl
  refine ⟨header, ⟨by simp, hversion, ?_, hzero.symm, fun hpresent => absurd rfl hpresent⟩, hcrc⟩
  rw [hzero]
  exact Nat.zero_le _

/-- Streaming receive: from a stream that holds one image of the declared length, however it was
split, a receive gives what the block decoder gives exactly when the image is not hollow, and a
stream that ends earlier is refused. -/
theorem streaming_receive_agrees {image : Bytes}
    (declared : image.length = frameHeaderBytes + declaredPayload image) (maxPayload : Nat) :
    (∀ socket, Steady socket → delivered socket = image →
      ((∀ frame, (∃ left, receiveFrame maxPayload socket = .ok (frame, left))
          ↔ decodeFrame image maxPayload = .ok frame) ↔ ¬ Hollow image))
      ∧ ∀ socket, Steady socket → delivered socket <+: image → delivered socket ≠ image →
        ∃ e, receiveFrame maxPayload socket = .error e := by
  constructor
  · rintro socket hsteady rfl
    have hreceive : ∀ frame, (∃ left, receiveFrame maxPayload socket = .ok (frame, left))
        ↔ Received maxPayload (delivered socket) frame [] := by
      intro frame
      rw [← receiveFrame_eq_ok hsteady]
      constructor
      · rintro ⟨left, hleft⟩
        have hreceived := (receiveFrame_eq_ok hsteady).mp ⟨left, hleft, rfl⟩
        exact ⟨left, hleft, hreceived.rest_eq_nil declared⟩
      · rintro ⟨left, hleft, -⟩
        exact ⟨left, hleft⟩
    constructor
    · intro hagree hhollow
      obtain ⟨header, hreceived, hcrc⟩ := hhollow.received maxPayload
      have hdecode := (hagree ⟨header, []⟩).mp ((hreceive _).mpr hreceived)
      exact hcrc (received_iff_decoded.mp hdecode).2.symm
    · intro hsolid frame
      rw [hreceive, received_iff_decoded]
      constructor
      · intro hreceived
        refine ⟨hreceived, ?_⟩
        by_contra hdiffers
        exact hsolid (hreceived.hollow hdiffers)
      · exact And.left
  · rintro socket hsteady ⟨more, himage⟩ hproper
    cases hreceive : receiveFrame maxPayload socket with
    | error e => exact ⟨e, rfl⟩
    | ok found =>
      obtain ⟨frame, left⟩ := found
      have hreceived := (receiveFrame_eq_ok hsteady).mp ⟨left, hreceive, rfl⟩
      -- The header that was received declares the length of the whole image.
      have hstream := hreceived.stream
      rw [← himage, hstream, List.append_assoc, declaredPayload_image] at declared
      simp only [List.length_append, frame.header.length_image, hreceived.length] at declared
      have hmore : more = [] := List.length_eq_zero_iff.mp (by omega)
      rw [hmore, List.append_nil] at himage
      exact absurd himage hproper

/-- A socket that holds all of an image at once. -/
def Scenario.atOnce : Bytes → List Arrival
  | [] => []
  | first :: rest => [.bytes first rest]

open Scenario in
theorem Scenario.steady_atOnce (image : Bytes) : Steady (atOnce image) := by
  intro socketError hmem
  cases image <;> simp [atOnce] at hmem

open Scenario in
theorem Scenario.delivered_atOnce (image : Bytes) : delivered (atOnce image) = image := by
  cases image <;> simp [atOnce, delivered, Arrival.found]

open Scenario in
/-- A whole frame is received, after a call that found nothing. -/
theorem streaming_receive_agrees_of_ack :
    (encodeFrame ackFrame).length = frameHeaderBytes + declaredPayload (encodeFrame ackFrame)
      ∧ ∃ left, receiveFrame 16 (.wouldBlock :: atOnce (encodeFrame ackFrame))
        = .ok ({ header := ackFrame.stamped, payload := [1, 2, 3] }, left) := by
  have hdeclared : (encodeFrame ackFrame).length
      = frameHeaderBytes + declaredPayload (encodeFrame ackFrame) := by
    rw [encodeFrame, declaredPayload_image, List.length_append, ackFrame.stamped.length_image]
    rfl
  have hsolid : ¬ Hollow (encodeFrame ackFrame) := by
    rintro ⟨header, hdecode, -⟩
    have hlength := congrArg List.length (decodeFrameHeader_eq_ok.mp hdecode).1
    rw [header.length_image, encodeFrame, List.length_append,
      ackFrame.stamped.length_image] at hlength
    simp [ackFrame] at hlength
  have hagree := ((streaming_receive_agrees hdeclared 16).1
    (.wouldBlock :: atOnce (encodeFrame ackFrame)) (.cons (by simp) (steady_atOnce _))
    (by rw [delivered_cons, delivered_atOnce]; rfl)).mpr hsolid
  exact ⟨hdeclared, (hagree _).mpr (decodeFrame_encodeFrame (by decide))⟩

/-- The header of a heartbeat without payload that declares a checksum of 1. -/
def Scenario.hollowHeader : FrameHeader := { messageType := .heartbeat, payloadCrc := 1 }

open Scenario in
/-- The stream decoder accepts the hollow heartbeat, the block decoder refuses it. -/
theorem receive_disagrees_of_hollow :
    hollowHeader.image.length = frameHeaderBytes + declaredPayload hollowHeader.image
      ∧ (∃ left, receiveFrame 16 (atOnce hollowHeader.image)
        = .ok ({ header := hollowHeader, payload := [] }, left))
      ∧ ∃ e, decodeFrame hollowHeader.image 16 = .error e := by
  have hempty : crc32c [] = 0 := by decide
  have hreceived : Received 16 hollowHeader.image ⟨hollowHeader, []⟩ [] :=
    ⟨by simp, rfl, Nat.zero_le _, rfl, fun hpresent => absurd rfl hpresent⟩
  refine ⟨?_, ?_, ?_⟩
  · have hdeclared := declaredPayload_image hollowHeader []
    rw [List.append_nil] at hdeclared
    rw [hdeclared, hollowHeader.length_image]
    rfl
  · rw [← delivered_atOnce hollowHeader.image] at hreceived
    obtain ⟨left, hleft, -⟩ := (receiveFrame_eq_ok (steady_atOnce _)).mpr hreceived
    exact ⟨left, hleft⟩
  · cases hdecode : decodeFrame hollowHeader.image 16 with
    | error e => exact ⟨e, rfl⟩
    | ok frame =>
      obtain ⟨h, hcrc⟩ := received_iff_decoded.mp hdecode
      -- The header of the frame is the hollow one, and it declares no payload.
      have hheader : frame.header = hollowHeader := by
        have hstream := h.stream
        have himage : hollowHeader.image ++ [] = frame.header.image ++ (frame.payload ++ []) := by
          rw [List.append_nil, ← hstream]
        exact FrameHeader.image_injective (List.append_inj himage
          (hollowHeader.length_image.trans frame.header.length_image.symm)).1.symm
      have hlength := h.length
      rw [hheader] at hlength hcrc
      rw [List.length_eq_zero_iff.mp hlength, hempty] at hcrc
      exact absurd hcrc (by decide)

/-! ## Streams of frames -/

/-- Receives so many frames, one after the other. -/
def receiveFrames (maxPayload : Nat) : Nat → List Arrival → Result (List Frame × List Arrival)
  | 0, socket => .ok ([], socket)
  | count + 1, socket => do
    let (frame, socket) ← receiveFrame maxPayload socket
    let (frames, socket) ← receiveFrames maxPayload count socket
    pure (frame :: frames, socket)

theorem sendFrames_eq (nextSequence : UInt64) (frames : List Frame) :
    (sendFrames nextSequence frames).1 = (outgoingFrames nextSequence frames).flatMap encodeFrame := by
  induction frames generalizing nextSequence with
  | nil => rfl
  | cons frame frames ih => exact congrArg (_ ++ ·) (ih _)

theorem Frame.payload_outgoing (frame : Frame) (nextSequence : UInt64) :
    (frame.outgoing nextSequence).payload = frame.payload := by
  unfold outgoing
  split <;> rfl

/-- Numbering changes no payload. -/
theorem payloads_outgoingFrames (nextSequence : UInt64) (frames : List Frame) :
    (outgoingFrames nextSequence frames).map (·.payload) = frames.map (·.payload) := by
  induction frames generalizing nextSequence with
  | nil => rfl
  | cons frame frames ih =>
    rw [outgoingFrames, List.map_cons, List.map_cons, frame.payload_outgoing, ih]

/-- Frames without numbers of their own are numbered one after the other. -/
theorem sequence_outgoingFrames {frames : List Frame}
    (unnumbered : ∀ frame ∈ frames, frame.header.sequence = 0) (nextSequence : UInt64) :
    (outgoingFrames nextSequence frames).map (·.header.sequence)
      = (List.range frames.length).map fun index => nextSequence + UInt64.ofNat index := by
  induction frames generalizing nextSequence with
  | nil => rfl
  | cons frame frames ih =>
    have hfirst := unnumbered frame List.mem_cons_self
    have hothers := ih (fun other hother => unnumbered other (List.mem_cons_of_mem _ hother))
      (nextSequence + 1)
    have hshift : ∀ index, nextSequence + 1 + UInt64.ofNat index
        = nextSequence + UInt64.ofNat (index + 1) := by
      intro index
      rw [UInt64.ofNat_add, add_assoc, add_comm 1]
      rfl
    simp only [outgoingFrames, sendFrame, Frame.outgoing, hfirst, if_true, List.map_cons, hothers,
      List.length_cons, List.range_succ_eq_map, List.map_map, Function.comp_def, hshift]
    simp

/-- Encoded frames are received in order, however the stream was split: by induction on the
frames. -/
theorem receiveFrames_encoded {frames : List Frame} (bounded : ∀ frame ∈ frames,
      frame.payload.length ≤ min maxFramePayloadBytes maxPayload) {socket : List Arrival}
    (steady : Steady socket) (stream : delivered socket = frames.flatMap encodeFrame ++ rest) :
    ∃ left, receiveFrames maxPayload frames.length socket
        = .ok (frames.map fun frame => { header := frame.stamped, payload := frame.payload }, left)
      ∧ delivered left = rest ∧ Steady left := by
  induction frames generalizing socket with
  | nil => exact ⟨socket, rfl, stream, steady⟩
  | cons frame frames ih =>
    have hfirst := decodeFrame_encodeFrame (bounded frame List.mem_cons_self)
    obtain ⟨hreceived, -⟩ := received_iff_decoded.mp hfirst
    rw [List.flatMap_cons, List.append_assoc] at stream
    have hfront : Received maxPayload (delivered socket)
        { header := frame.stamped, payload := frame.payload }
        (frames.flatMap encodeFrame ++ rest) := by
      refine { hreceived with stream := ?_ }
      rw [stream, encodeFrame, List.append_assoc]
    obtain ⟨left, hreceive, hleft, hsteady⟩ := receiveFrame_of_received steady hfront
    obtain ⟨left', hothers, hleft', hsteady'⟩ :=
      ih (fun other hother => bounded other (List.mem_cons_of_mem _ hother)) hsteady hleft
    refine ⟨left', ?_, hleft', hsteady'⟩
    rw [List.length_cons, receiveFrames, bind_eq_ok]
    refine ⟨_, hreceive, ?_⟩
    rw [bind_eq_ok]
    exact ⟨_, hothers, rfl⟩

/-- What calls of `send_frame` write is received in order, with the headers as they were numbered
and stamped on sending, however the stream was split; frames without numbers of their own get the
numbers of the connection one after the other. -/
theorem receiveFrames_sent {frames : List Frame} (bounded : ∀ frame ∈ frames,
      frame.payload.length ≤ min maxFramePayloadBytes maxPayload) {nextSequence : UInt64}
    {socket : List Arrival} (steady : Steady socket)
    (stream : delivered socket = (sendFrames nextSequence frames).1 ++ rest) :
    ∃ received left, receiveFrames maxPayload frames.length socket = .ok (received, left)
      ∧ received = (outgoingFrames nextSequence frames).map
        (fun frame => { header := frame.stamped, payload := frame.payload })
      ∧ received.map (·.payload) = frames.map (·.payload)
      ∧ ((∀ frame ∈ frames, frame.header.sequence = 0) → received.map (·.header.sequence)
        = (List.range frames.length).map fun index => nextSequence + UInt64.ofNat index)
      ∧ delivered left = rest ∧ Steady left := by
  have hpayloads := payloads_outgoingFrames nextSequence frames
  have hlength : (outgoingFrames nextSequence frames).length = frames.length := by
    simpa using congrArg List.length hpayloads
  have hbounded : ∀ sent ∈ outgoingFrames nextSequence frames,
      sent.payload.length ≤ min maxFramePayloadBytes maxPayload := by
    intro sent hsent
    have hmem : sent.payload ∈ frames.map (·.payload) :=
      hpayloads ▸ List.mem_map_of_mem hsent
    obtain ⟨frame, hframe, hpayload⟩ := List.mem_map.mp hmem
    exact hpayload ▸ bounded frame hframe
  rw [sendFrames_eq] at stream
  obtain ⟨left, hreceive, hleft, hsteady⟩ := receiveFrames_encoded hbounded steady stream
  rw [hlength] at hreceive
  refine ⟨_, left, hreceive, rfl, ?_, fun hunnumbered => ?_, hleft, hsteady⟩
  · rw [List.map_map]
    exact hpayloads
  · rw [List.map_map, ← sequence_outgoingFrames hunnumbered]
    rfl

open Scenario in
/-- Two acknowledgements sent over a new connection are received with the numbers 1 and 2. -/
theorem receiveFrames_sent_of_two : ∃ received left,
    receiveFrames 16 2 (.wouldBlock :: atOnce (sendFrames 1 [ackFrame, ackFrame]).1)
        = .ok (received, left)
      ∧ received.map (fun frame => (frame.header.sequence, frame.payload))
        = [(1, [1, 2, 3]), (2, [1, 2, 3])] := by
  have hbounded : ∀ frame ∈ [ackFrame, ackFrame],
      frame.payload.length ≤ min maxFramePayloadBytes 16 := by decide
  have hstream : delivered (.wouldBlock :: atOnce (sendFrames 1 [ackFrame, ackFrame]).1)
      = (sendFrames 1 [ackFrame, ackFrame]).1 ++ [] := by
    rw [delivered_cons, delivered_atOnce, List.append_nil]
    rfl
  obtain ⟨received, left, hreceive, rfl, -⟩ :=
    receiveFrames_sent hbounded (.cons (by simp) (steady_atOnce _)) hstream
  exact ⟨_, left, hreceive, rfl⟩

end StateFabric
