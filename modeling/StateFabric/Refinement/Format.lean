import StateFabric.Persistence.Format

/-!
# What the files hold

The checksum tells payloads apart that differ in one byte.  A frame whose payload decodes is a
complete record; scanning a journal of complete records gives back their records, and a frame
that was cut short is a torn tail.  A snapshot gives back the image of the plane it was written
from.
-/

namespace StateFabric

open Reader

variable {payload A tail : Bytes} {x : UInt8}

/-! ## The checksum -/

namespace Crc32c

theorem and_one_ne_zero_iff (value : UInt32) :
    value &&& 1 ≠ 0 ↔ value.toBitVec.getLsbD 0 = true := by
  have hand : (value &&& 1).toBitVec = (BitVec.ofBool (value.toBitVec.getLsbD 0)).setWidth 32 :=
    BitVec.and_one_eq_setWidth_ofBool_getLsbD
  rw [ne_eq, ← UInt32.toBitVec_inj, hand]
  cases value.toBitVec.getLsbD 0 <;> decide

theorem toBitVec_tableRound (value : UInt32) :
    (tableRound value).toBitVec = Crc.shift polynomial.toBitVec value.toBitVec := by
  unfold tableRound Crc.shift
  by_cases h : value &&& 1 ≠ 0
  · rw [if_pos h, if_pos ((and_one_ne_zero_iff value).mp h)]
    rfl
  · rw [if_neg h, if_neg fun hbit => h ((and_one_ne_zero_iff value).mpr hbit)]
    rfl

theorem toBitVec_table (index : UInt32) :
    (table index).toBitVec = Crc.shifts polynomial.toBitVec 8 index.toBitVec := by
  simp only [table, Nat.repeat, toBitVec_tableRound, Crc.shifts]

theorem setWidth_byte_shift (byte : UInt8) : byte.toBitVec.setWidth 32 >>> 8 = 0 := by
  ext i hi
  simp

/-- A round of the table-driven loop shifts the whole register by one byte. -/
theorem toBitVec_round (crc : UInt32) (byte : UInt8) :
    (round crc byte).toBitVec
      = Crc.shifts polynomial.toBitVec 8 (crc.toBitVec ^^^ byte.toBitVec.setWidth 32) := by
  have hmask : ∀ i < 32, (255 : BitVec 32).getLsbD i = decide (i < 8) := by decide
  rw [← Crc.table_step _ _ (setWidth_byte_shift byte) hmask]
  simp only [round, UInt32.toBitVec_xor, toBitVec_table]
  rfl

theorem register_eq_of_round {crc crc' : UInt32} {byte byte' : UInt8}
    (h : round crc byte = round crc' byte') :
    crc.toBitVec ^^^ byte.toBitVec.setWidth 32 = crc'.toBitVec ^^^ byte'.toBitVec.setWidth 32 := by
  have hbits := congrArg UInt32.toBitVec h
  rw [toBitVec_round, toBitVec_round] at hbits
  exact Crc.shifts_injective (by decide) 8 hbits

theorem round_injective_left (byte : UInt8) : Function.Injective fun crc => round crc byte := by
  intro crc crc' h
  exact UInt32.toBitVec_inj.mp ((BitVec.xor_left_inj _).mp (register_eq_of_round h))

theorem round_injective_right (crc : UInt32) : Function.Injective (round crc) := by
  intro byte byte' h
  have hwide := (BitVec.xor_right_inj _).mp (register_eq_of_round h)
  have hnarrow := congrArg (BitVec.setWidth 8) hwide
  rw [BitVec.setWidth_setWidth_of_le _ (by decide), BitVec.setWidth_setWidth_of_le _ (by decide),
    BitVec.setWidth_eq, BitVec.setWidth_eq] at hnarrow
  exact UInt8.toBitVec_inj.mp hnarrow

end Crc32c

/-- Changing one byte changes the checksum. -/
theorem crc32c_ne_of_one_change (before after : Bytes) {y : UInt8} (hne : x ≠ y) :
    crc32c (before ++ x :: after) ≠ crc32c (before ++ y :: after) := by
  intro heq
  have hfold := (UInt32.xor_left_inj _).mp heq
  exact Crc.foldl_ne_of_one_change Crc32c.round_injective_left Crc32c.round_injective_right
    before after hne _ hfold

/-- The item of a string that is split in two stands in one of the parts. -/
theorem append_cons_eq_append {left right R : Bytes} (h : left ++ x :: right = A ++ R) :
    (∃ r, A = left ++ x :: r ∧ right = r ++ R) ∨ ∃ l, left = A ++ l ∧ R = l ++ x :: right := by
  rcases List.append_eq_append_iff.mp h with ⟨r, hA, hR⟩ | ⟨l, hleft, hR⟩
  · rcases List.cons_eq_append_iff.mp hR with ⟨rfl, hright⟩ | ⟨r', rfl, hright⟩
    · exact .inr ⟨[], by rw [hA, List.append_nil, List.append_nil], hright⟩
    · exact .inl ⟨r', hA, hright⟩
  · exact .inr ⟨l, hleft, hR⟩

/-! ## Frames -/

/-- The payload of a complete record: not too long, and it decodes. -/
structure CompleteRecord where
  payload : Bytes
  record : JournalRecord
  bounded : payload.length ≤ maxPayloadBytes
  decoded : decodeJournalRecord payload = .ok record

namespace CompleteRecord

/-- The frame of a complete record. -/
def bytes (c : CompleteRecord) : Bytes := frame c.payload

/-- The record a mutation appends. -/
def ofRecord (r : JournalRecord) (fits : r.fits = true)
    (bounded : r.payload.length ≤ maxPayloadBytes) : CompleteRecord where
  payload := r.payload
  record := r.image
  bounded := bounded
  decoded := readAll_of_reads (JournalRecord.reads fits) _

section OfRecord

variable (r : JournalRecord) (fits : r.fits = true) (bounded : r.payload.length ≤ maxPayloadBytes)

@[simp] theorem ofRecord_bytes : (ofRecord r fits bounded).bytes = encodeJournalRecord r := rfl

@[simp] theorem ofRecord_payload : (ofRecord r fits bounded).payload = r.payload := rfl

@[simp] theorem ofRecord_record : (ofRecord r fits bounded).record = r.image := rfl

end OfRecord

end CompleteRecord

theorem toNat_length_of_le (bounded : payload.length ≤ maxPayloadBytes) :
    (UInt32.ofNat payload.length).toNat = payload.length :=
  UInt32.toNat_ofNat_of_lt' (Nat.lt_of_le_of_lt bounded (by decide))

theorem CompleteRecord.toNat_length (c : CompleteRecord) :
    (UInt32.ofNat c.payload.length).toNat = c.payload.length := toNat_length_of_le c.bounded

theorem readFrameHeader_run {B C : Bytes} (hA : A.length = 4) (hB : B.length = 4)
    (hC : C.length = 4) (rest : Bytes) :
    readFrameHeader.run (A ++ (B ++ (C ++ rest)))
      = .ok ((⟨bigEndian 32 A⟩, ⟨bigEndian 32 B⟩, ⟨bigEndian 32 C⟩), rest) := by
  have hread : Reads readFrameHeader (A ++ (B ++ C))
      (⟨bigEndian 32 A⟩, ⟨bigEndian 32 B⟩, ⟨bigEndian 32 C⟩) :=
    (ByteReader.reads_u32_bytes hA).bind ((ByteReader.reads_u32_bytes hB).bind
      ((ByteReader.reads_u32_bytes hC).map _))
  have hrun := hread rest
  rwa [List.append_assoc, List.append_assoc] at hrun

theorem length_u32 (value : UInt32) : (ByteWriter.u32 value).length = 4 := rfl

theorem bigEndian_u32 (value : UInt32) :
    (⟨bigEndian 32 (ByteWriter.u32 value)⟩ : UInt32) = value := by
  rw [ByteWriter.u32_eq, bigEndian_bytesOf _ (by decide)]

theorem consumes_readFrameHeader : Consumes readFrameHeader recordHeaderBytes :=
  ByteReader.consumes_u32.bind fun _ => ByteReader.consumes_u32.bind fun _ =>
    ByteReader.consumes_u32.bind fun _ => consumes_pure _

theorem readFrame_short {bytes : Bytes} (h : bytes.length < recordHeaderBytes) (offset : Nat) :
    readFrame offset bytes = .ok none := by
  cases hrun : readFrameHeader.run bytes with
  | error => simp only [readFrame, hrun]
  | ok found =>
    have hlength := consumes_readFrameHeader bytes found.1 found.2 hrun
    omega

theorem frame_append (payload rest : Bytes) :
    frame payload ++ rest = ByteWriter.u32 recordMagic
      ++ (ByteWriter.u32 (UInt32.ofNat payload.length)
        ++ (ByteWriter.u32 (crc32c payload) ++ (payload ++ rest))) := by
  simp [frame]

/-- What a round of the scan makes of a frame: its checksum is right, so it is its payload that
decides. -/
theorem readFrame_frame (bounded : payload.length ≤ maxPayloadBytes) (rest : Bytes) (offset : Nat) :
    readFrame offset (frame payload ++ rest)
      = match decodeJournalRecord payload with
        | .error _ =>
          .error (makeError .persistenceCorrupt
            (text "journal record payload is malformed at offset " ++ natText offset))
        | .ok record => .ok (some (record, payload.length, rest)) := by
  have hbounded : ¬ maxPayloadBytes < payload.length := Nat.not_lt_of_le bounded
  have havailable : ¬ (payload ++ rest).length < payload.length := by simp
  rw [frame_append]
  cases hrecord : decodeJournalRecord payload <;>
    simp only [readFrame, readFrameHeader_run (length_u32 _) (length_u32 _) (length_u32 _),
      bigEndian_u32, toNat_length_of_le bounded, ne_eq, not_true_eq_false, if_false,
      if_neg hbounded, if_neg havailable, List.take_left', List.drop_left', hrecord]

namespace CompleteRecord

variable (c : CompleteRecord)

theorem bytes_append (rest : Bytes) :
    c.bytes ++ rest = ByteWriter.u32 recordMagic
      ++ (ByteWriter.u32 (UInt32.ofNat c.payload.length)
        ++ (ByteWriter.u32 (crc32c c.payload) ++ (c.payload ++ rest))) :=
  frame_append c.payload rest

theorem length_bytes : c.bytes.length = recordHeaderBytes + c.payload.length := by
  have h := congrArg List.length (c.bytes_append [])
  simp only [List.append_nil, List.length_append, length_u32] at h
  rw [h, recordHeaderBytes]
  omega

theorem readFrame_bytes (rest : Bytes) (offset : Nat) :
    readFrame offset (c.bytes ++ rest) = .ok (some (c.record, c.payload.length, rest)) := by
  rw [bytes, readFrame_frame c.bounded, c.decoded]

theorem readFrame_torn {more : Bytes} (cut : c.bytes = tail ++ more) (lost : more ≠ [])
    (offset : Nat) : readFrame offset tail = .ok none := by
  by_cases hshort : tail.length < recordHeaderBytes
  · exact readFrame_short hshort offset
  · have hparts := c.bytes_append []
    rw [List.append_nil, List.append_nil, cut, ← List.append_assoc, ← List.append_assoc] at hparts
    -- The header is complete, so only the end of the payload is missing.
    obtain ⟨kept, htail, hpayload⟩ : ∃ kept, tail = (ByteWriter.u32 recordMagic
        ++ ByteWriter.u32 (UInt32.ofNat c.payload.length)) ++ ByteWriter.u32 (crc32c c.payload)
          ++ kept ∧ c.payload = kept ++ more := by
      rcases List.append_eq_append_iff.mp hparts with ⟨extra, hheader, hmore⟩ | ⟨kept, hk, hp⟩
      · have hlength := congrArg List.length hheader
        simp only [List.length_append, length_u32] at hlength
        rw [recordHeaderBytes] at hshort
        have hextra : extra = [] := List.length_eq_zero_iff.mp (by omega)
        subst hextra
        rw [List.append_nil] at hheader
        exact ⟨[], by rw [List.append_nil, hheader], hmore.symm⟩
      · exact ⟨kept, hk, hp⟩
    have hbounded : ¬ maxPayloadBytes < c.payload.length := Nat.not_lt_of_le c.bounded
    have hmissing : kept.length < c.payload.length := by
      rw [hpayload, List.length_append]
      have := List.length_pos_iff.mpr lost
      omega
    rw [htail, List.append_assoc, List.append_assoc]
    simp only [readFrame, readFrameHeader_run (length_u32 _) (length_u32 _) (length_u32 _),
      bigEndian_u32, c.toNat_length, ne_eq, not_true_eq_false, if_false, if_neg hbounded,
      if_pos hmissing]

end CompleteRecord

/-! ## Scanning -/

/-- Adds the records that were scanned before. -/
def JournalScan.after (records : List JournalRecord) (scan : JournalScan) : JournalScan :=
  { scan with records := records ++ scan.records }

theorem scanFrames_records (records : List CompleteRecord) (tail : Bytes) {rounds : Nat}
    (enough : (records.flatMap CompleteRecord.bytes ++ tail).length ≤ rounds) (offset : Nat) :
    ∃ rounds' offset', tail.length ≤ rounds' ∧
      scanFrames rounds offset (records.flatMap CompleteRecord.bytes ++ tail)
        = (scanFrames rounds' offset' tail).map
            (JournalScan.after (records.map CompleteRecord.record)) := by
  induction records generalizing rounds offset with
  | nil =>
    refine ⟨rounds, offset, enough, ?_⟩
    cases h : scanFrames rounds offset tail with
    | error => simp [h, Except.map]
    | ok => simp [h, Except.map, JournalScan.after]
  | cons c rest ih =>
    rw [List.flatMap_cons, List.append_assoc] at enough ⊢
    have hlength := c.length_bytes
    rw [recordHeaderBytes] at hlength
    rw [List.length_append] at enough
    obtain ⟨rounds, rfl⟩ : ∃ n, rounds = n + 1 := ⟨rounds - 1, by omega⟩
    have hrest : (rest.flatMap CompleteRecord.bytes ++ tail).length ≤ rounds := by omega
    obtain ⟨rounds', offset', henough, hscan⟩ :=
      ih hrest (offset + recordHeaderBytes + c.payload.length)
    refine ⟨rounds', offset', henough, ?_⟩
    have hnonempty : (c.bytes ++ (rest.flatMap CompleteRecord.bytes ++ tail)).isEmpty = false := by
      rw [List.isEmpty_eq_false_iff, ← List.length_pos_iff, List.length_append]
      omega
    rw [scanFrames, hnonempty, c.readFrame_bytes]
    simp only [Bool.false_eq_true, if_false, hscan]
    cases scanFrames rounds' offset' tail with
    | error | ok => rfl

theorem scanJournal_header (frames : Bytes) :
    scanJournal (journalHeader ++ frames) = scanFrames frames.length journalHeaderBytes frames := by
  have hread : readJournalHeader.run (journalHeader ++ frames)
      = .ok ((journalMagic, controlPlaneFormatVersion, 0,
        crc32c (journalHeaderWith journalMagic controlPlaneFormatVersion 0 0)), frames) := by
    simp only [readJournalHeader, journalHeader, journalHeaderWith]
    simp
  have hnonempty : (journalHeader ++ frames).isEmpty = false := rfl
  simp only [scanJournal, hnonempty, Bool.false_eq_true, if_false, hread, ne_eq,
    not_true_eq_false]

/-- What is left of a frame whose append was interrupted: a proper beginning of it. -/
def TornTail (tail : Bytes) : Prop :=
  tail = [] ∨ ∃ (c : CompleteRecord) (more : Bytes), more ≠ [] ∧ c.bytes = tail ++ more

/-- A journal of complete records, with or without a torn tail, scans to its records. -/
theorem scanJournal_records (records : List CompleteRecord) (torn : TornTail tail) :
    scanJournal (journalHeader ++ (records.flatMap CompleteRecord.bytes ++ tail))
      = .ok { records := records.map CompleteRecord.record, trailingPartialBytes := tail.length } := by
  rw [scanJournal_header]
  obtain ⟨rounds, offset, henough, hscan⟩ :=
    scanFrames_records records tail (Nat.le_refl _) journalHeaderBytes
  rw [hscan]
  rcases torn with rfl | ⟨c, more, hmore, hcut⟩
  · cases rounds <;> simp [scanFrames, Except.map, JournalScan.after]
  · cases tail with
    | nil => cases rounds <;> simp [scanFrames, Except.map, JournalScan.after]
    | cons =>
      obtain ⟨rounds, rfl⟩ : ∃ n, rounds = n + 1 := ⟨rounds - 1, by simp at henough; omega⟩
      simp [scanFrames, c.readFrame_torn hcut hmore, Except.map, JournalScan.after]

end StateFabric
