import StateFabric.Guarantees.Scenario
import StateFabric.Refinement.Files

/-!
# Guarantees of the durable format

The checksum is CRC-32C.  What is encoded is decoded, and a journal that was damaged in one byte is refused, unless the
damage makes a record declare more bytes than the journal holds: such a record looks like an
append that was interrupted.
-/

namespace StateFabric

open Reader Scenario

variable {D after A C : Bytes}

/-! ## The checksum -/

/-- The checksum is the reflected check by the Castagnoli polynomial `0x1EDC6F41`, least
significant bits first, from a register of ones that is complemented at the end. -/
def castagnoli (data : Bytes) : BitVec 32 :=
  ~~~Crc.bitwise (BitVec.reverse 0x1EDC6F41#32)
    (data.flatMap fun byte => (List.range 8).map byte.toBitVec.getLsbD) (BitVec.allOnes 32)

theorem toBitVec_foldl_round (data : Bytes) (crc : UInt32) :
    (data.foldl Crc32c.round crc).toBitVec = Crc.bitwise Crc32c.polynomial.toBitVec
      (data.flatMap fun byte => (List.range 8).map byte.toBitVec.getLsbD) crc.toBitVec := by
  induction data generalizing crc with
  | nil => rfl
  | cons byte rest ih =>
    have hbits : (List.range 8).map (byte.toBitVec.setWidth 32).getLsbD
        = (List.range 8).map byte.toBitVec.getLsbD :=
      List.map_congr_left fun i hi => by
        have hi := List.mem_range.mp hi
        simp [show i < 32 by omega]
    rw [List.foldl_cons, ih, Crc32c.toBitVec_round,
      Crc.shifts_eq_bitwise _ (Crc32c.setWidth_byte_shift byte), hbits, List.flatMap_cons,
      Crc.bitwise, Crc.bitwise, Crc.bitwise, List.foldl_append]

/-- The checksum is the reflected check by the Castagnoli polynomial, can be extended, and tells
apart strings of one length that differ in one byte. -/
theorem crc32c_correct :
    (∀ data, (crc32c data).toBitVec = castagnoli data)
      ∧ (∀ a b, crc32cExtend (crc32c a) b = crc32c (a ++ b))
      ∧ ∀ (before after : Bytes) (x y : UInt8), x ≠ y →
        crc32c (before ++ x :: after) ≠ crc32c (before ++ y :: after) := by
  refine ⟨fun data => ?_, fun a b => ?_, fun before after x y => crc32c_ne_of_one_change _ _⟩
  · have hpoly : Crc32c.polynomial.toBitVec = BitVec.reverse 0x1EDC6F41#32 := by decide +kernel
    rw [castagnoli, ← hpoly, crc32c, crc32cExtend, UInt32.toBitVec_xor, toBitVec_foldl_round]
    exact BitVec.xor_allOnes
  · have hinner (x : UInt32) : x ^^^ Crc32c.initial ^^^ Crc32c.initial = x := by
      rw [UInt32.xor_assoc, UInt32.xor_self, UInt32.xor_zero]
    simp only [crc32c, crc32cExtend, List.foldl_append, hinner]

/-! ## Round trips -/

/-- What is encoded of a value within the bounds of the decoder is decoded, whatever follows,
and what follows is left unread. -/
def RoundTrips (α : Type) [Wire α] : Prop :=
  ∀ value : α, fits value = true → Reads decode (encode value) value

theorem roundTrips (α : Type) [Wire α] : RoundTrips α := fun _ => Wire.reads

/-- Records, effects, journal records and control planes are decoded from their encodings. -/
theorem durable_format_round_trip :
    (RoundTrips StateGenerationRecord ∧ RoundTrips ClusterRecord ∧ RoundTrips ReplicaRecord ∧
      RoundTrips ReplicaSetRecord ∧ RoundTrips OperationRecord ∧
      RoundTrips TransferAuthorization ∧ RoundTrips OwnershipRecord ∧
      RoundTrips CompatibilityRecord ∧ RoundTrips PlacementPolicyRecord ∧
      RoundTrips ReplicationPolicyRecord ∧ RoundTrips FabricCounters) ∧
    RoundTrips Effect ∧
    (∀ record : JournalRecord, record.fits = true →
      Reads JournalRecord.decode record.payload record.image ∧
      decodeJournalRecord record.payload = .ok record.image ∧
      (record.payload.length ≤ maxPayloadBytes → ∀ offset suffix,
        readFrame offset (encodeJournalRecord record ++ suffix)
          = .ok (some (record.image, record.payload.length, suffix)))) ∧
    (∀ p : ControlPlane, p.Fits → Reads ControlPlane.decode p.encode p.image) := by
  refine ⟨⟨roundTrips _, roundTrips _, roundTrips _, roundTrips _, roundTrips _, roundTrips _,
    roundTrips _, roundTrips _, roundTrips _, roundTrips _, roundTrips _⟩, roundTrips _, ?_, ?_⟩
  · intro record hfits
    have hreads := JournalRecord.reads hfits
    refine ⟨hreads, readAll_of_reads hreads _, fun hbounded offset suffix => ?_⟩
    have hframe := (CompleteRecord.ofRecord record hfits hbounded).readFrame_bytes suffix offset
    rwa [CompleteRecord.ofRecord_bytes, CompleteRecord.ofRecord_record,
      CompleteRecord.ofRecord_payload] at hframe
  · intro p hfits
    exact ControlPlane.reads hfits

namespace Scenario

/-- The plane of a fabric that committed one copy of a state generation. -/
def copied : ControlPlane :=
  (reach ([cluster 1, state 7 1 .immutable, stateCommit 7 1 3] ++ copy 5 7 1 1 9 false)).plane

/-- The journal record that would put the records of that plane. -/
def copiedRecord : JournalRecord :=
  { effects := copied.clusters.toList.map (fun entry => .putCluster entry.2)
      ++ copied.replicas.toList.map (fun entry => .putReplica entry.2) ++ [.setEpoch ⟨2⟩]
    sequence := 4
    tick := 9 }

end Scenario

theorem durable_format_round_trip_of_copy :
    (copied.replicas.size = 1 ∧ copied.Fits ∧ copiedRecord.fits = true) ∧
    Reads ControlPlane.decode copied.encode copied.image ∧
    (∀ offset suffix, readFrame offset (encodeJournalRecord copiedRecord ++ suffix)
      = .ok (some (copiedRecord.image, copiedRecord.payload.length, suffix))) := by
  have hfits : copied.Fits := by decide +kernel
  have hrecord : copiedRecord.fits = true := by decide +kernel
  have hbounded : copiedRecord.payload.length ≤ maxPayloadBytes := by decide +kernel
  exact ⟨⟨by decide +kernel, hfits, hrecord⟩, durable_format_round_trip.2.2.2 copied hfits,
    (durable_format_round_trip.2.2.1 copiedRecord hrecord).2.2 hbounded⟩

/-! ## Damaged records -/

/-- The payload length a frame declares. -/
def declaredLength (record : Bytes) : Nat := (bigEndian 32 ((record.drop 4).take 4)).toNat

/-- A frame declares a legal payload that ends beyond the end of the journal. -/
def Overruns (record after : Bytes) : Prop :=
  declaredLength record ≤ maxPayloadBytes ∧
    (record ++ after).length < recordHeaderBytes + declaredLength record

instance (record after : Bytes) : Decidable (Overruns record after) :=
  inferInstanceAs (Decidable (_ ∧ _))

section Parts

variable {A B C : Bytes} (hA : A.length = 4) (hB : B.length = 4) (hC : C.length = 4)
include hA hB hC

theorem overruns_parts (D after : Bytes) :
    Overruns (A ++ (B ++ (C ++ D))) after ↔
      (bigEndian 32 B).toNat ≤ maxPayloadBytes ∧
        (D ++ after).length < (bigEndian 32 B).toNat := by
  have hdeclared : declaredLength (A ++ (B ++ (C ++ D))) = (bigEndian 32 B).toNat := by
    rw [declaredLength, List.drop_left' hA, List.take_left' hB]
  rw [Overruns, hdeclared]
  simp only [List.length_append, hA, hB, hC, recordHeaderBytes]
  constructor <;> rintro ⟨h1, h2⟩ <;> exact ⟨h1, by omega⟩

theorem readFrame_parts (D : Bytes) (offset : Nat) :
    (∃ e, readFrame offset (A ++ (B ++ (C ++ D))) = .error e) ∨
      ((⟨bigEndian 32 A⟩ : UInt32) = recordMagic ∧
        (bigEndian 32 B).toNat ≤ maxPayloadBytes ∧
        (D.length < (bigEndian 32 B).toNat ∧ readFrame offset (A ++ (B ++ (C ++ D))) = .ok none ∨
          (bigEndian 32 B).toNat ≤ D.length ∧
          crc32c (D.take (bigEndian 32 B).toNat) = ⟨bigEndian 32 C⟩ ∧
          ∃ record, decodeJournalRecord (D.take (bigEndian 32 B).toNat) = .ok record)) := by
  simp only [readFrame, readFrameHeader_run hA hB hC]
  split
  · exact .inl ⟨_, rfl⟩
  · rename_i hmagic
    split
    · exact .inl ⟨_, rfl⟩
    · rename_i hbounded
      split
      · rename_i hmissing
        exact .inr ⟨not_not.mp hmagic, Nat.le_of_not_lt hbounded, .inl ⟨hmissing, rfl⟩⟩
      · rename_i hcomplete
        split
        · exact .inl ⟨_, rfl⟩
        · rename_i hchecksum
          split
          · exact .inl ⟨_, rfl⟩
          · rename_i record hdecoded
            exact .inr ⟨not_not.mp hmagic, Nat.le_of_not_lt hbounded,
              .inr ⟨Nat.le_of_not_lt hcomplete, not_not.mp hchecksum, record, hdecoded⟩⟩

/-- A frame that is in order but declares more than there is left is a torn tail. -/
theorem readFrame_overrun (hmagic : (⟨bigEndian 32 A⟩ : UInt32) = recordMagic)
    (hbounded : (bigEndian 32 B).toNat ≤ maxPayloadBytes)
    (hmissing : D.length < (bigEndian 32 B).toNat) (offset : Nat) :
    readFrame offset (A ++ (B ++ (C ++ D))) = .ok none := by
  have hbounded : ¬ maxPayloadBytes < (bigEndian 32 B).toNat := Nat.not_lt_of_le hbounded
  have hlength : (⟨bigEndian 32 B⟩ : UInt32).toNat = (bigEndian 32 B).toNat := rfl
  simp only [readFrame, readFrameHeader_run hA hB hC, hmagic, hlength, ne_eq, not_true_eq_false,
    if_false, if_neg hbounded, if_pos hmissing]

end Parts

theorem eq_u32_of_bigEndian {bytes : Bytes} {value : UInt32} (hlength : bytes.length = 4)
    (h : (⟨bigEndian 32 bytes⟩ : UInt32) = value) : bytes = ByteWriter.u32 value := by
  refine bigEndian_injective (w := 32) (hlength.trans (length_u32 value).symm) (by omega) ?_
  rw [ByteWriter.u32_eq, bigEndian_bytesOf _ (by decide), ← h]

namespace CompleteRecord

variable (c : CompleteRecord) {left right : Bytes} {x y : UInt8}

/-- A payload with one byte changed, one that was cut or one that was continued is not the
payload the checksum was made for, or does not decode. -/
theorem eq_length_of_decoded {n : Nat} {record : JournalRecord}
    (available : n ≤ (c.payload ++ after).length)
    (decoded : decodeJournalRecord ((c.payload ++ after).take n) = .ok record) :
    n = c.payload.length := by
  rcases Nat.lt_trichotomy n c.payload.length with hshort | heq | hlong
  · have htake : (c.payload ++ after).take n = c.payload.take n :=
      List.take_append_of_le_length (Nat.le_of_lt hshort)
    have hwhole : c.payload = c.payload.take n ++ c.payload.drop n :=
      (List.take_append_drop n c.payload).symm
    rw [htake] at decoded
    have hc := c.decoded
    rw [hwhole] at hc
    have hnil := eq_nil_of_readAll decoded hc
    rw [List.drop_eq_nil_iff] at hnil
    omega
  · exact heq
  · have htake : (c.payload ++ after).take n = c.payload ++ after.take (n - c.payload.length) := by
      rw [List.take_append, List.take_of_length_le (Nat.le_of_lt hlong)]
    rw [htake] at decoded
    have hnil := eq_nil_of_readAll c.decoded decoded
    rw [List.length_append] at available
    have hlength := congrArg List.length hnil
    rw [List.length_take, List.length_nil] at hlength
    omega

theorem declared_eq :
    (bigEndian 32 (ByteWriter.u32 (UInt32.ofNat c.payload.length))).toNat = c.payload.length := by
  have h := congrArg UInt32.toNat (bigEndian_u32 (UInt32.ofNat c.payload.length))
  rw [c.toNat_length] at h
  exact h

theorem not_overruns (hA : A.length = 4) (hC : C.length = 4) (hD : D.length = c.payload.length) :
    ¬ Overruns (A ++ (ByteWriter.u32 (UInt32.ofNat c.payload.length) ++ (C ++ D))) after := by
  rw [overruns_parts hA (length_u32 _) hC, c.declared_eq, List.length_append]
  omega

section Damage

variable (after : Bytes) (offset : Nat)

theorem refused_of_magic (hA : A.length = 4) (hne : A ≠ ByteWriter.u32 recordMagic) :
    ∃ e, readFrame offset (A ++ (ByteWriter.u32 (UInt32.ofNat c.payload.length)
      ++ (ByteWriter.u32 (crc32c c.payload) ++ (c.payload ++ after)))) = .error e := by
  rcases readFrame_parts hA (length_u32 _) (length_u32 _) _ offset with herror | ⟨hmagic, -⟩
  · exact herror
  · exact absurd (eq_u32_of_bigEndian hA hmagic) hne

theorem refused_of_checksum (hC : C.length = 4) (hne : C ≠ ByteWriter.u32 (crc32c c.payload)) :
    ∃ e, readFrame offset (ByteWriter.u32 recordMagic
      ++ (ByteWriter.u32 (UInt32.ofNat c.payload.length) ++ (C ++ (c.payload ++ after))))
        = .error e := by
  rcases readFrame_parts (length_u32 _) (length_u32 _) hC _ offset with
    herror | ⟨-, -, ⟨hmissing, -⟩ | ⟨-, hchecksum, -⟩⟩
  · exact herror
  · rw [c.declared_eq, List.length_append] at hmissing
    omega
  · rw [c.declared_eq, List.take_left] at hchecksum
    exact absurd (eq_u32_of_bigEndian hC hchecksum.symm) hne

theorem refused_of_payload (hD : D.length = c.payload.length) (hne : crc32c c.payload ≠ crc32c D) :
    ∃ e, readFrame offset (ByteWriter.u32 recordMagic
      ++ (ByteWriter.u32 (UInt32.ofNat c.payload.length)
        ++ (ByteWriter.u32 (crc32c c.payload) ++ (D ++ after)))) = .error e := by
  rcases readFrame_parts (length_u32 _) (length_u32 _) (length_u32 _) _ offset with
    herror | ⟨-, -, ⟨hmissing, -⟩ | ⟨-, hchecksum, -⟩⟩
  · exact herror
  · rw [c.declared_eq, List.length_append] at hmissing
    omega
  · rw [c.declared_eq, ← hD, List.take_left, bigEndian_u32] at hchecksum
    exact absurd hchecksum.symm hne

/-- A wrong length overruns the journal, or the payload it cuts out does not decode. -/
theorem refused_of_length {B : Bytes} (hB : B.length = 4)
    (hne : B ≠ ByteWriter.u32 (UInt32.ofNat c.payload.length))
    (fits : ¬ Overruns (ByteWriter.u32 recordMagic
      ++ (B ++ (ByteWriter.u32 (crc32c c.payload) ++ c.payload))) after) :
    ∃ e, readFrame offset (ByteWriter.u32 recordMagic
      ++ (B ++ (ByteWriter.u32 (crc32c c.payload) ++ (c.payload ++ after)))) = .error e := by
  rw [overruns_parts (length_u32 _) hB (length_u32 _)] at fits
  rcases readFrame_parts (length_u32 _) hB (length_u32 _) _ offset with
    herror | ⟨-, hbounded, ⟨hmissing, -⟩ | ⟨hcomplete, -, record, hdecoded⟩⟩
  · exact herror
  · exact absurd ⟨hbounded, hmissing⟩ fits
  · have hlength := c.eq_length_of_decoded hcomplete hdecoded
    have hvalue : (⟨bigEndian 32 B⟩ : UInt32) = UInt32.ofNat c.payload.length := by
      rw [← UInt32.toNat_inj, c.toNat_length]
      exact hlength
    exact absurd (eq_u32_of_bigEndian hB hvalue) hne

end Damage

/-- A frame damaged in one byte is refused, unless it overruns the journal; then it is taken
for a torn tail. -/
theorem readFrame_damaged (damaged : c.bytes = left ++ x :: right) (hne : x ≠ y) (after : Bytes)
    (offset : Nat) :
    (Overruns (left ++ y :: right) after ∧
      readFrame offset ((left ++ y :: right) ++ after) = .ok none) ∨
    (¬ Overruns (left ++ y :: right) after ∧
      ∃ e, readFrame offset ((left ++ y :: right) ++ after) = .error e) := by
  have hparts := c.bytes_append []
  rw [List.append_nil, List.append_nil, damaged] at hparts
  have hchange (before more : Bytes) : before ++ y :: more ≠ before ++ x :: more := by
    simp [hne.symm]
  -- The damage is in the magic number, the length, the checksum or the payload.
  rcases append_cons_eq_append hparts with ⟨r, hA, rfl⟩ | ⟨l₁, rfl, hfields⟩
  · have hlength : (left ++ y :: r).length = 4 := by
      have h := congrArg List.length hA
      rw [length_u32] at h
      simpa using h.symm
    refine .inr ⟨?_, ?_⟩
    · simpa using c.not_overruns hlength (length_u32 _) rfl
    · simpa using c.refused_of_magic after offset hlength (hA ▸ hchange left r)
  rcases append_cons_eq_append hfields.symm with ⟨r, hB, rfl⟩ | ⟨l₂, rfl, htail⟩
  · have hlength : (l₁ ++ y :: r).length = 4 := by
      have h := congrArg List.length hB
      rw [length_u32] at h
      simpa using h.symm
    by_cases hover : Overruns (ByteWriter.u32 recordMagic
      ++ ((l₁ ++ y :: r) ++ (ByteWriter.u32 (crc32c c.payload) ++ c.payload))) after
    · obtain ⟨hbounded, hmissing⟩ :=
        (overruns_parts (length_u32 _) hlength (length_u32 _) _ _).mp hover
      have htorn := readFrame_overrun (length_u32 _) hlength (length_u32 (crc32c c.payload))
        (bigEndian_u32 recordMagic) hbounded hmissing offset
      exact .inl ⟨by simpa using hover, by simpa using htorn⟩
    · refine .inr ⟨by simpa using hover, ?_⟩
      simpa using c.refused_of_length after offset hlength (hB ▸ hchange l₁ r) hover
  rcases append_cons_eq_append htail.symm with ⟨r, hC, rfl⟩ | ⟨l₃, rfl, hpayload⟩
  · have hlength : (l₂ ++ y :: r).length = 4 := by
      have h := congrArg List.length hC
      rw [length_u32] at h
      simpa using h.symm
    refine .inr ⟨?_, ?_⟩
    · simpa using c.not_overruns (length_u32 recordMagic) hlength rfl
    · simpa using c.refused_of_checksum after offset hlength (hC ▸ hchange l₂ r)
  · have hlength : (l₃ ++ y :: right).length = c.payload.length := by simp [hpayload]
    have hchecksum : crc32c c.payload ≠ crc32c (l₃ ++ y :: right) := by
      rw [hpayload]
      exact crc32c_ne_of_one_change l₃ right hne
    refine .inr ⟨?_, ?_⟩
    · simpa using c.not_overruns (length_u32 recordMagic) (length_u32 (crc32c c.payload)) hlength
    · simpa using c.refused_of_payload after offset hlength hchecksum

end CompleteRecord

/-- A journal with one damaged byte is refused exactly when the damaged record does not
overrun it. -/
theorem journal_corruption_detected (before after : List CompleteRecord) (c : CompleteRecord)
    {left right : Bytes} {x y : UInt8} (damaged : c.bytes = left ++ x :: right) (hne : x ≠ y) :
    (∃ e, scanJournal (journalHeader ++ (before.flatMap CompleteRecord.bytes
      ++ ((left ++ y :: right) ++ after.flatMap CompleteRecord.bytes))) = .error e) ↔
    ¬ Overruns (left ++ y :: right) (after.flatMap CompleteRecord.bytes) := by
  rw [scanJournal_header]
  obtain ⟨rounds, offset, henough, hscan⟩ := scanFrames_records before
    ((left ++ y :: right) ++ after.flatMap CompleteRecord.bytes) (Nat.le_refl _) journalHeaderBytes
  rw [hscan]
  have hnonempty :
      ((left ++ y :: right) ++ after.flatMap CompleteRecord.bytes).isEmpty = false := by
    simp
  obtain ⟨rounds, rfl⟩ : ∃ n, rounds = n + 1 := ⟨rounds - 1, by simp at henough; omega⟩
  rw [scanFrames, hnonempty]
  rcases c.readFrame_damaged damaged hne (after.flatMap CompleteRecord.bytes) offset with
    ⟨hover, htorn⟩ | ⟨hfits, e, herror⟩
  · rw [htorn]
    simp [hover, Except.map]
  · rw [herror]
    simp [hfits, Except.map]

namespace Scenario

/-- Two journal records, as two mutations append them. -/
def firstRecord : CompleteRecord :=
  .ofRecord { effects := [.setNextId 5], sequence := 1, tick := 1 } (by decide +kernel)
    (by decide +kernel)

def secondRecord : CompleteRecord :=
  .ofRecord { effects := [.setNextId 6], sequence := 2, tick := 2 } (by decide +kernel)
    (by decide +kernel)

end Scenario

theorem journal_corruption_detected_in_payload :
    (firstRecord.bytes = firstRecord.bytes.take 49 ++ 5 :: firstRecord.bytes.drop 50 ∧
      (5 : UInt8) ≠ 7) ∧
    ∃ e, scanJournal (journalHeader ++ ([].flatMap CompleteRecord.bytes
      ++ ((firstRecord.bytes.take 49 ++ 7 :: firstRecord.bytes.drop 50)
        ++ [secondRecord].flatMap CompleteRecord.bytes))) = .error e := by
  have hdamaged : firstRecord.bytes
      = firstRecord.bytes.take 49 ++ 5 :: firstRecord.bytes.drop 50 := by decide +kernel
  exact ⟨⟨hdamaged, by decide⟩,
    (journal_corruption_detected [] [secondRecord] firstRecord hdamaged (by decide)).mpr
      (by decide +kernel)⟩

/-- A length field that grew hides both records: the scan takes the first one for the tail of
an interrupted append. -/
theorem journal_corruption_undetected :
    firstRecord.bytes = firstRecord.bytes.take 6 ++ 0 :: firstRecord.bytes.drop 7 ∧
    scanJournal (journalHeader ++ [firstRecord, secondRecord].flatMap CompleteRecord.bytes)
      = .ok { records := [firstRecord.record, secondRecord.record] } ∧
    scanJournal (journalHeader ++ ((firstRecord.bytes.take 6 ++ 1 :: firstRecord.bytes.drop 7)
      ++ [secondRecord].flatMap CompleteRecord.bytes))
      = .ok { trailingPartialBytes := firstRecord.bytes.length + secondRecord.bytes.length } := by
  decide +kernel

/-! ## Scanning exactly -/

theorem readFrame_some {bytes rest : Bytes} {n : Nat} {record : JournalRecord}
    (h : readFrame offset bytes = .ok (some (record, n, rest))) :
    ∃ payload, bytes = frame payload ++ rest ∧ decodeJournalRecord payload = .ok record := by
  have hlong : recordHeaderBytes ≤ bytes.length := by
    by_contra hshort
    rw [readFrame_short (Nat.lt_of_not_le hshort)] at h
    cases h
  rw [recordHeaderBytes] at hlong
  obtain ⟨A, B, C, D, rfl, hA, hB, hC⟩ : ∃ A B C D : Bytes, bytes = A ++ (B ++ (C ++ D))
      ∧ A.length = 4 ∧ B.length = 4 ∧ C.length = 4 :=
    ⟨bytes.take 4, (bytes.drop 4).take 4, ((bytes.drop 4).drop 4).take 4,
      ((bytes.drop 4).drop 4).drop 4, by simp only [List.take_append_drop],
      by simp; omega, by simp; omega, by simp; omega⟩
  simp only [readFrame, readFrameHeader_run hA hB hC] at h
  split at h <;> [cases h; rename_i hmagic]
  split at h <;> [cases h; skip]
  split at h <;> [cases h; rename_i hcomplete]
  split at h <;> [cases h; rename_i hchecksum]
  split at h <;> [cases h; rename_i hdecoded]
  simp only [Except.ok.injEq, Option.some.injEq, Prod.mk.injEq] at h
  obtain ⟨rfl, rfl, rfl⟩ := h
  refine ⟨_, ?_, hdecoded⟩
  rw [frame_append, List.take_append_drop, ← eq_u32_of_bigEndian hA (not_not.mp hmagic),
    ← eq_u32_of_bigEndian hC (not_not.mp hchecksum).symm, ← eq_u32_of_bigEndian hB]
  rw [List.length_take, Nat.min_eq_left (Nat.le_of_not_lt hcomplete), UInt32.ofNat_toNat]

theorem length_rest_lt {bytes rest : Bytes} {n : Nat} {record : JournalRecord}
    (h : readFrame offset bytes = .ok (some (record, n, rest))) : rest.length < bytes.length := by
  obtain ⟨payload, rfl, -⟩ := readFrame_some h
  rw [frame_append, List.length_append, length_u32]
  simp only [List.length_append]
  omega

theorem scanFrames_rounds {rounds more : Nat} {bytes : Bytes} (enough : bytes.length ≤ rounds)
    (offset : Nat) : scanFrames (rounds + more) offset bytes = scanFrames rounds offset bytes := by
  induction rounds generalizing bytes offset with
  | zero =>
    obtain rfl := List.length_eq_zero_iff.mp (Nat.le_zero.mp enough)
    cases more <;> simp [scanFrames]
  | succ rounds ih =>
    rw [Nat.add_right_comm, scanFrames, scanFrames]
    cases hread : readFrame offset bytes with
    | error => rfl
    | ok found =>
      rcases found with - | ⟨record, n, rest⟩
      · rfl
      · have hlt := length_rest_lt hread
        simp only [ih (Nat.le_of_lt_succ (Nat.lt_of_lt_of_le hlt enough))]

/-- What is scanned is cut into the frames of the records and the tail that is reported. -/
theorem scanFrames_parts {rounds : Nat} {bytes : Bytes} {scan : JournalScan}
    (enough : bytes.length ≤ rounds) (h : scanFrames rounds offset bytes = .ok scan) :
    ∃ (payloads : List Bytes) (tail : Bytes), bytes = payloads.flatMap frame ++ tail
      ∧ payloads.map decodeJournalRecord = scan.records.map .ok
      ∧ tail.length = scan.trailingPartialBytes := by
  induction rounds generalizing bytes offset scan with
  | zero =>
    obtain rfl := List.length_eq_zero_iff.mp (Nat.le_zero.mp enough)
    obtain rfl := Except.ok.inj h
    exact ⟨[], [], rfl, rfl, rfl⟩
  | succ rounds ih =>
    rw [scanFrames] at h
    split at h
    · rename_i hempty
      obtain rfl := List.isEmpty_iff.mp hempty
      obtain rfl := Except.ok.inj h
      exact ⟨[], [], rfl, rfl, rfl⟩
    · cases hread : readFrame offset bytes with
      | error => simp [hread] at h
      | ok found =>
        rcases found with - | ⟨record, n, rest⟩
        · simp only [hread, Except.ok.injEq] at h
          exact ⟨[], bytes, rfl, by rw [← h]; rfl, by rw [← h]⟩
        · simp only [hread] at h
          have hlt := length_rest_lt hread
          obtain ⟨payload, rfl, hdecoded⟩ := readFrame_some hread
          cases hinner : scanFrames rounds (offset + recordHeaderBytes + n) rest with
          | error => simp [hinner, Except.map] at h
          | ok inner =>
            obtain ⟨payloads, tail, rfl, hrecords, htail⟩ :=
              ih (Nat.le_of_lt_succ (Nat.lt_of_lt_of_le hlt enough)) hinner
            rw [hinner] at h
            obtain rfl := Except.ok.inj h
            exact ⟨payload :: payloads, tail, by simp, by simp [hdecoded, hrecords], htail⟩

/-- Journal scanning is exact: records within the bounds of the decoder and a beginning of one more
are scanned to those records and the length of the beginning.  The scan of any bytes stops within as
many rounds as there are bytes, and takes them for consecutive frames and the tail it reports. -/
theorem journal_scan_exact :
    (∀ (records : List JournalRecord) (next : JournalRecord) (cut more : Bytes),
      (∀ r ∈ next :: records, r.fits = true ∧ r.payload.length ≤ maxPayloadBytes) →
      encodeJournalRecord next = cut ++ more → more ≠ [] →
      scanJournal (journalHeader ++ (records.flatMap encodeJournalRecord ++ cut))
        = .ok { records := records.map JournalRecord.image, trailingPartialBytes := cut.length })
    ∧ ∀ bytes : Bytes,
      (∀ more offset, scanFrames (bytes.length + more) offset bytes
        = scanFrames bytes.length offset bytes)
      ∧ ∀ offset scan, scanFrames bytes.length offset bytes = .ok scan →
        ∃ (payloads : List Bytes) (tail : Bytes), bytes = payloads.flatMap frame ++ tail
          ∧ payloads.map decodeJournalRecord = scan.records.map .ok
          ∧ tail.length = scan.trailingPartialBytes := by
  refine ⟨fun records next cut more bounds hcut hmore => ?_, fun bytes =>
    ⟨fun more => scanFrames_rounds (Nat.le_refl _), fun _ _ => scanFrames_parts (Nat.le_refl _)⟩⟩
  obtain ⟨hfits, hbounded⟩ := bounds next List.mem_cons_self
  obtain ⟨complete, hbytes, hrecords⟩ := Directory.exists_completeRecords fun r hr =>
    bounds r (List.mem_cons_of_mem _ hr)
  rw [← hbytes, ← hrecords]
  exact scanJournal_records complete (.inr ⟨.ofRecord next hfits hbounded, more, hmore, hcut⟩)

theorem journal_scan_exact_of_cut :
    scanJournal (journalHeader
        ++ ([{ effects := [.setNextId 5], sequence := 1 }].flatMap encodeJournalRecord
          ++ (encodeJournalRecord { effects := [.setNextId 6], sequence := 2 }).take 30))
      = .ok { records := [{ effects := [.setNextId 5], sequence := 1 }]
              trailingPartialBytes := 30 } :=
  journal_scan_exact.1 [{ effects := [.setNextId 5], sequence := 1 }]
    { effects := [.setNextId 6], sequence := 2 } _ _ (by decide +kernel)
    (List.take_append_drop 30 _).symm (by decide +kernel)

end StateFabric
