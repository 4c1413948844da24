import StateFabric.Bytes
import StateFabric.Library.Reader

/-!
# The checked binary codec: reading

`ByteReader` of `src/bytes.cpp`.  A read that finds too few bytes, or a value out of range,
fails with a structured error; nothing is read after a failure.  Every read gives back what
the writer of `StateFabric.Bytes` wrote.
-/

namespace StateFabric

variable {count maxLength w : Nat} {bytes value : Bytes}

/-- A decoder of the checked binary codec. -/
abbrev ByteReader := Reader UInt8 Error

namespace ByteReader

open Reader

def truncated (what : String) : Error := makeError .invalidArgument (text ("truncated " ++ what))

/-- The loop that assembles a number of `count` bytes. -/
def word (w count : Nat) (e : Error) : ByteReader (BitVec w) := do
  let bytes ← take count e
  pure (bigEndian w bytes)

def u8 : ByteReader UInt8 := do
  let value ← word 8 1 (truncated "u8")
  pure ⟨value⟩

def u16 : ByteReader UInt16 := do
  let value ← word 16 2 (truncated "u16")
  pure ⟨value⟩

def u32 : ByteReader UInt32 := do
  let value ← word 32 4 (truncated "u32")
  pure ⟨value⟩

def u64 : ByteReader UInt64 := do
  let value ← word 64 8 (truncated "u64")
  pure ⟨value⟩

def i64 : ByteReader Int64 := do
  let value ← u64
  pure value.toInt64

def boolean : ByteReader Bool := do
  let value ← u8
  guard (decide (value ≤ 1)) (makeError .invalidArgument (text "invalid boolean encoding"))
  pure (value == 1)

def raw (count : Nat) : ByteReader Bytes := take count (truncated "raw byte range")

def blob (maxLength : Nat) : ByteReader Bytes := do
  let length ← u32
  guard (decide (length.toNat ≤ maxLength))
    (makeError .resourceExhausted (text "declared blob length exceeds the permitted bound"))
  raw length.toNat

def str (maxLength : Nat) : ByteReader Text := do
  let length ← u32
  guard (decide (length.toNat ≤ maxLength))
    (makeError .resourceExhausted (text "declared string length exceeds the permitted bound"))
  raw length.toNat

/-- A text or blob that is accepted; no written length exceeds 32 bits. -/
def textFits (maxLength : Nat) (value : Text) : Bool :=
  decide (value.length ≤ min maxLength 4294967295)

/-- `require_end`, after everything was read. -/
def readAll {α : Type} (r : ByteReader α) (bytes : Bytes) : Result α :=
  Reader.readAll r (makeError .invalidArgument (text "trailing bytes after the final field")) bytes

end ByteReader

/-! ## What was written is read back -/

namespace ByteWriter

open Reader

theorem and_255 (byte : UInt8) : byte &&& 255 = byte :=
  UInt8.eq_of_toBitVec_eq BitVec.and_allOnes

theorem u8_eq (value : UInt8) : u8 value = bytesOf value.toBitVec 1 := by
  simp [u8, bytesOf]

theorem u16_eq (value : UInt16) : u16 value = bytesOf value.toBitVec 2 := by
  simp only [u16, bytesOf, UInt16.toUInt8_and, List.cons.injEq]
  exact ⟨and_255 _, and_255 _, trivial⟩

theorem u32_eq (value : UInt32) : u32 value = bytesOf value.toBitVec 4 := by
  simp only [u32, bytesOf, UInt32.toUInt8_and, List.cons.injEq]
  exact ⟨and_255 _, and_255 _, and_255 _, and_255 _, trivial⟩

theorem u64_eq (value : UInt64) : u64 value = bytesOf value.toBitVec 8 := by
  simp only [u64, bytesOf, UInt64.toUInt8_and, List.cons.injEq]
  exact ⟨and_255 _, and_255 _, and_255 _, and_255 _, and_255 _, and_255 _, and_255 _, and_255 _,
    trivial⟩

end ByteWriter

namespace ByteReader

open Reader

theorem reads_word (v : BitVec w) (h : w ≤ 8 * count) (e : Error) :
    Reads (word w count e) (bytesOf v count) v := by
  have hread := (reads_take (length_bytesOf v count) e).map (bigEndian w)
  rwa [bigEndian_bytesOf v h] at hread

theorem reads_u8 (value : UInt8) : Reads u8 (ByteWriter.u8 value) value := by
  rw [ByteWriter.u8_eq]
  exact (reads_word value.toBitVec (Nat.le_refl _) _).map UInt8.ofBitVec

theorem reads_u16 (value : UInt16) : Reads u16 (ByteWriter.u16 value) value := by
  rw [ByteWriter.u16_eq]
  exact (reads_word value.toBitVec (Nat.le_refl _) _).map UInt16.ofBitVec

theorem reads_u32 (value : UInt32) : Reads u32 (ByteWriter.u32 value) value := by
  rw [ByteWriter.u32_eq]
  exact (reads_word value.toBitVec (Nat.le_refl _) _).map UInt32.ofBitVec

theorem reads_u64 (value : UInt64) : Reads u64 (ByteWriter.u64 value) value := by
  rw [ByteWriter.u64_eq]
  exact (reads_word value.toBitVec (Nat.le_refl _) _).map UInt64.ofBitVec

theorem spells_word (h : 8 * count = w) (e : Error) :
    Spells (word w count e) fun v => bytesOf v count := by
  intro bytes v rest hrun
  obtain ⟨taken, middle, htake, hpure⟩ := run_bind_eq_ok.mp hrun
  obtain ⟨rfl, rfl⟩ := Prod.mk.inj (Except.ok.inj hpure)
  have hlength := consumes_take count e bytes taken middle htake
  have hbytes : bytes = taken ++ middle := spells_take count e bytes taken middle htake
  have hcount : taken.length = count := by
    rw [hbytes, List.length_append] at hlength
    omega
  have hspelled : bytesOf (bigEndian w taken) count = taken := by
    rw [← hcount]
    exact bytesOf_bigEndian (by omega)
  simp only [hbytes, hspelled]

theorem spells_u16 : Spells u16 ByteWriter.u16 :=
  (spells_word rfl _).map fun v => ByteWriter.u16_eq ⟨v⟩

theorem spells_u32 : Spells u32 ByteWriter.u32 :=
  (spells_word rfl _).map fun v => ByteWriter.u32_eq ⟨v⟩

theorem spells_u64 : Spells u64 ByteWriter.u64 :=
  (spells_word rfl _).map fun v => ByteWriter.u64_eq ⟨v⟩

theorem reads_u32_bytes (h : bytes.length = 4) : Reads u32 bytes ⟨bigEndian 32 bytes⟩ :=
  ((reads_take h _).map (bigEndian 32)).map UInt32.ofBitVec

theorem consumes_u32 : Consumes u32 4 :=
  ((consumes_take 4 _).bind fun _ => consumes_pure _).bind fun _ => consumes_pure _

theorem reads_i64 (value : Int64) : Reads i64 (ByteWriter.i64 value) value := by
  have hread := (reads_u64 value.toUInt64).map UInt64.toInt64
  rwa [Int64.toInt64_toUInt64] at hread

theorem reads_boolean (value : Bool) : Reads boolean (ByteWriter.boolean value) value := by
  intro rest
  cases value with
  | false => exact (reads_u8 0).bind (reads_pure false) rest
  | true => exact (reads_u8 1).bind (reads_pure true) rest

theorem reads_raw (h : bytes.length = count) : Reads (raw count) bytes bytes := reads_take h _

theorem reads_prefixed (h : textFits maxLength value = true) (e : Error) :
    Reads (do
      let length ← u32
      guard (decide (length.toNat ≤ maxLength)) e
      raw length.toNat) (ByteWriter.blob value) value := by
  have hbound : value.length ≤ min maxLength 4294967295 := of_decide_eq_true h
  have hlength : (UInt32.ofNat value.length).toNat = value.length :=
    UInt32.toNat_ofNat_of_lt' (Nat.lt_of_le_of_lt (hbound.trans (Nat.min_le_right ..)) (by decide))
  have hwritten : ByteWriter.blob value
      = ByteWriter.u32 (UInt32.ofNat value.length) ++ ([] ++ value) := by
    have hshort : ¬ 4294967295 < value.length := by omega
    simp only [ByteWriter.blob, if_neg hshort, List.nil_append]
  rw [hwritten]
  refine (reads_u32 _).bind ((reads_guard ?_ _).bind (reads_raw hlength.symm))
  rw [hlength]
  exact decide_eq_true (hbound.trans (Nat.min_le_left ..))

theorem reads_blob (h : textFits maxLength value = true) :
    Reads (blob maxLength) (ByteWriter.blob value) value := reads_prefixed h _

theorem reads_str {value : Text} (h : textFits maxLength value = true) :
    Reads (str maxLength) (ByteWriter.str value) value := reads_prefixed h _

end ByteReader

end StateFabric
