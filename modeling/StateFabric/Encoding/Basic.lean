import StateFabric.ByteReader
import StateFabric.Library.Codec
import StateFabric.Library.OrderedMap
import StateFabric.Library.WireEnum

/-!
# Encoding helpers

The helpers of `src/detail/encoding.hpp` that every record codec is made of, each as a codec: the
function that writes, the function that reads, the bounds of the reader, and the proofs that what
is written within the bounds is read back and that whatever is read is within the bounds.  A
record codec lists its fields in the order of the source (`StateFabric.Library.Codec`).

Decoders that do not read all they are given back are written out part by part.  The `run_` rules
run such a decoder over the list of the parts an encoder wrote, one part at a time.
-/

namespace StateFabric

open Reader OrderedMap

variable {tag : IdTag} {maxCount : Nat} {α : Type}

def maxPolicyListEntries : Nat := 4096
def maxPolicyStringLength : Nat := 256

/-- A codec of the checked binary format. -/
abbrev ByteCodec := Codec UInt8 Error

/-- The overloads of `encode` and `decode`. -/
class Wire (α : Type) where
  /-- How the values of the type are written and read. -/
  codec : ByteCodec α

namespace Wire

/-- What is written of a value. -/
def encode [Wire α] (value : α) : Bytes := codec.encode value

/-- Reads a value. -/
def decode [Wire α] : ByteReader α := codec.decode

/-- The value is within the bounds of the decoder. -/
def fits [Wire α] (value : α) : Bool := codec.fits value

/-- What is written of a value within the bounds is read back. -/
theorem reads [Wire α] {value : α} (h : fits value = true) : Reads decode (encode value) value :=
  codec.reads value h

/-- Whatever the bytes, a value that is read is within the bounds. -/
theorem bounded [Wire α] : Ensures decode fun value : α => fits value = true := codec.bounded

end Wire

export Wire (encode decode fits)

/-! ## Identities and enumerations -/

/-- `encode_id`. -/
def encodeId {tag : IdTag} (id : StrongId tag) : Bytes := ByteWriter.u64 id.value

/-- `decode_id`. -/
def decodeId {tag : IdTag} : ByteReader (StrongId tag) := do
  let value ← ByteReader.u64
  pure ⟨value⟩

/-- `encode_enum`. -/
def encodeEnum {α : Type} [WireEnum α] (value : α) : Bytes := ByteWriter.u16 (WireEnum.code value)

/-- Reads an enumeration; `e` reports a number without a value. -/
def decodeCode {α : Type} [WireEnum α] (e : Error) : ByteReader α := do
  let code ← ByteReader.u16
  match WireEnum.ofCode code with
  | some value => pure value
  | none => fail e

/-! ## Lists -/

/-- A count and the values. -/
def encodeVector {α : Type} (write : α → Bytes) (values : List α) : Bytes :=
  ByteWriter.u32 (UInt32.ofNat values.length) ++ values.flatMap write

/-- Reads a count and as many values; `e` reports a count above the bound. -/
def decodeCounted {α : Type} (maxCount : Nat) (e : Error) (read : ByteReader α) :
    ByteReader (List α) := do
  let count ← ByteReader.u32
  guard (decide (count.toNat ≤ maxCount)) e
  times read count.toNat

/-- A list that is not too long, of values that are within their bounds. -/
def listFits {α : Type} (maxCount : Nat) (ok : α → Bool) (values : List α) : Bool :=
  decide (values.length ≤ min maxCount 4294967295) && values.all ok

/-! ## Reading back -/

/-- An identity is read back. -/
theorem reads_id (id : StrongId tag) : Reads decodeId (encodeId id) id :=
  (ByteReader.reads_u64 id.value).map StrongId.mk

/-- An identity is read only off its own spelling. -/
theorem spells_id : Spells (decodeId : ByteReader (StrongId tag)) encodeId :=
  ByteReader.spells_u64.map fun _ => rfl

/-- A value of an enumeration is read back. -/
theorem reads_code [WireEnum α] (e : Error) (value : α) :
    Reads (decodeCode e) (encodeEnum value) value := by
  intro rest
  have hread := (ByteReader.reads_u16 (WireEnum.code value)) rest
  simp only [decodeCode, encodeEnum, run_bind, hread, WireEnum.ofCode_code, run_pure]

/-- A count of at most 32 bits survives its encoding. -/
theorem toNat_count {n : Nat} (h : n ≤ 4294967295) : (UInt32.ofNat n).toNat = n :=
  UInt32.toNat_ofNat_of_lt' (Nat.lt_of_le_of_lt h (by decide))

/-- A list that follows its count is read back when each of its items is. -/
theorem reads_counted {write : α → Bytes} {read : ByteReader α} {ok : α → Bool}
    (items : ∀ a, ok a = true → Reads read (write a) a) {values : List α}
    (h : listFits maxCount ok values = true) (e : Error) :
    Reads (decodeCounted maxCount e read) (encodeVector write values) values := by
  obtain ⟨hbound, hitems⟩ := Bool.and_eq_true_iff.mp h
  have hbound : values.length ≤ min maxCount 4294967295 := of_decide_eq_true hbound
  have hcount := toNat_count (hbound.trans (Nat.min_le_right ..))
  have hguard : decide ((UInt32.ofNat values.length).toNat ≤ maxCount) = true := by
    rw [hcount]
    exact decide_eq_true (hbound.trans (Nat.min_le_left ..))
  have hread : Reads (times read (UInt32.ofNat values.length).toNat) (values.flatMap write)
      values := by
    rw [hcount]
    exact reads_times fun a ha => items a (List.all_eq_true.mp hitems a ha)
  exact (ByteReader.reads_u32 _).bind ((reads_guard hguard _).bind hread)

/-- A loop that adds one new entry per round reads a map back from its entries. -/
theorem reads_entries {κ : Type} [Ord κ] [Std.TransOrd κ] [Std.LawfulEqOrd κ] [DecidableEq κ]
    {body : Std.ExtTreeMap κ α → ByteReader (Std.ExtTreeMap κ α)} {write : κ × α → Bytes}
    (m : Std.ExtTreeMap κ α)
    (h : ∀ (seen : Std.ExtTreeMap κ α) k v, m[k]? = some v → seen[k]? = none →
      seen.size < m.size → Reads (body seen) (write (k, v)) (seen.insert k v)) :
    Reads (iterate body m.size ∅) (m.toList.flatMap write) m := by
  have hsize : m.toList.length = m.size := Std.ExtTreeMap.length_toList
  have hread : Reads (iterate body m.toList.length ∅) (m.toList.flatMap write)
      (insertAll ∅ m.toList) := by
    refine reads_iterate ?_
    rintro before ⟨k, v⟩ after hsplit
    have hmem : (k, v) ∈ m.toList := by
      rw [hsplit]
      exact List.mem_append_right _ List.mem_cons_self
    have hnew : k ∉ before.map Prod.fst := by
      have hnodup := nodup_keys_toList m
      rw [hsplit, List.map_append, List.map_cons] at hnodup
      exact fun hk => (List.nodup_append.mp hnodup).2.2 k hk k List.mem_cons_self rfl
    refine h (insertAll ∅ before) k v (mem_toList_iff.mp hmem) ?_ ?_
    · rw [getElem?_insertAll, Std.ExtTreeMap.getElem?_empty, Option.or_none, lastPut_eq_none]
      exact fun e he hkey => hnew (List.mem_map.mpr ⟨e, he, hkey⟩)
    · have hseen := size_insertAll_le (∅ : Std.ExtTreeMap κ α) before
      rw [Std.ExtTreeMap.size_empty] at hseen
      rw [← hsize, hsplit, List.length_append, List.length_cons]
      omega
  rw [hsize, insertAll_toList] at hread
  exact hread

/-! ## What is read -/

/-- A count has 32 bits. -/
theorem ensures_u32 : Ensures ByteReader.u32 fun value => value.toNat ≤ 4294967295 := by
  intro bytes value rest _
  have hvalue := value.toNat_lt
  omega

/-- A byte range has the length it was read with. -/
theorem ensures_raw (n : Nat) : Ensures (ByteReader.raw n) fun bytes => bytes.length = n := by
  intro bytes value rest h
  have hconsumed := consumes_take n _ bytes value rest h
  have hspelled := congrArg List.length (spells_take n _ bytes value rest h)
  rw [List.length_append, id_eq] at hspelled
  omega

/-- A text or blob that is read is not too long. -/
theorem ensures_prefixed (maxLength : Nat) (e : Error) :
    Ensures (do
      let length ← ByteReader.u32
      guard (decide (length.toNat ≤ maxLength)) e
      ByteReader.raw length.toNat) fun value => ByteReader.textFits maxLength value = true := by
  refine ensures_u32.bind fun length hlength => (ensures_guard _ e).bind fun _ hbound => ?_
  intro bytes value rest h
  have hvalue : value.length = length.toNat := ensures_raw _ bytes value rest h
  have hbound : length.toNat ≤ maxLength := of_decide_eq_true hbound
  rw [ByteReader.textFits, decide_eq_true_eq, hvalue]
  omega

/-- A list that is read is not too long, and its items are within their bounds. -/
theorem ensures_counted {read : ByteReader α} {ok : α → Bool} (maxCount : Nat) (e : Error)
    (h : Ensures read fun value => ok value = true) :
    Ensures (decodeCounted maxCount e read) fun values => listFits maxCount ok values = true := by
  refine ensures_u32.bind fun count hcount => (ensures_guard _ e).bind fun _ hbound => ?_
  intro bytes values rest hrun
  obtain ⟨hlength, hall⟩ := h.times count.toNat bytes values rest hrun
  have hbound : count.toNat ≤ maxCount := of_decide_eq_true hbound
  rw [listFits, Bool.and_eq_true, decide_eq_true_eq, List.all_eq_true, hlength]
  exact ⟨by omega, hall⟩

/-! ## Codecs of fields -/

namespace ByteCodec

def u16 : ByteCodec UInt16 := .total ByteWriter.u16 ByteReader.u16 ByteReader.reads_u16

def u32 : ByteCodec UInt32 := .total ByteWriter.u32 ByteReader.u32 ByteReader.reads_u32

def u64 : ByteCodec UInt64 := .total ByteWriter.u64 ByteReader.u64 ByteReader.reads_u64

def i64 : ByteCodec Int64 := .total ByteWriter.i64 ByteReader.i64 ByteReader.reads_i64

def boolean : ByteCodec Bool :=
  .total ByteWriter.boolean ByteReader.boolean ByteReader.reads_boolean

/-- An identity. -/
def ident {tag : IdTag} : ByteCodec (StrongId tag) := .total encodeId decodeId reads_id

/-- A value of an enumeration; `e` reports a number without a value. -/
def code {α : Type} [WireEnum α] (e : Error) : ByteCodec α :=
  .total encodeEnum (decodeCode e) (reads_code e)

/-- A value of the named enumeration (`decode_enum`). -/
def enumerated {α : Type} [WireEnum α] (name : String) : ByteCodec α :=
  code (makeError .persistenceCorrupt (text ("invalid " ++ name ++ " value in encoded record")))

/-- A text of bounded length. -/
def str (maxLength : Nat) : ByteCodec Text where
  encode := ByteWriter.str
  decode := ByteReader.str maxLength
  fits := ByteReader.textFits maxLength
  reads _ h := ByteReader.reads_str h
  bounded := ensures_prefixed maxLength _

/-- A byte string of bounded length. -/
def blob (maxLength : Nat) : ByteCodec Bytes where
  encode := ByteWriter.blob
  decode := ByteReader.blob maxLength
  fits := ByteReader.textFits maxLength
  reads _ h := ByteReader.reads_blob h
  bounded := ensures_prefixed maxLength _

/-- A list of bounded length; `e` reports a count above the bound. -/
def counted {α : Type} (maxCount : Nat) (e : Error) (c : ByteCodec α) : ByteCodec (List α) where
  encode := encodeVector c.encode
  decode := decodeCounted maxCount e c.decode
  fits := listFits maxCount c.fits
  reads _ h := reads_counted c.reads h e
  bounded := ensures_counted maxCount e c.bounded

/-- The named list of a record (`decode_vector`). -/
def vector {α : Type} (maxCount : Nat) (name : String) (c : ByteCodec α) : ByteCodec (List α) :=
  counted maxCount (makeError .persistenceCorrupt
    (text ("declared " ++ name ++ " count exceeds the permitted bound"))) c

/-- A list of identities (`decode_id_list`). -/
def idents {tag : IdTag} (name : String) : ByteCodec (List (StrongId tag)) :=
  vector maxPolicyListEntries name ident

/-- A list of texts (`decode_string_list`). -/
def strings (maxCount : Nat) (name : String) : ByteCodec (List Text) :=
  vector maxCount name (str maxPolicyStringLength)

/-- A record with a codec of its own. -/
def nested {α : Type} [Wire α] : ByteCodec α := Wire.codec

/-! Only texts, lists and records have bounds. -/

@[simp] theorem fits_u32 (v : UInt32) : u32.fits v = true := rfl

@[simp] theorem fits_u64 (v : UInt64) : u64.fits v = true := rfl

@[simp] theorem fits_boolean (v : Bool) : boolean.fits v = true := rfl

@[simp] theorem fits_ident (id : StrongId tag) : ident.fits id = true := rfl

@[simp] theorem fits_enumerated [WireEnum α] (name : String) (v : α) :
    (enumerated name).fits v = true := rfl

@[simp] theorem fits_nested [Wire α] (v : α) : nested.fits v = fits v := rfl

@[simp] theorem fits_str (maxLength : Nat) (v : Text) :
    (str maxLength).fits v = ByteReader.textFits maxLength v := rfl

@[simp] theorem fits_vector (name : String) (c : ByteCodec α) (values : List α) :
    (vector maxCount name c).fits values = listFits maxCount c.fits values := rfl

@[simp] theorem fits_strings (name : String) (values : List Text) :
    (strings maxCount name).fits values
      = listFits maxCount (ByteReader.textFits maxPolicyStringLength) values := rfl

instance {ρ γ : Type} (make : StrongId tag → γ) (get : ρ → StrongId tag) :
    ((Layout.start ρ make).field ident get : Layout UInt8 Error ρ γ).Headed where
  pos r := (by decide : 0 < 8)

/-- The length of a list of values within their bounds is checked when it is read. -/
theorem strictAt_counted {c : ByteCodec α} {e : Error} {values : List α}
    (small : values.length ≤ 4294967295) (h : ∀ a ∈ values, c.fits a = true) :
    (counted maxCount e c).StrictAt values := by
  intro rest x hrun
  have hwritten : (decodeCounted maxCount e c.decode).run
      (ByteWriter.u32 (UInt32.ofNat values.length) ++ (values.flatMap c.encode ++ rest)) = .ok x := by
    rw [← List.append_assoc]
    exact hrun
  obtain ⟨count, middle, hread, hrun⟩ := run_bind_eq_ok.mp hwritten
  obtain ⟨rfl, rfl⟩ := Prod.mk.inj (Except.ok.inj (hread.symm.trans (ByteReader.reads_u32 _ _)))
  obtain ⟨_, _, hguard, -⟩ := run_bind_eq_ok.mp hrun
  have hbound := of_decide_eq_true (ensures_guard _ _ _ _ _ hguard)
  rw [toNat_count small] at hbound
  exact Bool.and_eq_true_iff.mpr
    ⟨decide_eq_true (Nat.le_min.mpr ⟨hbound, small⟩), List.all_eq_true.mpr h⟩

end ByteCodec

/-! ## Running a decoder over the parts -/

section Rules

variable {γ : Type} (parts : List Bytes) (rest : Bytes)

@[simp ↓] theorem run_u16 (value : UInt16) (f : UInt16 → ByteReader γ) :
    (ByteReader.u16 >>= f).run ((ByteWriter.u16 value :: parts).flatten ++ rest)
      = (f value).run (parts.flatten ++ rest) :=
  run_bind_flatten (ByteReader.reads_u16 value) f parts rest

@[simp ↓] theorem run_u32 (value : UInt32) (f : UInt32 → ByteReader γ) :
    (ByteReader.u32 >>= f).run ((ByteWriter.u32 value :: parts).flatten ++ rest)
      = (f value).run (parts.flatten ++ rest) :=
  run_bind_flatten (ByteReader.reads_u32 value) f parts rest

@[simp ↓] theorem run_u64 (value : UInt64) (f : UInt64 → ByteReader γ) :
    (ByteReader.u64 >>= f).run ((ByteWriter.u64 value :: parts).flatten ++ rest)
      = (f value).run (parts.flatten ++ rest) :=
  run_bind_flatten (ByteReader.reads_u64 value) f parts rest

@[simp ↓] theorem run_id (id : StrongId tag) (f : StrongId tag → ByteReader γ) :
    (decodeId >>= f).run ((encodeId id :: parts).flatten ++ rest)
      = (f id).run (parts.flatten ++ rest) :=
  run_bind_flatten (reads_id id) f parts rest

@[simp ↓] theorem run_str {maxLength : Nat} {value : Text}
    (h : ByteReader.textFits maxLength value = true) (f : Text → ByteReader γ) :
    (ByteReader.str maxLength >>= f).run ((ByteWriter.str value :: parts).flatten ++ rest)
      = (f value).run (parts.flatten ++ rest) :=
  run_bind_flatten (ByteReader.reads_str h) f parts rest

@[simp ↓] theorem run_guard {accepted : Bool} (h : accepted = true) (e : Error)
    (f : Unit → ByteReader γ) (bytes : Bytes) :
    (guard accepted e >>= f).run bytes = (f ()).run bytes :=
  run_guard_bind h e f bytes

@[simp ↓] theorem run_wire [Wire α] {value : α} (h : fits value = true) (f : α → ByteReader γ) :
    (decode >>= f).run ((encode value :: parts).flatten ++ rest)
      = (f value).run (parts.flatten ++ rest) :=
  run_bind_flatten (Wire.reads h) f parts rest

end Rules

end StateFabric
