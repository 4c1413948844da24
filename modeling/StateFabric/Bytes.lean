import StateFabric.Error

/-!
# The checked binary codec: writing

`ByteWriter` of `src/bytes.cpp`.  Every number is written most significant byte first;
variable-length data carries a 32-bit length.
-/

namespace StateFabric

/-- A byte string. -/
abbrev Bytes := List UInt8

namespace ByteWriter

def u8 (value : UInt8) : Bytes := [value]

def u16 (value : UInt16) : Bytes := [(value >>> 8 &&& 0xFF).toUInt8, (value &&& 0xFF).toUInt8]

def u32 (value : UInt32) : Bytes :=
  [(value >>> 24 &&& 0xFF).toUInt8, (value >>> 16 &&& 0xFF).toUInt8,
   (value >>> 8 &&& 0xFF).toUInt8, (value &&& 0xFF).toUInt8]

def u64 (value : UInt64) : Bytes :=
  [(value >>> 56 &&& 0xFF).toUInt8, (value >>> 48 &&& 0xFF).toUInt8,
   (value >>> 40 &&& 0xFF).toUInt8, (value >>> 32 &&& 0xFF).toUInt8,
   (value >>> 24 &&& 0xFF).toUInt8, (value >>> 16 &&& 0xFF).toUInt8,
   (value >>> 8 &&& 0xFF).toUInt8, (value &&& 0xFF).toUInt8]

def i64 (value : Int64) : Bytes := u64 value.toUInt64

def boolean (value : Bool) : Bytes := u8 (if value then 1 else 0)

/-- A 32-bit length followed by the bytes; a longer blob is truncated to the largest
length. -/
def blob (bytes : Bytes) : Bytes :=
  if 4294967295 < bytes.length then u32 0xFFFFFFFF ++ bytes.take 4294967295
  else u32 (UInt32.ofNat bytes.length) ++ bytes

def str (value : Text) : Bytes := blob value

end ByteWriter

end StateFabric
