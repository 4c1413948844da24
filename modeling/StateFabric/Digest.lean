import StateFabric.Error

/-!
# Content digests and SHA-256

The streaming SHA-256 of `src/digest.cpp`: a buffer of at most 64 bytes, a compression
of each full block, and the padding written at finalisation.  The all-zero digest means
"unknown".
-/

namespace StateFabric

/-- A 256-bit content digest. -/
structure Digest where
  bytes : Vector UInt8 32 := Vector.replicate 32 0
  deriving DecidableEq

namespace Digest

def isZero (d : Digest) : Bool := d.bytes.toList.all (· == 0)

/-- A digest that is present. -/
def valid (d : Digest) : Bool := !d.isZero

/-- The character of a hexadecimal digit below 16. -/
def hexDigit (n : UInt8) : UInt8 := if n < 10 then 48 + n else 87 + n

/-- Lower-case hexadecimal rendering. -/
def hex (d : Digest) : Text :=
  d.bytes.toList.flatMap fun (byte : UInt8) =>
    [hexDigit (byte >>> 4 &&& 0x0F), hexDigit (byte &&& 0x0F)]

end Digest

namespace Sha256

def roundConstants : List UInt32 :=
  [0x428a2f98, 0x71374491, 0xb5c0fbcf, 0xe9b5dba5, 0x3956c25b, 0x59f111f1, 0x923f82a4,
   0xab1c5ed5, 0xd807aa98, 0x12835b01, 0x243185be, 0x550c7dc3, 0x72be5d74, 0x80deb1fe,
   0x9bdc06a7, 0xc19bf174, 0xe49b69c1, 0xefbe4786, 0x0fc19dc6, 0x240ca1cc, 0x2de92c6f,
   0x4a7484aa, 0x5cb0a9dc, 0x76f988da, 0x983e5152, 0xa831c66d, 0xb00327c8, 0xbf597fc7,
   0xc6e00bf3, 0xd5a79147, 0x06ca6351, 0x14292967, 0x27b70a85, 0x2e1b2138, 0x4d2c6dfc,
   0x53380d13, 0x650a7354, 0x766a0abb, 0x81c2c92e, 0x92722c85, 0xa2bfe8a1, 0xa81a664b,
   0xc24b8b70, 0xc76c51a3, 0xd192e819, 0xd6990624, 0xf40e3585, 0x106aa070, 0x19a4c116,
   0x1e376c08, 0x2748774c, 0x34b0bcb5, 0x391c0cb3, 0x4ed8aa4a, 0x5b9cca4f, 0x682e6ff3,
   0x748f82ee, 0x78a5636f, 0x84c87814, 0x8cc70208, 0x90befffa, 0xa4506ceb, 0xbef9a3f7,
   0xc67178f2]

/-- The eight working words. -/
structure Words where
  (a b c d e f g h : UInt32)
  deriving DecidableEq

def initialState : Words :=
  ⟨0x6a09e667, 0xbb67ae85, 0x3c6ef372, 0xa54ff53a, 0x510e527f, 0x9b05688c, 0x1f83d9ab,
   0x5be0cd19⟩

def rotr (value : UInt32) (shift : UInt32) : UInt32 :=
  (value >>> shift) ||| (value <<< (32 - shift))

/-- The first sixteen schedule words, assembled bytewise. -/
def blockWords : List UInt8 → List UInt32
  | b0 :: b1 :: b2 :: b3 :: rest =>
    (b0.toUInt32 <<< 24 ||| b1.toUInt32 <<< 16 ||| b2.toUInt32 <<< 8 ||| b3.toUInt32)
      :: blockWords rest
  | _ => []

/-- Extends the schedule by `n` words; the schedule is kept newest first. -/
def extendSchedule : Nat → List UInt32 → List UInt32
  | 0, newest => newest
  | n + 1, newest =>
    let w15 := newest.getD 14 0
    let w2 := newest.getD 1 0
    let s0 := rotr w15 7 ^^^ rotr w15 18 ^^^ (w15 >>> 3)
    let s1 := rotr w2 17 ^^^ rotr w2 19 ^^^ (w2 >>> 10)
    extendSchedule n ((newest.getD 15 0 + s0 + newest.getD 6 0 + s1) :: newest)

/-- One round of the compression function. -/
def round (w : Words) (k schedule : UInt32) : Words :=
  let sigma1 := rotr w.e 6 ^^^ rotr w.e 11 ^^^ rotr w.e 25
  let choose := (w.e &&& w.f) ^^^ (~~~w.e &&& w.g)
  let temp1 := w.h + sigma1 + choose + k + schedule
  let sigma0 := rotr w.a 2 ^^^ rotr w.a 13 ^^^ rotr w.a 22
  let majority := (w.a &&& w.b) ^^^ (w.a &&& w.c) ^^^ (w.b &&& w.c)
  let temp2 := sigma0 + majority
  ⟨temp1 + temp2, w.a, w.b, w.c, w.d + temp1, w.e, w.f, w.g⟩

/-- `compress`: folds one 64-byte block into the state. -/
def compress (state : Words) (block : List UInt8) : Words :=
  let schedule := (extendSchedule 48 (blockWords block).reverse).reverse
  let w := (roundConstants.zip schedule).foldl (fun w ks => round w ks.1 ks.2) state
  ⟨state.a + w.a, state.b + w.b, state.c + w.c, state.d + w.d, state.e + w.e, state.f + w.f,
   state.g + w.g, state.h + w.h⟩

end Sha256

/-- Streaming SHA-256 state; `buffer` holds the bytes of the unfinished block. -/
structure Sha256 where
  state : Sha256.Words := Sha256.initialState
  buffer : List UInt8 := []
  totalBytes : UInt64 := 0
  finalized : Bool := false
  deriving DecidableEq

namespace Sha256

/-- Absorbs one byte, compressing when the buffer fills. -/
def absorb (hasher : Sha256) (byte : UInt8) : Sha256 :=
  let filled := hasher.buffer ++ [byte]
  if filled.length = 64 then
    { hasher with state := compress hasher.state filled, buffer := [] }
  else
    { hasher with buffer := filled }

/-- `update`: no effect once finalised. -/
def update (hasher : Sha256) (data : List UInt8) : Sha256 :=
  if hasher.finalized then hasher
  else
    data.foldl absorb { hasher with totalBytes := hasher.totalBytes + UInt64.ofNat data.length }

/-- Copies bytes into the block and compresses it when it is full. -/
def push (hasher : Sha256) (piece : List UInt8) : Sha256 :=
  let buffer := hasher.buffer ++ piece
  if buffer.length = 64 then
    { hasher with state := compress hasher.state buffer, buffer := [] }
  else { hasher with buffer }

/-- The loop of `update`: each round copies as many bytes as the block has room for. -/
def fill : Nat → Sha256 → List UInt8 → Sha256
  | 0, hasher, _ => hasher
  | rounds + 1, hasher, data =>
    if data = [] then hasher
    else
      let take := min data.length (64 - hasher.buffer.length)
      fill rounds (hasher.push (data.take take)) (data.drop take)

/-- `update` as the loop computes it, block by block. -/
def updateBlocks (hasher : Sha256) (data : List UInt8) : Sha256 :=
  if hasher.finalized then hasher
  else
    fill data.length { hasher with totalBytes := hasher.totalBytes + UInt64.ofNat data.length } data

/-- The big-endian bytes of a word. -/
def wordBytes (w : UInt32) : List UInt8 :=
  [(w >>> 24 &&& 0xFF).toUInt8, (w >>> 16 &&& 0xFF).toUInt8, (w >>> 8 &&& 0xFF).toUInt8,
   (w &&& 0xFF).toUInt8]

/-- The big-endian bytes of the bit length. -/
def lengthBytes (bits : UInt64) : List UInt8 :=
  (List.range 8).map fun index =>
    ((bits >>> (56 - 8 * UInt64.ofNat index)) &&& 0xFF).toUInt8

/-- The state words written out as a digest. -/
def digestOf (w : Words) : Digest :=
  let bytes := [w.a, w.b, w.c, w.d, w.e, w.f, w.g, w.h].flatMap wordBytes
  { bytes := Vector.ofFn fun index => bytes.getD index.val 0 }

/-- `finalize`: pads with `0x80`, zeros and the bit length; the digest of a hasher that is
already finalised is the zero digest. -/
def finalize (hasher : Sha256) : Digest :=
  if hasher.finalized then {}
  else
    let bitLength := hasher.totalBytes <<< 3
    let marked := hasher.buffer ++ [0x80]
    let (state, tail) :=
      if 56 < marked.length then
        (compress hasher.state (marked ++ List.replicate (64 - marked.length) 0), [])
      else (hasher.state, marked)
    let last := tail ++ List.replicate (56 - tail.length) 0 ++ lengthBytes bitLength
    digestOf (compress state last)

end Sha256

/-- One-shot SHA-256. -/
def sha256 (data : List UInt8) : Digest := (({} : Sha256).update data).finalize

end StateFabric
