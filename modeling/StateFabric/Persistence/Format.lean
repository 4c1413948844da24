import StateFabric.Encoding.Plane
import StateFabric.Library.Crc

/-!
# The files of the persistence directory

The byte format of `src/detail/control_plane.cpp`.  The journal is a header followed by framed
records; a frame is a magic number, the length and the checksum of its payload, and the
payload.  Scanning stops at a frame that the file does not hold completely, which is taken to
be an append that was interrupted, and refuses everything else that is not a well-formed
frame.  A snapshot is one checksummed header and one encoded control plane.
-/

namespace StateFabric

open Reader

/-! ## CRC-32C -/

namespace Crc32c

def polynomial : UInt32 := 0x82F63B78

/-- One round of the loop that fills the table. -/
def tableRound (value : UInt32) : UInt32 :=
  if value &&& 1 ≠ 0 then (value >>> 1) ^^^ polynomial else value >>> 1

/-- `kTable[index]`. -/
def table (index : UInt32) : UInt32 := Nat.repeat tableRound 8 index

def initial : UInt32 := 0xFFFFFFFF

/-- One round of the loop over the data. -/
def round (crc : UInt32) (byte : UInt8) : UInt32 :=
  table ((crc ^^^ byte.toUInt32) &&& 0xFF) ^^^ (crc >>> 8)

end Crc32c

/-- `crc32c_extend`. -/
def crc32cExtend (previous : UInt32) (data : Bytes) : UInt32 :=
  data.foldl Crc32c.round (previous ^^^ Crc32c.initial) ^^^ Crc32c.initial

def crc32c (data : Bytes) : UInt32 := crc32cExtend 0 data

/-! ## Constants -/

def snapshotMagic : UInt32 := 0x43435353
def journalMagic : UInt32 := 0x4343534A
def recordMagic : UInt32 := 0x52454331
def controlPlaneFormatVersion : UInt16 := 1
def snapshotHeaderBytes : Nat := 32
def journalHeaderBytes : Nat := 12
def recordHeaderBytes : Nat := 12
def maxPayloadBytes : Nat := 512 * 1024 * 1024

/-! ## Writing -/

/-- The bytes of the journal header whose checksum field holds a given number. -/
def journalHeaderWith (magic : UInt32) (version reserved : UInt16) (checksum : UInt32) : Bytes :=
  [ByteWriter.u32 magic, ByteWriter.u16 version, ByteWriter.u16 reserved,
   ByteWriter.u32 checksum].flatten

/-- The header of a journal. -/
def journalHeader : Bytes :=
  journalHeaderWith journalMagic controlPlaneFormatVersion 0
    (crc32c (journalHeaderWith journalMagic controlPlaneFormatVersion 0 0))

/-- A framed payload. -/
def frame (payload : Bytes) : Bytes :=
  [ByteWriter.u32 recordMagic, ByteWriter.u32 (UInt32.ofNat payload.length),
   ByteWriter.u32 (crc32c payload), payload].flatten

def encodeJournalRecord (record : JournalRecord) : Bytes := frame record.payload

/-- The bytes of the snapshot header whose checksum field holds a given number. -/
def snapshotHeaderWith (magic : UInt32) (version reserved : UInt16) (sequence : UInt64)
    (payloadLength : UInt64) (payloadChecksum checksum : UInt32) : Bytes :=
  [ByteWriter.u32 magic, ByteWriter.u16 version, ByteWriter.u16 reserved, ByteWriter.u64 sequence,
   ByteWriter.u64 payloadLength, ByteWriter.u32 payloadChecksum,
   ByteWriter.u32 checksum].flatten

def encodeSnapshot (p : ControlPlane) : Bytes :=
  let payload := p.encode
  let header := snapshotHeaderWith snapshotMagic controlPlaneFormatVersion 0 p.durableSequence
    (UInt64.ofNat payload.length) (crc32c payload)
  header (crc32c (header 0)) ++ payload

/-! ## Scanning the journal -/

/-- The header of a frame: its magic number, declared length and checksum. -/
def readFrameHeader : ByteReader (UInt32 × UInt32 × UInt32) := do
  let magic ← ByteReader.u32
  let length ← ByteReader.u32
  let checksum ← ByteReader.u32
  pure (magic, length, checksum)

/-- One round of the loop of `scan_journal`: the record of the frame the bytes start with, the
length of its payload and the bytes after it, or `none` when the bytes do not hold the frame
completely. -/
def readFrame (offset : Nat) (bytes : Bytes) : Result (Option (JournalRecord × Nat × Bytes)) :=
  match readFrameHeader.run bytes with
  | .error _ => .ok none
  | .ok ((magic, length, checksum), available) =>
    if magic ≠ recordMagic then
      .error (makeError .persistenceCorrupt
        (text "journal record magic mismatch at offset " ++ natText offset))
    else if maxPayloadBytes < length.toNat then
      .error (makeError .persistenceCorrupt
        (text "journal record declares an oversized payload"))
    else if available.length < length.toNat then .ok none
    else if crc32c (available.take length.toNat) ≠ checksum then
      .error (makeError .persistenceCorrupt
        (text "journal record checksum mismatch at offset " ++ natText offset))
    else
      match decodeJournalRecord (available.take length.toNat) with
      | .error _ =>
        .error (makeError .persistenceCorrupt
          (text "journal record payload is malformed at offset " ++ natText offset))
      | .ok record => .ok (some (record, length.toNat, available.drop length.toNat))

/-- The loop of `scan_journal` over the frames from an offset on.  Every round consumes a
frame header, so as many rounds as there are bytes are enough. -/
def scanFrames : Nat → Nat → Bytes → Result JournalScan
  | 0, _, _ => .ok {}
  | rounds + 1, offset, bytes =>
    if bytes.isEmpty then .ok {}
    else
      match readFrame offset bytes with
      | .error e => .error e
      | .ok none => .ok { trailingPartialBytes := bytes.length }
      | .ok (some (record, length, rest)) =>
        (scanFrames rounds (offset + recordHeaderBytes + length) rest).map
          fun scan => { scan with records := record :: scan.records }

/-- The header of a journal: its magic number, version, reserved field and checksum. -/
def readJournalHeader : ByteReader (UInt32 × UInt16 × UInt16 × UInt32) := do
  let magic ← ByteReader.u32
  let version ← ByteReader.u16
  let reserved ← ByteReader.u16
  let checksum ← ByteReader.u32
  pure (magic, version, reserved, checksum)

def scanJournal (image : Bytes) : Result JournalScan :=
  if image.isEmpty then .ok {}
  else
    match readJournalHeader.run image with
    | .error _ => .error (makeError .persistenceTruncated (text "journal header is truncated"))
    | .ok ((magic, version, reserved, checksum), frames) =>
      if magic ≠ journalMagic then
        .error (makeError .persistenceCorrupt (text "journal magic mismatch"))
      else if version ≠ controlPlaneFormatVersion then
        .error (makeError .persistenceUnsupportedVersion
          (text "unsupported journal format version"))
      else if crc32c (journalHeaderWith magic version reserved 0) ≠ checksum then
        .error (makeError .persistenceCorrupt (text "journal header checksum mismatch"))
      else scanFrames frames.length journalHeaderBytes frames

/-! ## Reading a snapshot -/

/-- The header of a snapshot. -/
structure SnapshotHeader where
  magic : UInt32
  version : UInt16
  reserved : UInt16
  sequence : UInt64
  payloadLength : UInt64
  payloadChecksum : UInt32
  headerChecksum : UInt32

def SnapshotHeader.read : ByteReader SnapshotHeader := do
  let magic ← ByteReader.u32
  let version ← ByteReader.u16
  let reserved ← ByteReader.u16
  let sequence ← ByteReader.u64
  let payloadLength ← ByteReader.u64
  let payloadChecksum ← ByteReader.u32
  let headerChecksum ← ByteReader.u32
  pure { magic, version, reserved, sequence, payloadLength, payloadChecksum, headerChecksum }

/-- The part of `load` that reads the snapshot file. -/
def decodeSnapshot (bytes : Bytes) : Result ControlPlane :=
  match SnapshotHeader.read.run bytes with
  | .error _ =>
    .error (makeError .persistenceTruncated (text "snapshot file is smaller than its header"))
  | .ok (header, payload) => do
    rejectIf (header.magic != snapshotMagic)
      (makeError .persistenceCorrupt (text "snapshot magic mismatch"))
    rejectIf (header.version != controlPlaneFormatVersion)
      (makeError .persistenceUnsupportedVersion (text "unsupported snapshot format version"))
    rejectIf
      (crc32c (snapshotHeaderWith header.magic header.version header.reserved header.sequence
        header.payloadLength header.payloadChecksum 0) != header.headerChecksum)
      (makeError .persistenceCorrupt (text "snapshot header checksum mismatch"))
    rejectIf (decide (UInt64.size ≤ snapshotHeaderBytes + header.payloadLength.toNat))
      (makeError .persistenceCorrupt (text "snapshot declares an impossible size"))
    rejectIf (snapshotHeaderBytes + header.payloadLength.toNat != bytes.length)
      (makeError .persistenceCorrupt
        (text "snapshot size does not match its declared payload length"))
    rejectIf (decide (maxPayloadBytes < header.payloadLength.toNat))
      (makeError .resourceExhausted (text "snapshot payload exceeds the bounded read limit"))
    rejectIf (crc32c payload != header.payloadChecksum)
      (makeError .persistenceCorrupt (text "snapshot payload checksum mismatch"))
    match ControlPlane.decode.run payload with
    | .error e =>
      throw (makeError .persistenceCorrupt (text "snapshot payload is malformed: " ++ e.str))
    | .ok (plane, rest) =>
      rejectIf (!rest.isEmpty)
        (makeError .persistenceCorrupt (text "snapshot payload has trailing bytes"))
      pure { plane with durableSequence := header.sequence }

/-! ## The directory -/

/-- The two files of a persistence directory; an absent file is `none`. -/
structure Files where
  snapshot : Option Bytes := none
  journal : Option Bytes := none
  deriving DecidableEq

/-- The largest file that is read. -/
def maxFileBytes : Nat := 4294967296

/-- `read_file`, for a file that exists. -/
def readFile (bytes : Bytes) : Result Bytes := do
  rejectIf (decide (maxFileBytes < bytes.length))
    (makeError .resourceExhausted (text "control plane file exceeds the bounded read limit"))
  pure bytes

/-- Reads a file when it exists. -/
def readWhenPresent {α : Type} (file : Option Bytes) (read : Bytes → Result α) :
    Result (Option α) :=
  match file with
  | none => .ok none
  | some bytes => do
    let image ← readFile bytes
    let value ← read image
    pure (some value)

namespace Files

def load (files : Files) (maximumRecords : Nat) : Result ControlPlane := do
  let snapshot ← readWhenPresent files.snapshot decodeSnapshot
  let journal ← readWhenPresent files.journal scanJournal
  loadPlane snapshot journal maximumRecords

/-- `append`: a missing journal gets its header first. -/
def append (files : Files) (record : JournalRecord) : Files :=
  { files with journal := some (files.journal.getD journalHeader ++ encodeJournalRecord record) }

/-- `checkpoint`: the snapshot is replaced, then the journal. -/
def checkpoint (p : ControlPlane) : Files :=
  { snapshot := some (encodeSnapshot p), journal := some journalHeader }

end Files

end StateFabric
