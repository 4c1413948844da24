import StateFabric.Encoding.Records
import StateFabric.Persistence.Directory

/-!
# Encoding of effects, journal records and the control plane

`encode_effect`, `encode_control_plane` and the journal record payload of
`src/detail/control_plane.cpp`.  A record map is written as a count and the records; the
decoder stores each record under its own key and refuses a key it has seen.
-/

namespace StateFabric

open Reader OrderedMap

def maxJournalEffectsPerRecord : Nat := 64
def maxDecodedRecords : Nat := 2000000
def maxDecodedStates : Nat := 2000000
def maxDecodedClusters : Nat := 65536
def maxDecodedReplicas : Nat := 4000000
def maxDecodedOperations : Nat := 1000000

/-! ## Effects -/

/-- What an effect does. -/
inductive EffectKind
  | putState | putCluster | putReplica | putReplicaSet | putOperation | putAuthorization
  | putOwnership | putCompatibility | putPlacementPolicy | putReplicationPolicy | putCounters
  | setEpoch | setNextId
  deriving DecidableEq

instance : WireEnum EffectKind :=
  .numbered (·.ctorIdx + 1) EffectKind.ofNat 13 (by rintro ⟨⟩ <;> rfl)

namespace Effect

def kind : Effect → EffectKind
  | .putState _ => .putState
  | .putCluster _ => .putCluster
  | .putReplica _ => .putReplica
  | .putReplicaSet _ => .putReplicaSet
  | .putOperation _ => .putOperation
  | .putAuthorization _ => .putAuthorization
  | .putOwnership _ => .putOwnership
  | .putCompatibility _ => .putCompatibility
  | .putPlacementPolicy _ => .putPlacementPolicy
  | .putReplicationPolicy _ => .putReplicationPolicy
  | .putCounters _ => .putCounters
  | .setEpoch _ => .setEpoch
  | .setNextId _ => .setNextId

/-- What follows the kind of an effect. -/
def payload : Effect → Bytes
  | .putState r => Wire.encode r
  | .putCluster r => Wire.encode r
  | .putReplica r => Wire.encode r
  | .putReplicaSet r => Wire.encode r
  | .putOperation r => Wire.encode r
  | .putAuthorization r => Wire.encode r
  | .putOwnership r => Wire.encode r
  | .putCompatibility r => Wire.encode r
  | .putPlacementPolicy r => Wire.encode r
  | .putReplicationPolicy r => Wire.encode r
  | .putCounters counters => Wire.encode counters
  | .setEpoch epoch => encodeId epoch
  | .setNextId value => ByteWriter.u64 value

/-- `encode_effect`. -/
def encode (e : Effect) : Bytes := [encodeEnum e.kind, e.payload].flatten

/-- Reads what follows the kind of an effect.  A record decoder that fails has said why, so
the "malformed record" error of `decode_record` is never the one reported. -/
def decodePayload : EffectKind → ByteReader Effect
  | .putState => Wire.decode >>= fun r => pure (.putState r)
  | .putCluster => Wire.decode >>= fun r => pure (.putCluster r)
  | .putReplica => Wire.decode >>= fun r => pure (.putReplica r)
  | .putReplicaSet => Wire.decode >>= fun r => pure (.putReplicaSet r)
  | .putOperation => Wire.decode >>= fun r => pure (.putOperation r)
  | .putAuthorization => Wire.decode >>= fun r => pure (.putAuthorization r)
  | .putOwnership => Wire.decode >>= fun r => pure (.putOwnership r)
  | .putCompatibility => Wire.decode >>= fun r => pure (.putCompatibility r)
  | .putPlacementPolicy => Wire.decode >>= fun r => pure (.putPlacementPolicy r)
  | .putReplicationPolicy => Wire.decode >>= fun r => pure (.putReplicationPolicy r)
  | .putCounters => Wire.decode >>= fun counters => pure (.putCounters counters)
  | .setEpoch => decodeId >>= fun epoch => pure (.setEpoch epoch)
  | .setNextId => ByteReader.u64 >>= fun value => pure (.setNextId value)

/-- `decode_effect`. -/
def decode : ByteReader Effect := do
  let raw ← ByteReader.u16
  match WireEnum.ofCode raw with
  | some kind => decodePayload kind
  | none => fail (makeError .persistenceCorrupt (text "invalid journal effect kind"))

/-- The record an effect puts is within the bounds of its decoder. -/
def fits : Effect → Bool
  | .putState r => Wire.fits r
  | .putCluster r => Wire.fits r
  | .putReplica r => Wire.fits r
  | .putReplicaSet r => Wire.fits r
  | .putOperation r => Wire.fits r
  | .putAuthorization r => Wire.fits r
  | .putOwnership r => Wire.fits r
  | .putCompatibility r => Wire.fits r
  | .putPlacementPolicy r => Wire.fits r
  | .putReplicationPolicy r => Wire.fits r
  | .putCounters counters => Wire.fits counters
  | .setEpoch _ | .setNextId _ => true

/-- What follows the kind of an effect within the bounds is read back. -/
theorem reads_payload {e : Effect} (h : e.fits = true) :
    Reads (decodePayload e.kind) e.payload e := by
  cases e with
  | setEpoch epoch => exact (reads_id epoch).map Effect.setEpoch
  | setNextId value => exact (ByteReader.reads_u64 value).map Effect.setNextId
  | _ => exact (Wire.reads h).map _

/-- An effect within the bounds is read back. -/
theorem reads {e : Effect} (h : e.fits = true) : Reads decode e.encode e := by
  have hwritten : e.encode = ByteWriter.u16 (WireEnum.code e.kind) ++ e.payload := by
    simp [encode, encodeEnum]
  rw [hwritten]
  refine (ByteReader.reads_u16 _).bind ?_
  rw [WireEnum.ofCode_code]
  exact reads_payload h

/-- The record of an effect that is read is within the bounds. -/
theorem ensures_record {α : Type} [Wire α] {make : α → Effect}
    (h : ∀ v, (make v).fits = Wire.fits v) :
    Ensures (Wire.decode >>= fun v => pure (make v)) fun e => e.fits = true :=
  Wire.bounded.bind fun v hv => ensures_pure ((h v).trans hv)

/-- Whatever the bytes, an effect that is read is within the bounds. -/
theorem bounded : Ensures decode fun e => e.fits = true := by
  refine (ensures_true _).bind fun raw _ => ?_
  split
  · rename_i kind _
    cases kind with
    | setEpoch | setNextId => exact (ensures_true _).bind fun _ _ => ensures_pure rfl
    | _ => exact ensures_record fun _ => rfl
  · intro bytes e rest h
    cases h

instance : Wire Effect :=
  ⟨{ encode := encode, decode := decode, fits := fits, reads := fun _ => reads, bounded := bounded }⟩

end Effect

/-! ## Journal records -/

namespace JournalRecord

/-- The payload `encode_journal_record` writes. -/
def payload (r : JournalRecord) : Bytes :=
  [ByteWriter.u16 1, ByteWriter.u64 r.sequence, ByteWriter.u64 r.tick, encodeId r.epoch,
   ByteWriter.u16 (UInt16.ofNat r.effects.length), r.effects.flatMap Effect.encode].flatten

/-- What is kept of a journal record when it is read: the epoch is read and dropped. -/
def image (r : JournalRecord) : JournalRecord := { r with epoch := {} }

/-- `decode_journal_record`, up to its check that nothing is left over. -/
def decode : ByteReader JournalRecord := do
  let command ← ByteReader.u16
  guard (command == 1)
    (makeError .persistenceUnsupportedVersion (text "unknown journal command"))
  let sequence ← ByteReader.u64
  let tick ← ByteReader.u64
  let _epoch : CoordinatorEpoch ← decodeId
  let count ← ByteReader.u16
  guard (decide (count.toNat ≤ maxJournalEffectsPerRecord))
    (makeError .resourceExhausted (text "journal record declares too many effects"))
  let effects ← times Effect.decode count.toNat
  pure { effects, sequence, tick }

def fits (r : JournalRecord) : Bool :=
  decide (r.effects.length ≤ maxJournalEffectsPerRecord) && r.effects.all Effect.fits

/-- A journal record within the bounds is read back, but for its epoch. -/
theorem reads {r : JournalRecord} (h : r.fits = true) : Reads decode r.payload r.image := by
  intro rest
  obtain ⟨hcount, hall⟩ := Bool.and_eq_true_iff.mp h
  have hcount : r.effects.length ≤ maxJournalEffectsPerRecord := of_decide_eq_true hcount
  have hlength : (UInt16.ofNat r.effects.length).toNat = r.effects.length :=
    UInt16.toNat_ofNat_of_lt' (Nat.lt_of_le_of_lt hcount (by decide))
  have heffects : Reads (times Effect.decode r.effects.length) (r.effects.flatMap Effect.encode)
      r.effects :=
    reads_times fun e he => Effect.reads (List.all_eq_true.mp hall e he)
  simp only [payload, decode]
  simp only [↓run_u16, ↓run_u64, ↓run_id, ↓run_guard, beq_self_eq_true, hlength,
    decide_eq_true hcount, ↓run_bind_flatten heffects, List.flatten_nil, List.nil_append, run_pure,
    image]

/-- Whatever the bytes, a journal record that is read is within the bounds. -/
theorem bounded : Ensures decode fun r => r.fits = true := by
  unfold decode
  refine (ensures_true _).bind fun _ _ => (ensures_true _).bind fun _ _ =>
    (ensures_true _).bind fun _ _ => (ensures_true _).bind fun _ _ =>
    (ensures_true _).bind fun _ _ => (ensures_true _).bind fun count _ =>
    (ensures_guard _ _).bind fun _ hcount => (Effect.bounded.times count.toNat).bind
      fun effects heffects => ensures_pure ?_
  rw [fits, Bool.and_eq_true, decide_eq_true_eq, List.all_eq_true, heffects.1]
  exact ⟨of_decide_eq_true hcount, heffects.2⟩

end JournalRecord

def decodeJournalRecord (payload : Bytes) : Result JournalRecord :=
  JournalRecord.decode.readAll payload

/-! ## Record maps -/

section Maps

variable {κ α : Type} [Ord κ] [Std.TransOrd κ] [Wire α]

def encodeMap (m : Std.ExtTreeMap κ α) : Bytes :=
  [ByteWriter.u32 (UInt32.ofNat m.size), m.toList.flatMap fun entry => encode entry.2].flatten

/-- One round of the loop that reads a map. -/
def decodeEntry (duplicate : String) (key : α → κ) (seen : Std.ExtTreeMap κ α) :
    ByteReader (Std.ExtTreeMap κ α) := do
  let record ← decode
  guard seen[key record]?.isNone
    (makeError .persistenceCorrupt (text ("duplicate " ++ duplicate ++ " record")))
  pure (seen.insert (key record) record)

def decodeMap (maxCount : Nat) (declared duplicate : String) (key : α → κ) :
    ByteReader (Std.ExtTreeMap κ α) := do
  let count ← ByteReader.u32
  guard (decide (count.toNat ≤ maxCount))
    (makeError .persistenceCorrupt
      (text ("declared " ++ declared ++ " count exceeds the bound")))
  iterate (decodeEntry duplicate key) count.toNat ∅

/-- A map that `decodeMap` gives back: not too large, every record under its own key and
within the bounds of its decoder. -/
def mapFits [DecidableEq κ] (maxCount : Nat) (key : α → κ) (m : Std.ExtTreeMap κ α) : Bool :=
  decide (m.size ≤ min maxCount 4294967295)
    && m.toList.all fun entry => decide (key entry.2 = entry.1) && fits entry.2

variable [Std.LawfulEqOrd κ] [DecidableEq κ]

/-- A map of records within the bounds, each under its own key, is read back. -/
theorem reads_map {maxCount : Nat} {key : α → κ} {m : Std.ExtTreeMap κ α}
    (declared duplicate : String) (h : mapFits maxCount key m = true) :
    Reads (decodeMap maxCount declared duplicate key) (encodeMap m) m := by
  obtain ⟨hbound, hall⟩ := Bool.and_eq_true_iff.mp h
  have hbound : m.size ≤ min maxCount 4294967295 := of_decide_eq_true hbound
  have hsize : (UInt32.ofNat m.size).toNat = m.size :=
    UInt32.toNat_ofNat_of_lt' (Nat.lt_of_le_of_lt (hbound.trans (Nat.min_le_right ..)) (by decide))
  have hentries : Reads (iterate (decodeEntry duplicate key) m.size ∅)
      (m.toList.flatMap fun entry => encode entry.2) m := by
    refine reads_entries m fun seen k v hfound hnew _ => ?_
    have hentry := List.all_eq_true.mp hall _ (mem_toList_iff.mpr hfound)
    obtain ⟨hkey, hfits⟩ := Bool.and_eq_true_iff.mp hentry
    have hkey : key v = k := of_decide_eq_true hkey
    have hguard : seen[key v]?.isNone = true := by
      rw [hkey, hnew]
      rfl
    have hread : Reads (decodeEntry duplicate key seen) (encode v ++ ([] ++ []))
        (seen.insert (key v) v) :=
      (Wire.reads hfits).bind ((reads_guard hguard _).bind (reads_pure _))
    rw [List.append_nil, List.append_nil, hkey] at hread
    exact hread
  have hwritten : encodeMap m = ByteWriter.u32 (UInt32.ofNat m.size)
      ++ ([] ++ m.toList.flatMap fun entry => encode entry.2) := by
    simp [encodeMap]
  rw [hwritten]
  refine (ByteReader.reads_u32 _).bind ((reads_guard ?_ _).bind ?_)
  · rw [hsize]
    exact decide_eq_true (hbound.trans (Nat.min_le_left ..))
  · rw [hsize]
    exact hentries

theorem run_map {γ : Type} {maxCount : Nat} {key : α → κ} {m : Std.ExtTreeMap κ α}
    (declared duplicate : String) (h : mapFits maxCount key m = true) (parts : List Bytes)
    (rest : Bytes) (f : Std.ExtTreeMap κ α → ByteReader γ) :
    (decodeMap maxCount declared duplicate key >>= f).run ((encodeMap m :: parts).flatten ++ rest)
      = (f m).run (parts.flatten ++ rest) :=
  run_bind_flatten (reads_map declared duplicate h) f parts rest

end Maps

/-! ## The control plane -/

namespace ControlPlane

/-- `encode_control_plane`. -/
def encode (p : ControlPlane) : Bytes :=
  [encodeId p.coordinatorId, encodeId p.coordinatorEpoch, ByteWriter.u64 p.logicalTime,
   ByteWriter.u64 p.durableSequence, ByteWriter.u64 p.replayGeneration, Wire.encode p.counters,
   encodeMap p.states, encodeMap p.clusters, encodeMap p.replicas, encodeMap p.replicaSets,
   encodeMap p.operations, encodeMap p.authorizations, encodeMap p.ownership,
   encodeMap p.compatibilityRecords, encodeMap p.placementPolicies,
   encodeMap p.replicationPolicies].flatten

/-- `decode_control_plane`, into a fresh plane. -/
def decode : ByteReader ControlPlane := do
  let coordinatorId ← decodeId
  let coordinatorEpoch ← decodeId
  let logicalTime ← ByteReader.u64
  let durableSequence ← ByteReader.u64
  let replayGeneration ← ByteReader.u64
  let counters ← Wire.decode
  let states ← decodeMap maxDecodedStates "state" "state generation" StateGenerationRecord.key
  let clusters ← decodeMap maxDecodedClusters "cluster" "cluster" ClusterRecord.clusterId
  let replicas ← decodeMap maxDecodedReplicas "replica" "replica" ReplicaRecord.replicaId
  let replicaSets ← decodeMap maxDecodedRecords "replica set" "replica set" ReplicaSetRecord.key
  let operations ← decodeMap maxDecodedOperations "operation" "operation"
    OperationRecord.operationId
  let authorizations ← decodeMap maxDecodedOperations "authorization" "authorization"
    TransferAuthorization.operationId
  let ownership ← decodeMap maxDecodedRecords "ownership" "ownership" OwnershipRecord.key
  let compatibilityRecords ← decodeMap maxDecodedClusters "compatibility" "compatibility"
    CompatibilityRecord.compatibilityId
  let placementPolicies ← decodeMap maxDecodedClusters "placement policy" "placement policy"
    PlacementPolicyRecord.placementPolicyId
  let replicationPolicies ← decodeMap maxDecodedClusters "replication policy"
    "replication policy" ReplicationPolicyRecord.replicationPolicyId
  pure { coordinatorId, coordinatorEpoch, logicalTime, durableSequence, replayGeneration, counters,
         states, clusters, replicas, replicaSets, operations, authorizations, ownership,
         compatibilityRecords, placementPolicies, replicationPolicies }

/-- The record maps are within the bounds of the decoder. -/
structure Fits (p : ControlPlane) : Prop where
  states : mapFits maxDecodedStates StateGenerationRecord.key p.states = true
  clusters : mapFits maxDecodedClusters ClusterRecord.clusterId p.clusters = true
  replicas : mapFits maxDecodedReplicas ReplicaRecord.replicaId p.replicas = true
  replicaSets : mapFits maxDecodedRecords ReplicaSetRecord.key p.replicaSets = true
  operations : mapFits maxDecodedOperations OperationRecord.operationId p.operations = true
  authorizations :
    mapFits maxDecodedOperations TransferAuthorization.operationId p.authorizations = true
  ownership : mapFits maxDecodedRecords OwnershipRecord.key p.ownership = true
  compatibilityRecords : mapFits maxDecodedClusters CompatibilityRecord.compatibilityId
    p.compatibilityRecords = true
  placementPolicies : mapFits maxDecodedClusters PlacementPolicyRecord.placementPolicyId
    p.placementPolicies = true
  replicationPolicies : mapFits maxDecodedClusters ReplicationPolicyRecord.replicationPolicyId
    p.replicationPolicies = true

instance (p : ControlPlane) : Decidable p.Fits :=
  decidable_of_iff
    (mapFits maxDecodedStates StateGenerationRecord.key p.states = true ∧
      mapFits maxDecodedClusters ClusterRecord.clusterId p.clusters = true ∧
      mapFits maxDecodedReplicas ReplicaRecord.replicaId p.replicas = true ∧
      mapFits maxDecodedRecords ReplicaSetRecord.key p.replicaSets = true ∧
      mapFits maxDecodedOperations OperationRecord.operationId p.operations = true ∧
      mapFits maxDecodedOperations TransferAuthorization.operationId p.authorizations = true ∧
      mapFits maxDecodedRecords OwnershipRecord.key p.ownership = true ∧
      mapFits maxDecodedClusters CompatibilityRecord.compatibilityId
        p.compatibilityRecords = true ∧
      mapFits maxDecodedClusters PlacementPolicyRecord.placementPolicyId
        p.placementPolicies = true ∧
      mapFits maxDecodedClusters ReplicationPolicyRecord.replicationPolicyId
        p.replicationPolicies = true)
    ⟨fun ⟨h₁, h₂, h₃, h₄, h₅, h₆, h₇, h₈, h₉, h₁₀⟩ => ⟨h₁, h₂, h₃, h₄, h₅, h₆, h₇, h₈, h₉, h₁₀⟩,
     fun ⟨h₁, h₂, h₃, h₄, h₅, h₆, h₇, h₈, h₉, h₁₀⟩ => ⟨h₁, h₂, h₃, h₄, h₅, h₆, h₇, h₈, h₉, h₁₀⟩⟩

/-- Counters have no bounds. -/
theorem fits_counters (counters : FabricCounters) : Wire.fits counters = true := rfl

/-- A plane within the bounds is read back as the part a snapshot keeps. -/
theorem reads {p : ControlPlane} (h : p.Fits) : Reads decode p.encode p.image := by
  intro rest
  simp only [encode, decode]
  simp only [↓run_id, ↓run_u64, ↓run_wire _ _ (fits_counters _), ↓run_map _ _ h.states,
    ↓run_map _ _ h.clusters, ↓run_map _ _ h.replicas, ↓run_map _ _ h.replicaSets,
    ↓run_map _ _ h.operations, ↓run_map _ _ h.authorizations, ↓run_map _ _ h.ownership,
    ↓run_map _ _ h.compatibilityRecords, ↓run_map _ _ h.placementPolicies,
    ↓run_map _ _ h.replicationPolicies, List.flatten_nil, List.nil_append, run_pure, image]

end ControlPlane

end StateFabric
