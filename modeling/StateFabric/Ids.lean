import Mathlib

/-!
# Identities of the state fabric

Every domain identity of the runtime is a distinct type over the same 64-bit
representation (`include/ccsf/ids.hpp`).  Zero means "absent"; minted identities
come from one coordinator-owned counter, and callers may supply any value.

Text is a list of bytes, as `std::string` is: sizes, orders and encodings are
those of the bytes.
-/

namespace StateFabric

/-- A `std::string`: a finite sequence of bytes. -/
abbrev Text := List UInt8

/-- The bytes of a literal. -/
def text (s : String) : Text := s.toUTF8.data.toList

/-- Decimal rendering of an unsigned integer, as `std::to_chars` writes it. -/
def natText (n : Nat) : Text := (Nat.toDigits 10 n).map fun c => c.toNat.toUInt8

/-- One tag per identity domain. -/
inductive IdTag
  | coordinatorId | coordinatorEpoch | workerId | workerBootId | clusterId
  | clusterIncarnationId | regionId | siteId | stateId | stateGeneration | lineageId
  | replicaId | replicaGeneration | replicaSetId | replicaSetGeneration | placementId
  | placementGeneration
  | placementPolicyId | placementPolicyGeneration | replicationPolicyId
  | replicationPolicyGeneration | migrationId | migrationGeneration | transferId
  | transferGeneration | reservationId | reservationGeneration | compatibilityId
  | compatibilityGeneration | integrityGeneration | evidenceGeneration
  | topologyGeneration | capabilityGeneration | costGeneration | healthGeneration
  | commitId | operationId | operationGeneration | verificationId | failureDomainId
  | reconstructionId

/-- A strongly typed 64-bit domain identity. -/
structure StrongId (tag : IdTag) where
  value : UInt64 := 0
  deriving DecidableEq

namespace StrongId

variable {tag : IdTag}

/-- Zero means absent for every identity kind. -/
def valid (id : StrongId tag) : Bool := id.value != 0

/-- The next identity of the domain; wraps at the end of the 64-bit range. -/
def next (id : StrongId tag) : StrongId tag := ⟨id.value + 1⟩

/-- Decimal rendering. -/
def str (id : StrongId tag) : Text := natText id.value.toNat

instance : Ord (StrongId tag) := ⟨fun a b => compare a.value b.value⟩

instance : Std.TransOrd (StrongId tag) where
  eq_swap := Std.OrientedOrd.eq_swap (α := UInt64)
  isLE_trans hab hbc := Std.TransOrd.isLE_trans (α := UInt64) hab hbc

instance : Std.LawfulEqOrd (StrongId tag) where
  eq_of_compare {a b} h := by
    cases a; cases b
    exact congrArg StrongId.mk (Std.LawfulEqOrd.eq_of_compare (α := UInt64) h)

instance : LT (StrongId tag) := ⟨fun a b => a.value < b.value⟩

instance (a b : StrongId tag) : Decidable (a < b) :=
  inferInstanceAs (Decidable (a.value < b.value))

end StrongId

/-- The last value of an identity's range; the one after it is 0. -/
def lastIdentity : UInt64 := 18446744073709551615

/-- Only the last value is followed by 0. -/
theorem eq_last_of_add_one {x : UInt64} (h : x + 1 = 0) : x = lastIdentity := by
  have hsum : (x + 1).toNat = 0 := congrArg UInt64.toNat h
  have hlt := x.toNat_lt
  rw [UInt64.toNat_add, UInt64.toNat_one] at hsum
  refine UInt64.toNat_inj.mp (?_ : x.toNat = 18446744073709551615)
  omega

/-- A value that is not followed by 0 is followed by a greater one. -/
theorem lt_add_one_of_ne_zero {x : UInt64} (h : x + 1 ≠ 0) : x < x + 1 := by
  have hsum : (x + 1).toNat ≠ 0 := fun heq => h (UInt64.toNat_inj.mp heq)
  have hlt := x.toNat_lt
  rw [UInt64.lt_iff_toNat_lt]
  rw [UInt64.toNat_add, UInt64.toNat_one] at hsum ⊢
  omega

/-- A value that is not the last is followed by a greater one. -/
theorem lt_add_one_of_ne_last {x : UInt64} (h : x ≠ lastIdentity) : x < x + 1 :=
  lt_add_one_of_ne_zero fun hzero => h (eq_last_of_add_one hzero)

abbrev CoordinatorId := StrongId .coordinatorId
abbrev CoordinatorEpoch := StrongId .coordinatorEpoch
abbrev WorkerId := StrongId .workerId
abbrev WorkerBootId := StrongId .workerBootId
abbrev ClusterId := StrongId .clusterId
abbrev ClusterIncarnationId := StrongId .clusterIncarnationId
abbrev RegionId := StrongId .regionId
abbrev SiteId := StrongId .siteId
abbrev StateId := StrongId .stateId
abbrev StateGeneration := StrongId .stateGeneration
abbrev LineageId := StrongId .lineageId
abbrev ReplicaId := StrongId .replicaId
abbrev ReplicaGeneration := StrongId .replicaGeneration
abbrev ReplicaSetId := StrongId .replicaSetId
abbrev ReplicaSetGeneration := StrongId .replicaSetGeneration
abbrev PlacementId := StrongId .placementId
abbrev PlacementGeneration := StrongId .placementGeneration
abbrev PlacementPolicyId := StrongId .placementPolicyId
abbrev PlacementPolicyGeneration := StrongId .placementPolicyGeneration
abbrev ReplicationPolicyId := StrongId .replicationPolicyId
abbrev ReplicationPolicyGeneration := StrongId .replicationPolicyGeneration
abbrev MigrationId := StrongId .migrationId
abbrev MigrationGeneration := StrongId .migrationGeneration
abbrev TransferId := StrongId .transferId
abbrev TransferGeneration := StrongId .transferGeneration
abbrev ReservationId := StrongId .reservationId
abbrev ReservationGeneration := StrongId .reservationGeneration
abbrev CompatibilityId := StrongId .compatibilityId
abbrev CompatibilityGeneration := StrongId .compatibilityGeneration
abbrev IntegrityGeneration := StrongId .integrityGeneration
abbrev EvidenceGeneration := StrongId .evidenceGeneration
abbrev TopologyGeneration := StrongId .topologyGeneration
abbrev CapabilityGeneration := StrongId .capabilityGeneration
abbrev CostGeneration := StrongId .costGeneration
abbrev HealthGeneration := StrongId .healthGeneration
abbrev CommitId := StrongId .commitId
abbrev OperationId := StrongId .operationId
abbrev OperationGeneration := StrongId .operationGeneration
abbrev VerificationId := StrongId .verificationId
abbrev FailureDomainId := StrongId .failureDomainId
abbrev ReconstructionId := StrongId .reconstructionId

/-- Coordinator logical time. -/
abbrev Tick := UInt64

/-- Key identifying one state generation. -/
structure StateKey where
  stateId : StateId
  generation : StateGeneration
  deriving DecidableEq

namespace StateKey

/-- `operator<` of the key: state identity first, then generation. -/
instance : Ord StateKey :=
  ⟨compareLex (compareOn StateKey.stateId) (compareOn StateKey.generation)⟩

instance : Std.TransOrd StateKey :=
  inferInstanceAs (Std.TransCmp
    (compareLex (compareOn StateKey.stateId) (compareOn StateKey.generation)))

instance : Std.LawfulEqOrd StateKey where
  eq_of_compare {a b} h := by
    obtain ⟨ai, ag⟩ := a
    obtain ⟨bi, bg⟩ := b
    have h' : (compare ai bi).then (compare ag bg) = .eq := h
    rw [Ordering.then_eq_eq] at h'
    rw [Std.LawfulEqOrd.eq_of_compare h'.1, Std.LawfulEqOrd.eq_of_compare h'.2]

end StateKey

end StateFabric
