import StateFabric.Ids

/-!
# Structured errors and fallible code

Error codes and values of `include/ccsf/error.hpp`, and the two shapes every mutation
body is written in: refuse when a condition holds, and refuse when a lookup finds
nothing.  The `_eq_ok` lemmas turn a successful run into the guards it passed.
-/

namespace StateFabric

variable {e : Error} {α β : Type} {condition : Bool}

/-- Structured error codes. -/
inductive ErrorCode
  | ok | invalidArgument | notFound | unknownState | unknownReplica | unknownCluster
  | unknownOperation | unknownPolicy | unknownStateClass | staleEpoch | staleWorker
  | staleClusterIncarnation | staleStateGeneration | staleReplicaGeneration
  | staleReplicaSetGeneration | stalePlacementGeneration | staleMigrationGeneration
  | staleTransferGeneration | staleEvidence | staleOperationGeneration | noAuthoritativeReplica
  | integrityUnknown | integrityMismatch | incompatible | compatibilityUnknown
  | destinationIneligible | sourceIneligible | underReplicated | overReplicated
  | splitBrainRisk | migrationConflict | transferFailed | transferIncomplete | commitConflict
  | duplicateConflict | revalidationRequired | illegalTransition | policyViolation
  | capacityInsufficient | fenced | quarantined | immutableStateConflict
  | authorityNotEstablished | persistenceCorrupt | persistenceUnsupportedVersion
  | persistenceIo | persistenceTruncated | frameCorrupt | frameTooLarge | frameTruncated
  | protocolUnsupported | transportIo | transportClosed | resourceExhausted | outcomeUnknown
  | cancelled | shuttingDown | internalError | notSupported | unknown
  deriving DecidableEq

/-- Stable machine readable name of an error code. -/
def ErrorCode.str : ErrorCode → Text
  | .ok => text "OK"
  | .invalidArgument => text "INVALID_ARGUMENT"
  | .notFound => text "NOT_FOUND"
  | .unknownState => text "UNKNOWN_STATE"
  | .unknownReplica => text "UNKNOWN_REPLICA"
  | .unknownCluster => text "UNKNOWN_CLUSTER"
  | .unknownOperation => text "UNKNOWN_OPERATION"
  | .unknownPolicy => text "UNKNOWN_POLICY"
  | .unknownStateClass => text "UNKNOWN_STATE_CLASS"
  | .staleEpoch => text "STALE_EPOCH"
  | .staleWorker => text "STALE_WORKER"
  | .staleClusterIncarnation => text "STALE_CLUSTER_INCARNATION"
  | .staleStateGeneration => text "STALE_STATE_GENERATION"
  | .staleReplicaGeneration => text "STALE_REPLICA_GENERATION"
  | .staleReplicaSetGeneration => text "STALE_REPLICA_SET_GENERATION"
  | .stalePlacementGeneration => text "STALE_PLACEMENT_GENERATION"
  | .staleMigrationGeneration => text "STALE_MIGRATION_GENERATION"
  | .staleTransferGeneration => text "STALE_TRANSFER_GENERATION"
  | .staleEvidence => text "STALE_EVIDENCE"
  | .staleOperationGeneration => text "STALE_OPERATION_GENERATION"
  | .noAuthoritativeReplica => text "NO_AUTHORITATIVE_REPLICA"
  | .integrityUnknown => text "INTEGRITY_UNKNOWN"
  | .integrityMismatch => text "INTEGRITY_MISMATCH"
  | .incompatible => text "INCOMPATIBLE"
  | .compatibilityUnknown => text "COMPATIBILITY_UNKNOWN"
  | .destinationIneligible => text "DESTINATION_INELIGIBLE"
  | .sourceIneligible => text "SOURCE_INELIGIBLE"
  | .underReplicated => text "UNDER_REPLICATED"
  | .overReplicated => text "OVER_REPLICATED"
  | .splitBrainRisk => text "SPLIT_BRAIN_RISK"
  | .migrationConflict => text "MIGRATION_CONFLICT"
  | .transferFailed => text "TRANSFER_FAILED"
  | .transferIncomplete => text "TRANSFER_INCOMPLETE"
  | .commitConflict => text "COMMIT_CONFLICT"
  | .duplicateConflict => text "DUPLICATE_CONFLICT"
  | .revalidationRequired => text "REVALIDATION_REQUIRED"
  | .illegalTransition => text "ILLEGAL_TRANSITION"
  | .policyViolation => text "POLICY_VIOLATION"
  | .capacityInsufficient => text "CAPACITY_INSUFFICIENT"
  | .fenced => text "FENCED"
  | .quarantined => text "QUARANTINED"
  | .immutableStateConflict => text "IMMUTABLE_STATE_CONFLICT"
  | .authorityNotEstablished => text "AUTHORITY_NOT_ESTABLISHED"
  | .persistenceCorrupt => text "PERSISTENCE_CORRUPT"
  | .persistenceUnsupportedVersion => text "PERSISTENCE_UNSUPPORTED_VERSION"
  | .persistenceIo => text "PERSISTENCE_IO"
  | .persistenceTruncated => text "PERSISTENCE_TRUNCATED"
  | .frameCorrupt => text "FRAME_CORRUPT"
  | .frameTooLarge => text "FRAME_TOO_LARGE"
  | .frameTruncated => text "FRAME_TRUNCATED"
  | .protocolUnsupported => text "PROTOCOL_UNSUPPORTED"
  | .transportIo => text "TRANSPORT_IO"
  | .transportClosed => text "TRANSPORT_CLOSED"
  | .resourceExhausted => text "RESOURCE_EXHAUSTED"
  | .outcomeUnknown => text "OUTCOME_UNKNOWN"
  | .cancelled => text "CANCELLED"
  | .shuttingDown => text "SHUTTING_DOWN"
  | .internalError => text "INTERNAL_ERROR"
  | .notSupported => text "NOT_SUPPORTED"
  | .unknown => text "UNKNOWN"

/-- Structured error value: a code and preserved human context. -/
structure Error where
  code : ErrorCode := .ok
  message : Text := []
  detail : Text := []
  deriving DecidableEq

def makeError (code : ErrorCode) (message : Text) : Error := { code, message }

/-- Single-line rendering: "CODE: message (detail)". -/
def Error.str (e : Error) : Text :=
  let line := e.code.str ++ text ": " ++ e.message
  if e.detail.isEmpty then line else line ++ text " (" ++ e.detail ++ text ")"

/-- The result of an operation: a value or a structured error. -/
abbrev Result (α : Type) := Except Error α

/-! ## Refusals -/

/-- Refuse with `e` when the condition holds. -/
def rejectIf (condition : Bool) (e : Error) : Result Unit :=
  if condition then .error e else .ok ()

/-- The value a lookup found, refusing with `e` when it found none. -/
def found {α : Type} (lookup : Option α) (e : Error) : Result α :=
  match lookup with
  | some a => .ok a
  | none => .error e

@[simp] theorem rejectIf_eq_ok {u : Unit} : rejectIf condition e = .ok u ↔ condition = false := by
  unfold rejectIf
  cases condition <;> simp

@[simp] theorem found_eq_ok {lookup : Option α} {a : α} :
    found lookup e = .ok a ↔ lookup = some a := by
  cases lookup <;> simp [found]

/-- A sequence succeeds exactly when its first part does and the rest does on its value. -/
theorem bind_eq_ok {x : Result α} {f : α → Result β} {b : β} :
    (x >>= f) = .ok b ↔ ∃ a, x = .ok a ∧ f a = .ok b := by
  cases x with
  | error | ok => simp [bind, Except.bind]

theorem rejectIf_bind_eq_ok {f : Unit → Result β} {b : β} :
    (rejectIf condition e >>= f) = .ok b ↔ condition = false ∧ f () = .ok b := by
  rw [bind_eq_ok, Unique.exists_iff, rejectIf_eq_ok]

theorem found_bind_eq_ok {lookup : Option α} {f : α → Result β} {b : β} :
    (found lookup e >>= f) = .ok b ↔ ∃ a, lookup = some a ∧ f a = .ok b := by
  simp [bind_eq_ok]

@[simp] theorem isOk_map (f : α → β) (x : Result α) : (x.map f).isOk = x.isOk := by
  cases x <;> rfl

/-- A refusal followed by more goes through when it does not refuse and the rest goes through. -/
theorem isOk_rejectIf_bind (condition : Bool) (e : Error) (f : Unit → Result β) :
    (rejectIf condition e >>= f).isOk = (!condition && (f ()).isOk) := by
  cases condition <;> rfl

/-- A lookup followed by more goes through when it finds something and the rest goes through. -/
theorem isOk_found_bind (lookup : Option α) (e : Error) (f : α → Result β) :
    (found lookup e >>= f).isOk = lookup.any fun a => (f a).isOk := by
  cases lookup <;> rfl

@[simp] theorem pure_eq_ok {a b : α} : (pure a : Result α) = .ok b ↔ a = b := by
  simp [pure, Except.pure]

end StateFabric
