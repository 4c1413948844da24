import StateFabric.Library.OrderedMap
import StateFabric.Records

/-!
# The authority protocol

What the control plane is for, apart from how it is stored: generations become current and are
superseded, copies of a generation are staged, verified, committed, fenced and retired, and
operations are authorized against one generation of a replica set and complete only while that
generation stands.

A `Plane` keeps of every record the fields authority depends on.  A `Step` is labelled with the
`Action` it takes; every record either stays or makes one of the moves its action allows, and a
move names what has to hold around it, before and after.  The invariants of
`StateFabric.Protocol.Invariants` are consequences of these moves alone.
-/

namespace StateFabric

namespace Protocol

/-! ## Views -/

/-- A state generation, as far as authority depends on it. -/
structure StateView where
  lineage : LineageId
  branch : Bool
  lifecycle : StateGenerationLifecycle
  contentDigest : Digest

/-- A cluster, as far as authority depends on it. -/
structure ClusterView where
  live : Bool
  incarnation : ClusterIncarnationId

/-- A replica, as far as authority depends on it. -/
structure ReplicaView where
  key : StateKey
  cluster : ClusterId
  incarnation : ClusterIncarnationId
  lifecycle : ReplicaLifecycle
  integrity : ReplicaIntegrityState
  compatibility : ReplicaCompatibilityState
  availability : ReplicaAvailabilityState
  authority : ReplicaAuthorityState
  measured : Digest
  revalidation : Bool
  committed : Bool
  counts : Bool

/-- An operation, as far as authority depends on it. -/
structure OperationView where
  key : StateKey
  kind : OperationKind
  state : OperationState
  source : ReplicaId
  destination : ReplicaId
  sourceGeneration : UInt64
  destructive : Bool

/-- The recorded owner of a generation. -/
structure OwnershipView where
  owner : ReplicaId
  active : Bool

/-- The control plane, as far as authority depends on it. -/
structure Plane where
  states : StateKey → Option StateView
  clusters : ClusterId → Option ClusterView
  replicas : ReplicaId → Option ReplicaView
  setGeneration : StateKey → Option UInt64
  operations : OperationId → Option OperationView
  ownership : StateKey → Option OwnershipView

namespace ReplicaView

/-- A replica that accepts no further reports. -/
def Terminal (v : ReplicaView) : Prop := v.lifecycle = .retired ∨ v.lifecycle = .abandoned

/-- A replica that counts toward the replication factor. -/
def Counting (v : ReplicaView) : Prop :=
  v.committed = true ∧ v.counts = true ∧ v.integrity = .verified ∧ v.compatibility = .compatible
    ∧ (v.lifecycle = .authoritative ∨ v.lifecycle = .degraded)

/-- A replica without authority that is no candidate for it. -/
def Disarmed (v : ReplicaView) : Prop :=
  v.authority = .fenced ∨ v.authority = .historical ∨ v.authority = .none

/-- A replica stripped of live authority. -/
def fenced (v : ReplicaView) (availability : ReplicaAvailabilityState)
    (lifecycle : ReplicaLifecycle) : ReplicaView :=
  { v with
    authority := .fenced
    counts := false
    availability := availability
    revalidation := true
    lifecycle := if v.lifecycle = .authoritative ∨ v.lifecycle = .degraded then lifecycle
      else v.lifecycle }

/-- A replica of a superseded generation. -/
def superseded (v : ReplicaView) : ReplicaView :=
  { v with
    lifecycle :=
      if v.lifecycle = .authoritative ∨ v.lifecycle = .degraded
          ∨ v.lifecycle = .revalidationRequired then .superseded
      else v.lifecycle
    authority := .historical
    counts := false }

end ReplicaView

namespace OperationView

/-- An operation that accepts no further progress. -/
def Terminal (o : OperationView) : Prop :=
  o.state = .complete ∨ o.state = .failed ∨ o.state = .abandoned ∨ o.state = .cancelled

/-- An operation whose transfer has not completed. -/
def Early (o : OperationView) : Prop :=
  o.state = .planned ∨ o.state = .reserved ∨ o.state = .stagingDestination
    ∨ o.state = .transferring

/-- An operation that ended without completing. -/
def Failed (o : OperationView) : Prop :=
  o.state = .failed ∨ o.state = .cancelled ∨ o.state = .abandoned

/-- What a restart makes of a live operation: one whose transfer has not completed is
abandoned. -/
def RecoversTo (o : OperationView) (state : OperationState) : Prop :=
  (o.Early ∧ state = .abandoned)
    ∨ (¬ o.Early ∧ (state = .complete ∨ state = .outcomeUnknown))

end OperationView

/-- The replica an operation copies into: authorization mints it four identities after the
operation. -/
def destinationOf (o : OperationId) : ReplicaId := ⟨o.value + 4⟩

/-! ## Actions and what surrounds a move -/

/-- What a step does, and to whom. -/
inductive Action
  | registerState (K : StateKey)
  | publish (K : StateKey)
  | commitState (K : StateKey)
  | cluster (c : ClusterId)
  | registerReplica (k : ReplicaId)
  /-- A transfer report about `k` that names `o` and moves it on to `next`. -/
  | report (k : ReplicaId) (o : OperationId) (next : OperationState)
  /-- A verification report about `k` that names `o`. -/
  | verify (k : ReplicaId) (o : OperationId) (accepted : Bool)
  | commitReplica (k : ReplicaId)
  | retire (k : ReplicaId)
  | quarantine (k : ReplicaId)
  | revalidate (k : ReplicaId)
  | authorize (o : OperationId)
  | complete (o : OperationId)
  | cancel (o : OperationId)
  | handoff (K : StateKey) (k : ReplicaId)
  | reopen
  | idle

/-- The action moves the operation it names on to a state. -/
def Action.MovesOn (a : Action) (o : OperationId) (state : OperationState) : Prop :=
  (∃ k, a = .report k o state)
    ∨ (∃ k, a = .verify k o true ∧ state = .prepared)
    ∨ (∃ k, a = .verify k o false ∧ state = .failed)
    ∨ (a = .cancel o ∧ state = .cancelled)

namespace Plane

variable (p p' : Plane)

/-- The cluster of a replica is live at the incarnation the replica was written under. -/
def Hosts (v : ReplicaView) : Prop :=
  ∃ c, p.clusters v.cluster = some c ∧ c.live = true ∧ c.incarnation = v.incarnation

/-- The replica is the recorded active owner of a generation. -/
def Owns (K : StateKey) (k : ReplicaId) : Prop := p.ownership K = some ⟨k, true⟩

/-- The replica set of a generation moved on by one. -/
def Advances (K : StateKey) : Prop :=
  ∀ g, p.setGeneration K = some g → p'.setGeneration K = some (g + 1)

/-- A measured digest agrees with the content of a generation that has one. -/
def Matches (K : StateKey) (measured : Digest) : Prop :=
  ∀ s, p.states K = some s → s.contentDigest.valid = true → measured = s.contentDigest

/-- A live operation whose replica set has not moved on since it was authorized. -/
structure Completable (o : OperationId) (op : OperationView) : Prop where
  recorded : p.operations o = some op
  live : ¬ op.Terminal
  unmoved : op.sourceGeneration ≠ 0 → p.setGeneration op.key = some op.sourceGeneration

end Plane

open Plane OrderedMap

/-! ## Moves -/

/-- A replica as it is created: staged, unverified, without authority. -/
structure Fresh (v : ReplicaView) : Prop where
  staging : v.lifecycle.isStagingPhase = true
  unverified : v.integrity = .unverified
  candidate : v.authority = .candidate
  uncommitted : v.committed = false

/-- The moves of a replica. -/
inductive ReplicaMove (a : Action) (p p' : Plane) (k : ReplicaId) :
    Option ReplicaView → ReplicaView → Prop
  | register (v : ReplicaView) (act : a = .registerReplica k) (fresh : Fresh v) :
      ReplicaMove a p p' k none v
  | reserve (old : Option ReplicaView) (v : ReplicaView) (o : OperationId)
      (act : a = .authorize o) (destination : k = destinationOf o) (fresh : Fresh v)
      (operation : ∃ op, p'.operations o = some op ∧ op.key = v.key) :
      ReplicaMove a p p' k old v
  | progress (v : ReplicaView) (o : OperationId) (act : a = .report k o .transferring)
      (staging : v.lifecycle.isStagingPhase = true) :
      ReplicaMove a p p' k (some v) { v with lifecycle := .transferring }
  | abandon (v : ReplicaView) (revalidation : Bool)
      (allowed : (∃ o, a = .report k o .failed ∧ v.lifecycle.isStagingPhase = true
          ∧ ∀ op, p'.operations o = some op → op.Terminal)
        ∨ (∃ o op, a = .cancel o ∧ p.operations o = some op ∧ op.destination = k
          ∧ v.committed = false ∧ ¬ v.Terminal
          ∧ p'.operations o = some { op with state := .cancelled })
        ∨ (∃ o op, a = .reopen ∧ p.operations o = some op ∧ op.Early ∧ op.destination = k
          ∧ v.committed = false)) :
      ReplicaMove a p p' k (some v)
        { v with lifecycle := .abandoned, authority := .none, counts := false
                 availability := .absent, revalidation := revalidation }
  | receive (v v' : ReplicaView) (o : OperationId) (act : a = .report k o .transferred)
      (accepted : v.lifecycle.acceptsCompletion = true) (integrity : v'.integrity ≠ .verified)
      (lifecycle : v'.lifecycle = .transferred ∨ v'.lifecycle = .corrupt)
      (corrupt : v'.integrity = .mismatch → v'.lifecycle = .corrupt)
      (authority : (v'.authority = v.authority ∧ v'.counts = v.counts)
        ∨ (v'.authority = .fenced ∧ v'.counts = false))
      (frame : v' = { v with
        measured := v'.measured, integrity := v'.integrity, lifecycle := v'.lifecycle
        availability := v'.availability, authority := v'.authority, counts := v'.counts }) :
      ReplicaMove a p p' k (some v) v'
  | refuse (v v' : ReplicaView) (o : OperationId) (act : a = .verify k o false)
      (accepted : v.lifecycle.acceptsVerification = true)
      (lifecycle : v'.lifecycle = .corrupt ∨ v'.lifecycle = .transferred
        ∨ v'.lifecycle = .quarantined ∨ v'.lifecycle = .revalidationRequired)
      (failed : v'.integrity ≠ .verified ∨ v'.compatibility ≠ .compatible)
      (corrupt : v'.integrity = .mismatch → v'.lifecycle = .corrupt)
      (measured : v'.integrity = .verified → p.Matches v.key v'.measured)
      (authority : (v'.authority = v.authority ∧ v'.counts = v.counts
          ∧ v'.lifecycle ≠ .quarantined)
        ∨ (v'.authority = .fenced ∧ v'.counts = false))
      (frame : v' = { v with
        measured := v'.measured, integrity := v'.integrity, compatibility := v'.compatibility
        lifecycle := v'.lifecycle, authority := v'.authority, counts := v'.counts }) :
      ReplicaMove a p p' k (some v) v'
  | verify (v : ReplicaView) (measured : Digest) (o : OperationId)
      (act : a = .verify k o true)
      (accepted : v.lifecycle.acceptsVerification = true) (agrees : p.Matches v.key measured) :
      ReplicaMove a p p' k (some v)
        { v with measured := measured, integrity := .verified, compatibility := .compatible
                 lifecycle := .prepared, availability := .present, revalidation := false }
  | commit (v : ReplicaView) (authority : ReplicaAuthorityState)
      (act : (a = .commitReplica k ∧ v.committed = false)
        ∨ ∃ o op, a = .complete o ∧ p.Completable o op ∧ op.destination = k
          ∧ v.lifecycle = .prepared)
      (lifecycle : v.lifecycle = .prepared ∨ v.lifecycle = .authoritative
        ∨ v.lifecycle = .degraded)
      (validated : v.revalidation = false) (hosted : p'.Hosts v)
      (advances : p.Advances p' v.key)
      (owner : (authority = .authoritativeOwner ∧ p'.Owns v.key k)
        ∨ authority = .authoritativeForReuse) :
      ReplicaMove a p p' k (some v)
        { v with lifecycle := .authoritative, integrity := .verified
                 compatibility := .compatible, availability := .present
                 authority := authority, committed := true, counts := true }
  | promote (v : ReplicaView) (act : a = .handoff v.key k) (integrity : v.integrity = .verified)
      (compatibility : v.compatibility = .compatible)
      (prepared : v.committed = true ∨ v.lifecycle = .prepared) (hosted : p'.Hosts v)
      (advances : p.Advances p' v.key) (owner : p'.Owns v.key k) :
      ReplicaMove a p p' k (some v)
        { v with authority := .authoritativeOwner, lifecycle := .authoritative
                 committed := true, counts := true }
  | demote (v : ReplicaView) (K : StateKey)
      (act : (∃ o op w, a = .complete o ∧ p.operations o = some op
          ∧ p.replicas op.destination = some w ∧ w.key = K) ∨ ∃ n, a = .handoff K n)
      (live : ¬ v.Terminal) (owner : p.Owns K k) (advances : p.Advances p' K) :
      ReplicaMove a p p' k (some v) { v with authority := .authoritativeForReuse }
  | retire (v : ReplicaView)
      (act : (a = .retire k ∧ ¬ p'.Owns v.key k)
        ∨ ∃ o op w, a = .complete o ∧ p.operations o = some op ∧ op.destructive = true
          ∧ op.source = k ∧ op.destination ≠ k ∧ p.replicas op.destination = some w
          ∧ (op.kind = .migration → p'.Owns w.key op.destination))
      (live : ¬ v.Terminal) (advances : p.Advances p' v.key) :
      ReplicaMove a p p' k (some v)
        { v with lifecycle := .retired, authority := .historical, counts := false
                 availability := .absent }
  | quarantine (v : ReplicaView) (act : a = .quarantine k) (live : ¬ v.Terminal)
      (advances : p.Advances p' v.key) :
      ReplicaMove a p p' k (some v)
        { v with lifecycle := .quarantined, authority := .fenced, counts := false }
  | revalidate (v : ReplicaView) (incarnation : ClusterIncarnationId)
      (authority : ReplicaAuthorityState) (act : a = .revalidate k) (live : ¬ v.Terminal)
      (integrity : v.integrity = .verified)
      (hosted : p'.Hosts { v with incarnation := incarnation })
      (advances : p.Advances p' v.key)
      (owner : authority = .authoritativeOwner → p'.Owns v.key k)
      (armed : authority = .authoritativeOwner ∨ authority = .authoritativeForReuse
        ∨ authority = .candidate) :
      ReplicaMove a p p' k (some v)
        { v with incarnation := incarnation, revalidation := false, availability := .present
                 lifecycle := if v.committed = true then .authoritative else .prepared
                 authority := authority, counts := v.committed }
  | supersede (v : ReplicaView) (K : StateKey) (act : a = .commitState K)
      (advances : p.Advances p' v.key) :
      ReplicaMove a p p' k (some v) v.superseded
  | fence (v : ReplicaView) (availability : ReplicaAvailabilityState)
      (lifecycle : ReplicaLifecycle) (c : ClusterId) (act : a = .cluster c)
      (stale : lifecycle = .stale ∨ lifecycle = .revalidationRequired) (live : ¬ v.Terminal)
      (advances : p.Advances p' v.key) :
      ReplicaMove a p p' k (some v) (v.fenced availability lifecycle)
  | recover (v : ReplicaView) (act : a = .reopen) (live : ¬ v.Terminal) :
      ReplicaMove a p p' k (some v) { v with revalidation := true, availability := .unknown }
  | suspend (v : ReplicaView) (act : a = .reopen) (uncommitted : v.committed = false)
      (live : ¬ v.Terminal) :
      ReplicaMove a p p' k (some v)
        { v with lifecycle := .quarantined, authority := .fenced, counts := false
                 availability := .unknown, revalidation := true }

/-- The moves of a state generation. -/
inductive StateMove (a : Action) (p p' : Plane) (K : StateKey) :
    Option StateView → StateView → Prop
  | register (s : StateView) (act : a = .registerState K) (staged : s.lifecycle = .staged)
      (set : ∃ g, p'.setGeneration K = some g) : StateMove a p p' K none s
  | publish (s s' : StateView) (act : a = .publish K) (staged : s.lifecycle = .staged)
      (staged' : s'.lifecycle = .staged) : StateMove a p p' K (some s) s'
  | commit (s : StateView) (act : a = .commitState K) (notCurrent : s.lifecycle ≠ .current)
      (supersedes : s.branch = false → ∀ K' t, K' ≠ K → K'.stateId = K.stateId →
        p.states K' = some t → t.lifecycle = .current → t.lineage = s.lineage →
        p'.states K' = some { t with lifecycle := .historical }) :
      StateMove a p p' K (some s) { s with lifecycle := .current }
  | supersede (s : StateView) (K₀ : StateKey) (act : a = .commitState K₀) (other : K ≠ K₀)
      (current : s.lifecycle = .current)
      (replicas : ∀ k v, p.replicas k = some v → v.key = K → p'.replicas k = some v.superseded)
      (advances : p.Advances p' K) :
      StateMove a p p' K (some s) { s with lifecycle := .historical }

/-- The moves of a cluster.  One that ends an incarnation fences what was written under it. -/
inductive ClusterMove (a : Action) (p p' : Plane) (c : ClusterId) :
    Option ClusterView → ClusterView → Prop
  | register (v : ClusterView) (act : a = .cluster c) : ClusterMove a p p' c none v
  | refresh (v : ClusterView) (act : a = .cluster c) :
      ClusterMove a p p' c (some v) { v with live := true }
  | lose (v : ClusterView) (act : a = .cluster c)
      (fences : ∀ k r, p.replicas k = some r → r.cluster = c → r.incarnation = v.incarnation →
        ¬ r.Terminal → ∃ availability lifecycle,
          (lifecycle = .stale ∨ lifecycle = .revalidationRequired)
            ∧ p'.replicas k = some (r.fenced availability lifecycle)) :
      ClusterMove a p p' c (some v) { v with live := false }
  | reincarnate (v : ClusterView) (incarnation : ClusterIncarnationId) (act : a = .cluster c)
      (fences : ∀ k r, p.replicas k = some r → r.cluster = c → r.incarnation ≠ incarnation →
        ¬ r.Terminal → ∃ availability lifecycle,
          (lifecycle = .stale ∨ lifecycle = .revalidationRequired)
            ∧ p'.replicas k = some (r.fenced availability lifecycle)) :
      ClusterMove a p p' c (some v) { live := true, incarnation := incarnation }

/-- The moves of a replica set generation: it starts at one and moves on by one, and after the last
generation of the range by starting over. -/
inductive SetMove : Option UInt64 → UInt64 → Prop
  | create : SetMove none 1
  | keep (g : UInt64) : SetMove (some g) g
  | advance (g : UInt64) : SetMove (some g) (g + 1)

/-- The moves of an operation. -/
inductive OperationMove (a : Action) (p p' : Plane) (o : OperationId) :
    Option OperationView → OperationView → Prop
  | authorize (old : Option OperationView) (op : OperationView) (act : a = .authorize o)
      (state : op.state = .reserved) (destination : op.destination = destinationOf o)
      (current : ∃ s, p.states op.key = some s ∧ s.lifecycle = .current)
      (generation : p.setGeneration op.key = some op.sourceGeneration)
      (source : ∃ v, p.replicas op.source = some v ∧ v.key = op.key)
      (destructive : op.destructive = true → op.kind = .migration)
      (reserved : ∃ v, p'.replicas (destinationOf o) = some v ∧ v.key = op.key ∧ Fresh v) :
      OperationMove a p p' o old op
  | advance (op : OperationView) (state : OperationState)
      (act : a.MovesOn o state)
      (live : ¬ op.Terminal) (incomplete : state ≠ .complete) :
      OperationMove a p p' o (some op) { op with state := state }
  | note (op : OperationView) (act : a = .cancel o) : OperationMove a p p' o (some op) op
  | complete (op : OperationView) (v : ReplicaView) (act : a = .complete o)
      (completable : p.Completable o op) (destination : p.replicas op.destination = some v)
      (prepared : v.lifecycle = .prepared) (advances : p.Advances p' v.key) :
      OperationMove a p p' o (some op) { op with state := .complete }
  | recover (op : OperationView) (state : OperationState) (act : a = .reopen)
      (live : ¬ op.Terminal) (outcome : op.RecoversTo state) :
      OperationMove a p p' o (some op) { op with state := state }

/-- The moves of an ownership record: a committed copy claims it, and the copy that held it
is no longer owner. -/
inductive OwnershipMove (a : Action) (p p' : Plane) (K : StateKey) :
    Option OwnershipView → OwnershipView → Prop
  | claim (old : Option OwnershipView) (k : ReplicaId) (v : ReplicaView)
      (act : a = .commitReplica k ∨ (∃ o op, a = .complete o ∧ p.operations o = some op
        ∧ op.destination = k) ∨ a = .handoff K k)
      (owner : p'.replicas k = some v) (key : v.key = K) (committed : v.committed = true)
      (lifecycle : v.lifecycle = .authoritative)
      (yields : ∀ m w, old = some ⟨m, true⟩ → m ≠ k → p.replicas m = some w → ¬ w.Terminal →
        ∃ w', p'.replicas m = some w' ∧ w'.authority ≠ .authoritativeOwner) :
      OwnershipMove a p p' K old ⟨k, true⟩

/-! ## Steps -/

/-- One step of the protocol. -/
structure Step (a : Action) (p p' : Plane) : Prop where
  states : Evolves (StateMove a p p') p.states p'.states
  clusters : Evolves (ClusterMove a p p') p.clusters p'.clusters
  replicas : Evolves (ReplicaMove a p p') p.replicas p'.replicas
  sets : Evolves (fun _ => SetMove) p.setGeneration p'.setGeneration
  operations : Evolves (OperationMove a p p') p.operations p'.operations
  ownership : Evolves (OwnershipMove a p p') p.ownership p'.ownership
  /-- A restart settles every live operation, and suspends the copy of one it cannot settle. -/
  settles : a = .reopen → ∀ o op, p.operations o = some op → ¬ op.Terminal →
    ∃ state, p'.operations o = some { op with state := state }
      ∧ op.RecoversTo state
      ∧ (state = .outcomeUnknown → ∀ v, p.replicas op.destination = some v →
        v.committed = false → ∃ v', p'.replicas op.destination = some v' ∧ v'.committed = false
          ∧ (v'.lifecycle = .quarantined ∨ v'.Terminal))
  /-- A restart leaves no live copy validated. -/
  withholds : a = .reopen → ∀ k v, p.replicas k = some v → ¬ v.Terminal →
    ∃ v', p'.replicas k = some v' ∧ (v'.revalidation = true ∨ v'.Terminal)

/-- The plane before anything is registered. -/
def Plane.empty : Plane where
  states _ := none
  clusters _ := none
  replicas _ := none
  setGeneration _ := none
  operations _ := none
  ownership _ := none

end Protocol

end StateFabric
