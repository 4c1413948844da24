import StateFabric.Protocol.Invariants

/-!
# Single ownership

Three actions write ownership records and about ten others rewrite the authority and lifecycle
of copies.  `Owned` ties the two together: a copy with owner authority is the recorded owner of
its generation, and a recorded owner is a committed, live copy of it.

It is kept by steps that never reserve an identity already in use (`MintsFresh`); a reservation
over an existing copy would erase the owner it names.
-/

namespace StateFabric

namespace Protocol

open Plane OrderedMap

variable {k : ReplicaId} {v' v : ReplicaView}

variable {a : Action} {p p' : Plane}

/-- Authorizations reserve identities that are not in use. -/
def MintsFresh (a : Action) (p : Plane) : Prop :=
  ∀ o, a = .authorize o → p.replicas (destinationOf o) = none

/-- Ownership, and what keeps it: committed copies are past staging, and an operation and both
its copies are of one generation. -/
structure Owned (p : Plane) : Prop where
  owner : ∀ k v, p.replicas k = some v → v.authority = .authoritativeOwner → p.Owns v.key k
  held : ∀ K k, p.Owns K k →
    ∃ v, p.replicas k = some v ∧ v.key = K ∧ v.committed = true ∧ ¬ v.Terminal
  staged : ∀ k v, p.replicas k = some v → v.committed = true →
    v.lifecycle.isStagingPhase = false
  source : ∀ o op, p.operations o = some op →
    ∃ v, p.replicas op.source = some v ∧ v.key = op.key
  destination : ∀ o op, p.operations o = some op →
    ∃ v, p.replicas op.destination = some v ∧ v.key = op.key
  destructive : ∀ o op, p.operations o = some op → op.destructive = true → op.kind = .migration

/-! ## Copies persist -/

/-- A copy that is not reserved anew keeps its generation and its commitment. -/
theorem ReplicaMove.persists (h : ReplicaMove a p p' k (some v) v')
    (other : ∀ o, a = .authorize o → k ≠ destinationOf o) :
    v'.key = v.key ∧ (v.committed = true → v'.committed = true) := by
  cases h with
  | reserve old v' o act destination => exact absurd destination (other o act)
  | receive w v' o act accepted integrity lifecycle corrupt authority frame
  | refuse w v' o act accepted lifecycle failed corrupt measured authority frame =>
    rw [frame]
    exact ⟨rfl, id⟩
  | commit | promote => exact ⟨rfl, fun _ => rfl⟩
  | _ => exact ⟨rfl, id⟩

theorem MintsFresh.other (h : MintsFresh a p) (hv : p.replicas k = some v) (o : OperationId)
    (act : a = .authorize o) : k ≠ destinationOf o := by
  rintro rfl
  simp [h o act] at hv

theorem Step.persists (h : Step a p p') (mints : MintsFresh a p) (hv : p.replicas k = some v) :
    ∃ v', p'.replicas k = some v' ∧ v'.key = v.key
      ∧ (v.committed = true → v'.committed = true) := by
  rcases h.replicas k with hk | ⟨v', hk, hm⟩
  · exact ⟨v, hk.trans hv, rfl, id⟩
  · rw [hv] at hm
    obtain ⟨hkey, hcommitted⟩ := hm.persists (mints.other hv)
    exact ⟨v', hk, hkey, hcommitted⟩

/-! ## Committed copies are past staging -/

theorem ReplicaMove.staged {old : Option ReplicaView} (h : ReplicaMove a p p' k old v')
    (hold : ∀ v, old = some v → v.committed = true → v.lifecycle.isStagingPhase = false)
    (committed : v'.committed = true) : v'.lifecycle.isStagingPhase = false := by
  cases h with
  | register v act fresh | reserve old v o act destination fresh =>
    simp [fresh.uncommitted] at committed
  | progress v o act staging => simp [hold v rfl committed] at staging
  | abandon | verify | commit | promote | retire | quarantine | suspend => rfl
  | receive v v' o act accepted integrity lifecycle =>
    rcases lifecycle with h | h <;> simp [h, ReplicaLifecycle.isStagingPhase]
  | refuse v v' o act accepted lifecycle =>
    rcases lifecycle with h | h | h | h <;> simp [h, ReplicaLifecycle.isStagingPhase]
  | demote v | recover v => exact hold v rfl committed
  | revalidate v => cases hc : v.committed <;> simp [ReplicaLifecycle.isStagingPhase]
  | supersede v =>
    simp only [ReplicaView.superseded]
    split
    · rfl
    · exact hold v rfl committed
  | fence v availability lifecycle c act stale =>
    simp only [ReplicaView.fenced]
    split
    · rcases stale with h | h <;> simp [h, ReplicaLifecycle.isStagingPhase]
    · exact hold v rfl committed

/-! ## Owners -/

/-- Owner authority after a move was there before, or is backed by the ownership record. -/
theorem ReplicaMove.owner_cases {old : Option ReplicaView} (h : ReplicaMove a p p' k old v')
    (owner : v'.authority = .authoritativeOwner) :
    p'.Owns v'.key k ∨
      ∃ v, old = some v ∧ v.key = v'.key ∧ v.authority = .authoritativeOwner := by
  cases h with
  | register v act fresh | reserve old v o act destination fresh => simp [fresh.candidate] at owner
  | progress v | verify v | recover v => exact .inr ⟨v, rfl, rfl, owner⟩
  | abandon | demote | retire | quarantine | suspend => simp at owner
  | receive v v' o act accepted integrity lifecycle corrupt authority frame
  | refuse v v' o act accepted lifecycle failed corrupt measured authority frame =>
    rcases authority with ⟨h, -⟩ | ⟨h, -⟩
    · exact .inr ⟨v, rfl, by rw [frame], h ▸ owner⟩
    · simp [h] at owner
  | commit v authority act lifecycle validated hosted advances backed =>
    rcases backed with ⟨-, hown⟩ | h
    · exact .inl hown
    · simp [h] at owner
  | promote v act integrity compatibility prepared hosted advances backed => exact .inl backed
  | revalidate v incarnation authority act live integrity hosted advances backed =>
    exact .inl (backed owner)
  | supersede => simp [ReplicaView.superseded] at owner
  | fence => simp [ReplicaView.fenced] at owner

theorem Step.owns_of_owner (h : Step a p p') (hp : Owned p) (hv : p.replicas k = some v)
    (owner : v.authority = .authoritativeOwner) (hv' : p'.replicas k = some v')
    (owner' : v'.authority = .authoritativeOwner) : p'.Owns v.key k := by
  have howns : p.ownership v.key = some ⟨k, true⟩ := hp.owner k v hv owner
  rcases h.ownership v.key with hk | ⟨o', hk, hm⟩
  · exact hk.trans howns
  · rw [howns] at hm
    cases hm with
    | claim n w act hn key committed lifecycle yields =>
      by_cases hne : k = n
      · rw [← hne] at hk
        exact hk
      · obtain ⟨u, hu, -, -, hlive⟩ := hp.held v.key k howns
        obtain rfl := some_unique hv hu
        obtain ⟨w', hw', hyield⟩ := yields k v rfl hne hv hlive
        obtain rfl := some_unique hw' hv'
        exact absurd owner' hyield

/-- The recorded owner of a generation is not retired or abandoned by a step. -/
theorem Step.not_terminal_of_owns (h : Step a p p') (hp : Owned p) (mints : MintsFresh a p)
    {K : StateKey} (howns : p.Owns K k) (howns' : p'.Owns K k) (hv' : p'.replicas k = some v') :
    ¬ v'.Terminal := by
  obtain ⟨v, hv, hkey, hcommitted, hlive⟩ := hp.held K k howns
  rcases h.replicas k with hk | ⟨w, hk, hm⟩
  · obtain rfl := some_unique (hk.trans hv) hv'
    exact hlive
  · obtain rfl : w = v' := some_unique hk hv'
    intro hterminal
    rw [hv] at hm
    cases hm with
    | reserve old v o act destination => exact mints.other hv o act destination
    | progress | verify | commit | promote | quarantine | suspend =>
      simp [ReplicaView.Terminal] at hterminal
    | abandon v revalidation allowed =>
      rcases allowed with ⟨o, -, hs, -⟩ | ⟨o, op, -, -, -, hu, -⟩ | ⟨o, op, -, -, -, -, hu⟩
      · simp [hp.staged k v hv hcommitted] at hs
      · simp [hcommitted] at hu
      · simp [hcommitted] at hu
    | receive v v' o act accepted integrity lifecycle | refuse v v' o act accepted lifecycle =>
      rcases hterminal with h | h <;> simp [h] at lifecycle
    | demote | recover => exact hlive hterminal
    | retire v act =>
      rcases act with ⟨-, hnot⟩ | ⟨o, op, w, -, hop, hdestructive, hsource, hne, hw, hclaims⟩
      · exact hnot (hkey ▸ howns')
      · -- The source of a destructive move is of the generation its destination now owns.
        obtain ⟨u, hu, hukey⟩ := hp.source o op hop
        rw [hsource] at hu
        obtain rfl := some_unique hv hu
        obtain ⟨u, hu, hukey'⟩ := hp.destination o op hop
        obtain rfl := some_unique hw hu
        have hdest := hclaims (hp.destructive o op hop hdestructive)
        have hK : w.key = K := by rw [hukey', ← hukey, hkey]
        rw [hK] at hdest
        have heq := some_unique howns' hdest
        exact hne (OwnershipView.mk.inj heq).1.symm
    | revalidate v => cases hc : v.committed <;> simp [ReplicaView.Terminal, hc] at hterminal
    | supersede =>
      simp only [ReplicaView.Terminal, ReplicaView.superseded] at hterminal
      split at hterminal
      · simp at hterminal
      · exact hlive hterminal
    | fence v availability lifecycle c act stale =>
      simp only [ReplicaView.Terminal, ReplicaView.fenced] at hterminal
      split at hterminal
      · rcases stale with h | h <;> simp [h] at hterminal
      · exact hlive hterminal

/-- An operation after a step was recorded before, with the same copies, or was authorized
against copies of its generation. -/
theorem Step.operation_copies (h : Step a p p') {o : OperationId} {op' : OperationView}
    (hop' : p'.operations o = some op') :
    (∃ op, p.operations o = some op ∧ op'.source = op.source ∧ op'.destination = op.destination
        ∧ op'.key = op.key ∧ op'.destructive = op.destructive ∧ op'.kind = op.kind)
      ∨ ((∃ v, p.replicas op'.source = some v ∧ v.key = op'.key)
        ∧ (∃ v, p'.replicas op'.destination = some v ∧ v.key = op'.key)
        ∧ (op'.destructive = true → op'.kind = .migration)) := by
  rcases h.operations.of_some hop' with hk | hm
  · exact .inl ⟨op', hk, rfl, rfl, rfl, rfl, rfl⟩
  · generalize hold : p.operations o = old at hm ⊢
    cases hm with
    | authorize old op act state destination current generation source destructive reserved =>
      obtain ⟨v, hv, hkey, -⟩ := reserved
      exact .inr ⟨source, ⟨v, destination ▸ hv, hkey⟩, destructive⟩
    | _ => exact .inl ⟨_, rfl, rfl, rfl, rfl, rfl, rfl⟩

theorem Step.owned (h : Step a p p') (mints : MintsFresh a p) (hp : Owned p) : Owned p' where
  owner := by
    intro k v' hv' owner'
    rcases h.replicas.of_some hv' with hk | hm
    · have hv : p.replicas k = some v' := hk
      exact h.owns_of_owner hp hv owner' hv' owner'
    · rcases hm.owner_cases owner' with howns | ⟨v, hv, hkey, howner⟩
      · exact howns
      · exact hkey ▸ h.owns_of_owner hp hv howner hv' owner'
  held := by
    intro K k howns'
    rcases h.ownership K with hk | ⟨o', hk, hm⟩
    · have howns : p.Owns K k := hk.symm.trans howns'
      obtain ⟨v, hv, hkey, hcommitted, -⟩ := hp.held K k howns
      obtain ⟨v', hv', hkey', hcommitted'⟩ := h.persists mints hv
      exact ⟨v', hv', hkey'.trans hkey, hcommitted' hcommitted,
        h.not_terminal_of_owns hp mints howns howns' hv'⟩
    · obtain rfl := some_unique hk howns'
      generalize hold : p.ownership K = old at hm
      cases hm with
      | claim old w act hn key committed lifecycle =>
        exact ⟨w, hn, key, committed, by simp [ReplicaView.Terminal, lifecycle]⟩
  staged := by
    intro k v' hv' committed
    rcases h.replicas.of_some hv' with hk | hm
    · exact hp.staged k v' hk committed
    · exact hm.staged (fun v hv => hp.staged k v hv) committed
  source := by
    intro o op' hop'
    rcases h.operation_copies hop' with ⟨op, hop, hs, -, hkey, -⟩ | ⟨⟨v, hv, hkey⟩, -⟩
    · obtain ⟨v, hv, hvkey⟩ := hp.source o op hop
      obtain ⟨v', hv', hkey', -⟩ := h.persists mints hv
      exact ⟨v', hs ▸ hv', by rw [hkey', hvkey, hkey]⟩
    · obtain ⟨v', hv', hkey', -⟩ := h.persists mints hv
      exact ⟨v', hv', hkey'.trans hkey⟩
  destination := by
    intro o op' hop'
    rcases h.operation_copies hop' with ⟨op, hop, -, hd, hkey, -⟩ | ⟨-, hdest, -⟩
    · obtain ⟨v, hv, hvkey⟩ := hp.destination o op hop
      obtain ⟨v', hv', hkey', -⟩ := h.persists mints hv
      exact ⟨v', hd ▸ hv', by rw [hkey', hvkey, hkey]⟩
    · exact hdest
  destructive := by
    intro o op' hop' hdestructive
    rcases h.operation_copies hop' with ⟨op, hop, -, -, -, hd, hkind⟩ | ⟨-, -, hd⟩
    · exact hkind ▸ hp.destructive o op hop (hd ▸ hdestructive)
    · exact hd hdestructive

end Protocol

end StateFabric
