import StateFabric.Guarantees.Recovery

/-!
# Content

A copy is verified by comparing the digest an agent measured with the content digest of its
generation.  As long as there is a digest to compare with, and it is not rewritten over a copy
that was already verified, every counting copy carries the content of its generation.

A copy whose digest was found not to agree stays out of authority for good, until its identity is
reserved for another copy.
-/

namespace StateFabric

open Protocol Transition ControlPlane OrderedMap Scenario

/-! ## Agreement -/

/-- Every counting replica carries the valid content digest of its generation, so the counting
replicas of a generation agree. -/
structure ContentAgreement (p : ControlPlane) : Prop where
  carries : ∀ (k : ReplicaId) (replica : ReplicaRecord), p.replicas[k]? = some replica →
    replicaCountsTowardReplicationFactor replica = true →
    ∃ s, p.states[replica.key]? = some s ∧ s.contentDigest.valid = true
      ∧ replica.measuredDigest.valid = true ∧ replica.measuredDigest = s.contentDigest
  same : ∀ (k k' : ReplicaId) (replica replica' : ReplicaRecord),
    p.replicas[k]? = some replica → p.replicas[k']? = some replica' →
    replicaCountsTowardReplicationFactor replica = true →
    replicaCountsTowardReplicationFactor replica' = true →
    replica.key = replica'.key → replica.measuredDigest = replica'.measuredDigest

/-- A verification finds a content digest to compare with, and a publication leaves the digest of
a generation with verified replicas as it is. -/
def comparesContent (r : Runtime) : Mutation → Bool
  | .verifyReplica report =>
    (r.plane.replicas[report.replicaId]?.bind fun replica => r.plane.states[replica.key]?).all
      (·.contentDigest.valid)
  | .publishStateGeneration spec =>
    (r.plane.replicasOfState spec.key).all (·.integrity != .verified)
      || r.plane.states[spec.key]?.all (·.contentDigest == spec.contentDigest)
  | _ => true

theorem Executes.comparable {r : Runtime} {m : Mutation} {out : Outcome Response}
    (h : Executes r m out) (coherent : Coherent r.plane) (effective : out.effects ≠ [])
    (compares : comparesContent r m = true) :
    Comparable (m.act r) r.plane.abs (r.after m).plane.abs where
  verified k o accepted v act hv := by
    obtain ⟨replica, hreplica, rfl⟩ := abs_replicas_eq_some.mp hv
    cases m with
    | verifyReplica =>
      obtain ⟨rfl, -, -⟩ := Action.verify.inj act
      obtain ⟨s, hs⟩ := Option.isSome_iff_exists.mp (coherent.replicas hreplica).2.state
      have hvalid : s.contentDigest.valid = true := by
        simpa [comparesContent, hreplica, hs] using compares
      exact ⟨s.view, abs_states hs, hvalid⟩
    | _ => cases act
  published k v s s' act hv verified hs hs' := by
    obtain ⟨replica, hreplica, rfl⟩ := abs_replicas_eq_some.mp hv
    cases m with
    | publishStateGeneration spec =>
      have hkey : spec.key = replica.key := Action.publish.inj act
      obtain ⟨inner, hinner, hout, -⟩ := map_outcome_eq_ok h.body
      rw [hout] at effective
      obtain ⟨existing, record, hexisting, -, heffects, hrecord, -, hdigest, -⟩ :=
        (publishStateGeneration_effects hinner).resolve_left effective
      have hexisting : r.plane.states[spec.key]? = some existing := hexisting
      -- The generation has a verified copy, so the publication keeps its digest.
      have hmem : replica ∈ r.plane.replicasOfState spec.key := by
        rw [coherent.mem_replicasOfState, (coherent.replicas hreplica).1]
        exact ⟨hreplica, hkey.symm⟩
      have hsame : existing.contentDigest = spec.contentDigest := by
        simp only [comparesContent, hexisting, Bool.or_eq_true, List.all_eq_true, bne_iff_ne,
          Option.all_some, beq_iff_eq] at compares
        rcases compares with hnone | hsame
        · exact absurd verified (hnone replica hmem)
        · exact hsame
      rw [show replica.view.key = spec.key from hkey.symm] at hs hs'
      obtain rfl := some_unique hs (abs_states hexisting)
      have hafter : (r.after (.publishStateGeneration spec)).plane.states[spec.key]?
          = some record := by
        rw [h.states_eq, applyAll_states, hout, heffects]
        simp [Effect.state?, ← hrecord]
      obtain rfl := some_unique hs' (abs_states hafter)
      exact hdigest.trans hsame.symm
    | _ => cases act

theorem agreed_step {r r' : Runtime} {e : Event} (kept : WellKept r) (hstep : Step r e r')
    (meets : OnEffect comparesContent r e)
    (protocol : Protocol.Step (e.action r) r.plane.abs r'.plane.abs)
    (ha : Agreed r.plane.abs) : Agreed r'.plane.abs := by
  rcases hstep.effect_cases meets with
    ⟨m, out, rfl, rfl, hexec, heffects, hcompares⟩ | hsame | ⟨config, rfl⟩
  · rw [hexec.action_eq] at protocol
    exact protocol.agreed (hexec.comparable kept.coherent heffects hcompares) ha
  · rw [abs_eq_of_records hsame]
    exact ha
  · exact protocol.agreed
      ⟨fun k o accepted v act => (by cases act), fun k v s s' act => (by cases act)⟩ ha

/-- In a run that compares content whenever it verifies, counting replicas agree with their
generation. -/
theorem content_agreement {r : Runtime}
    (h : Reachable Opened (Restrict Step (OnEffect comparesContent)) r) :
    ContentAgreement r.plane := by
  obtain ⟨hkept, hagreed⟩ : WellKept r ∧ Agreed r.plane.abs :=
    runtime_invariant (fun k v hv => by cases hv)
      (fun r e r' hkept hstep hok hprotocol hI => agreed_step hkept hstep hok hprotocol hI) h
  have hcarries : ∀ (k : ReplicaId) (replica : ReplicaRecord),
      r.plane.replicas[k]? = some replica → replicaCountsTowardReplicationFactor replica = true →
      ∃ s, r.plane.states[replica.key]? = some s ∧ s.contentDigest.valid = true
        ∧ replica.measuredDigest.valid = true ∧ replica.measuredDigest = s.contentDigest := by
    intro k replica hreplica hcounts
    have hverified : replica.view.integrity = .verified :=
      ((counting_iff replica).mp hcounts).2.2.1
    obtain ⟨v, hv, hvalid, hmeasured⟩ :=
      (hagreed k replica.view (abs_replicas hreplica)).1 hverified
    obtain ⟨s, hs, rfl⟩ := abs_states_eq_some.mp hv
    have hsame : replica.measuredDigest = s.contentDigest := hmeasured
    exact ⟨s, hs, hvalid, hsame ▸ hvalid, hsame⟩
  refine ⟨hcarries, ?_⟩
  intro k k' replica replica' hreplica hreplica' hcounts hcounts' hkey
  obtain ⟨s, hs, -, -, hmeasured⟩ := hcarries k replica hreplica hcounts
  obtain ⟨s', hs', -, -, hmeasured'⟩ := hcarries k' replica' hreplica' hcounts'
  rw [hkey, hs'] at hs
  rw [hmeasured, hmeasured', Option.some.inj hs]

theorem content_agreement_of_one_copy :
    ContentAgreement (reach oneCopy).plane
      ∧ (reach oneCopy).plane.replicas[(⟨20⟩ : ReplicaId)]?.any
        replicaCountsTowardReplicationFactor = true :=
  ⟨content_agreement (reachable_of_complies (by decide +kernel)), by decide +kernel⟩

/-- A copy of a generation that never had a content digest. -/
def Scenario.undigested : List Mutation :=
  cluster 1 :: .registerState { stateSpec 1 1 .immutable with contentDigest := {} }
    :: stateCommit 1 1 5 :: copy 20 1 1 1 7 false

/-- Nothing is compared, and the copy counts. -/
theorem counts_without_digest_of_undigested :
    ReachableRuntime (reach undigested) ∧ ¬ ContentAgreement (reach undigested).plane := by
  refine ⟨reachable _, fun hagreement => ?_⟩
  have hcounts : (reach undigested).plane.replicas[(⟨20⟩ : ReplicaId)]?.any (fun replica =>
      replicaCountsTowardReplicationFactor replica
        && (reach undigested).plane.states[replica.key]?.all (!·.contentDigest.valid)) = true := by
    decide +kernel
  obtain ⟨replica, hreplica, hfields⟩ := (Option.any_eq_true _ _).mp hcounts
  obtain ⟨hcounting, hinvalid⟩ := Bool.and_eq_true_iff.mp hfields
  obtain ⟨s, hs, hvalid, -⟩ := hagreement.carries _ replica hreplica hcounting
  simp [hs, hvalid] at hinvalid

/-! ## Disagreement -/

/-- The replica a request commits, hands a generation over to, or revalidates. -/
def Mutation.establishes (p : ControlPlane) : Mutation → Option ReplicaId
  | .commitReplica commit => some commit.replicaId
  | .commitOperation commit => p.operations[commit.operationId]?.map (·.destinationReplica)
  | .transferOwnership request => some request.newOwnerReplica
  | .revalidateReplica transition => some transition.replicaId
  | _ => none

end StateFabric
