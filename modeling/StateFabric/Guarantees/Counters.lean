import StateFabric.Guarantees.Recovery

/-!
# Counters that only move forward

Three tokens tell an outdated actor from a current one: the coordinator epoch, the incarnation of
a cluster and the generation of a replica set.  In a run that wraps no counter none of them goes
back, and a reincarnation takes a value above every incarnation on record
(`fencing_tokens_monotone`).

Identities come from one counter.  A request takes values from it and hands it back with its last
effect; a load sets it anew from the records it finds.  The records do not hold every value that
was taken, so a restart can hand out a value again; `identity_freshness` says that this and a wrap
are the only ways.
-/

namespace StateFabric

open Protocol Transition ControlPlane OrderedMap Scenario

variable {out : Outcome Response} {record : ClusterRecord} {c : ClusterId} {q : ControlPlane}
  {x : UInt64} {es : List Effect}

variable {r r' : Runtime} {p : ControlPlane} {m : Mutation} {e : Event} {existing : ClusterRecord}
  {start stop : UInt64}

/-! ## Cluster incarnations -/

/-- A cluster put keeps the recorded incarnation, takes the next identity for a reincarnation, or
registers a new cluster. -/
theorem Executes.putCluster_cases (h : Executes r m out) (coherent : Coherent r.plane)
    (put : .putCluster record ∈ out.effects)
    (hexisting : r.plane.clusters[record.clusterId]? = some existing) :
    record.incarnation = existing.incarnation ∨ record.incarnation.value = r.plane.nextId := by
  have hinputs : Coherent r.inputs.plane := coherent
  have haction := ((h.admissible coherent).lawful.clusters record put).action_eq
  cases m with
  | registerCluster =>
    obtain ⟨inner, hinner, heffects, -⟩ := map_outcome_eq_ok h.body
    obtain ⟨fence, written, batch, hid, -, hknown⟩ := registerCluster_batch hinputs hinner
    obtain rfl := batch.eq_of_mem_putCluster (heffects ▸ put)
    have hcases := hknown existing (hid ▸ hexisting)
    split at hcases
    · exact .inr (congrArg StrongId.value hcases.1)
    · exact .inl hcases
  | publishClusterEvidence =>
    obtain ⟨inner, hinner, heffects, -⟩ := map_outcome_eq_ok h.body
    obtain ⟨known, written, hknown, -, batch, -, -, hid, hview⟩ :=
      publishClusterEvidence_batch hinner
    obtain rfl := batch.eq_of_mem_putCluster (heffects ▸ put)
    rw [hid, hinputs.clusters hknown] at hexisting
    obtain rfl := some_unique hknown hexisting
    exact .inl (congrArg ClusterView.incarnation hview)
  | markClusterUnreachable clusterId =>
    obtain ⟨inner, hinner, heffects, -⟩ := map_outcome_eq_ok h.body
    rw [heffects] at put
    rcases markClusterUnreachable_batch hinputs hinner with
      hnil | ⟨known, fence, lifecycle, health, hknown, -, batch⟩
    · simp [hnil] at put
    · obtain rfl := batch.eq_of_mem_putCluster put
      have hid : known.clusterId = clusterId := hinputs.clusters hknown
      obtain rfl := some_unique hknown (hid ▸ hexisting)
      exact .inl rfl
  | retireCluster clusterId =>
    obtain ⟨inner, hinner, heffects, -⟩ := map_outcome_eq_ok h.body
    obtain ⟨known, fence, lifecycle, health, hknown, -, batch⟩ := retireCluster_batch hinputs hinner
    obtain rfl := batch.eq_of_mem_putCluster (heffects ▸ put)
    have hid : known.clusterId = clusterId := hinputs.clusters hknown
    obtain rfl := some_unique hknown (hid ▸ hexisting)
    exact .inl rfl
  -- Every other request has an action that moves no cluster.
  | _ => simp [Mutation.act] at haction

theorem Executes.incarnation_cases (h : Executes r m out) (coherent : Coherent r.plane)
    (hexisting : r.plane.clusters[c]? = some existing) :
    ∃ record, (r.after m).plane.clusters[c]? = some record
      ∧ (record.incarnation = existing.incarnation
        ∨ record.incarnation.value = r.plane.nextId) := by
  rw [clusters_eq_of_records h.records_eq]
  rcases r.plane.clusters_applyAll_cases out.effects c with hsame | ⟨record, ⟨hmem, rfl⟩, hnew⟩
  · exact ⟨existing, hsame.trans hexisting, .inl rfl⟩
  · exact ⟨record, hnew, h.putCluster_cases coherent hmem hexisting⟩

/-- The registration is acknowledged and starts a new incarnation of a recorded cluster. -/
def Reincarnates (r : Runtime) (registration : ClusterRegistration) (existing : ClusterRecord) :
    Prop :=
  r.plane.clusters[registration.clusterId]? = some existing
    ∧ reincarnates registration existing = true
    ∧ (r.answer (.registerCluster registration)).isOk = true

theorem Reincarnates.incarnation {registration : ClusterRegistration}
    (h : Reincarnates r registration existing) (coherent : Coherent r.plane) :
    ∃ record, (r.after (.registerCluster registration)).plane.clusters[registration.clusterId]?
        = some record
      ∧ record.incarnation.value = r.plane.nextId := by
  obtain ⟨hexisting, hre, hanswer⟩ := h
  rcases r.after_cases (.registerCluster registration) with ⟨out, hexec⟩ | ⟨-, ⟨e, herror⟩, -⟩
  · have hinputs : Coherent r.inputs.plane := coherent
    obtain ⟨inner, hinner, heffects, -⟩ := map_outcome_eq_ok hexec.body
    obtain ⟨fence, record, batch, hid, -, hknown⟩ := registerCluster_batch hinputs hinner
    have hcases := hknown existing hexisting
    rw [if_pos hre] at hcases
    obtain ⟨rest, -, hes⟩ := batch.effects
    have hput : (registration.clusterId, record) ∈ out.effects.filterMap Effect.cluster? :=
      mem_clusterPuts.mpr ⟨by rw [heffects, hes]; simp, hid⟩
    rw [clusters_eq_of_records hexec.records_eq, applyAll_clusters]
    refine exists_getElem?_insertAll hput fun written hwritten => ?_
    obtain rfl := batch.eq_of_mem_putCluster (heffects ▸ (mem_clusterPuts.mp hwritten).1)
    exact congrArg StrongId.value hcases.1
  · rw [herror] at hanswer
    cases hanswer

/-! ## Fencing tokens -/

/-- The fencing tokens of one plane are at most those of another. -/
structure TokensLe (p q : ControlPlane) : Prop where
  epoch : p.coordinatorEpoch.value ≤ q.coordinatorEpoch.value
  incarnations {c : ClusterId} {record : ClusterRecord} : p.clusters[c]? = some record →
    ∃ record', q.clusters[c]? = some record' ∧ record.incarnation.value ≤ record'.incarnation.value
  generations {K : StateKey} {set : ReplicaSetRecord} : p.replicaSets[K]? = some set →
    ∃ set', q.replicaSets[K]? = some set' ∧ set.generation.value ≤ set'.generation.value

theorem TokensLe.refl (p : ControlPlane) : TokensLe p p where
  epoch := UInt64.le_refl _
  incarnations h := ⟨_, h, UInt64.le_refl _⟩
  generations h := ⟨_, h, UInt64.le_refl _⟩

theorem TokensLe.trans {s : ControlPlane} (h : TokensLe p q) (h' : TokensLe q s) :
    TokensLe p s where
  epoch := UInt64.le_trans h.epoch h'.epoch
  incarnations hc := by
    obtain ⟨record, hrecord, hle⟩ := h.incarnations hc
    obtain ⟨record', hrecord', hle'⟩ := h'.incarnations hrecord
    exact ⟨record', hrecord', UInt64.le_trans hle hle'⟩
  generations hK := by
    obtain ⟨set, hset, hle⟩ := h.generations hK
    obtain ⟨set', hset', hle'⟩ := h'.generations hset
    exact ⟨set', hset', UInt64.le_trans hle hle'⟩

theorem WellKept.epoch_le (h : WellKept r) (hstep : Step r e r') (nowrap : NoWrap r e) :
    r.plane.coordinatorEpoch.value ≤ r'.plane.coordinatorEpoch.value := by
  rcases h.records_cases hstep with hsame | ⟨m, out, rfl, rfl, hexec⟩ | ⟨config, -, rfl, -⟩
  · rw [coordinatorEpoch_eq_of_records hsame]
    exact UInt64.le_refl _
  · rw [coordinatorEpoch_eq_of_records hexec.records_eq]
    exact applyAll_coordinatorEpoch_ge r.plane out.effects
  · rw [h.reopened_coordinatorEpoch hstep]
    have hlt := (lt_next_iff (le_configure_coordinatorEpoch r.plane config)).mpr nowrap.2
    exact UInt64.le_of_lt hlt

/-- The incarnation of a cluster never goes back while the counter is above it. -/
theorem WellKept.incarnation_le (h : WellKept r) (bounded : r.plane.Bounded) (hstep : Step r e r')
    (hrecord : r.plane.clusters[c]? = some record) :
    ∃ record', r'.plane.clusters[c]? = some record'
      ∧ record.incarnation.value ≤ record'.incarnation.value := by
  rcases h.records_cases hstep with hsame | ⟨m, out, rfl, rfl, hexec⟩
    | ⟨config, loaded, rfl, hloaded, -, hrecovered⟩
  · exact ⟨record, by rwa [clusters_eq_of_records hsame], UInt64.le_refl _⟩
  · obtain ⟨record', hrecord', hsame | hminted⟩ := hexec.incarnation_cases h.coherent hrecord
    · exact ⟨record', hrecord', hsame ▸ UInt64.le_refl _⟩
    · exact ⟨record', hrecord', hminted ▸ UInt64.le_of_lt (bounded.clusters hrecord)⟩
  · have hsame : loaded.clusters[c]? = some record := by rwa [clusters_eq_of_records hloaded]
    refine ⟨recoveredCluster record, ?_, UInt64.le_refl _⟩
    rw [clusters_eq_of_records hrecovered, getElem?_recover_clusters]
    exact congrArg (Option.map recoveredCluster) hsame

/-- A step that wraps no counter leaves no set at the last generation. -/
theorem WellKept.roomy (h : WellKept r) (hstep : Step r e r') (nowrap : NoWrap r e)
    (roomy : Roomy r.plane.abs) : Roomy r'.plane.abs := by
  intro K g hg
  refine h.sets_step hstep (P := (· ≠ lastIdentity)) (fun m set he hput => ?_) roomy hg
  subst he
  exact nowrap _ hput _ (by simp [Effect.identities])

/-- In runs that wrap no counter no set generation starts over. -/
theorem roomy_of_reachable (h : Reachable Opened (Restrict Step NoWrap) r) :
    WellKept r ∧ Roomy r.plane.abs ∧ Numbered r.plane.abs :=
  runtime_invariant (I := fun p => Roomy p ∧ Numbered p)
    ⟨fun _ _ hg => (by cases hg), fun _ _ hg => (by cases hg)⟩
    (fun _ _ _ hkept hstep hok hprotocol hI =>
      ⟨hkept.roomy hstep hok hI.1, hprotocol.numbered hI.1 hI.2⟩) h

/-- A step that wraps no counter lets no fencing token go back. -/
theorem WellKept.tokens_step (h : WellKept r) (bounded : r.plane.Bounded) (hstep : Step r e r')
    (nowrap : NoWrap r e) (numbered : Numbered r'.plane.abs) :
    TokensLe r.plane r'.plane where
  epoch := h.epoch_le hstep nowrap
  incarnations := h.incarnation_le bounded hstep
  generations hset := by
    obtain ⟨-, hprotocol⟩ := h.step hstep
    obtain ⟨g', hg', hle⟩ := hprotocol.set_le numbered (abs_setGeneration hset)
    obtain ⟨set', hset', rfl⟩ := Option.map_eq_some_iff.mp hg'
    exact ⟨set', hset', hle⟩

/-- What every run that wraps no counter keeps. -/
theorem bounded_of_reachable (h : Reachable Opened (Restrict Step NoWrap) r) :
    WellKept r ∧ r.plane.Bounded := by
  obtain ⟨hkept, hbounded, -⟩ := bounded_invariant (I := fun _ => True) trivial
    (fun _ _ _ _ _ _ _ _ => trivial) h
  exact ⟨hkept, hbounded⟩

theorem tokens_runs {r₁ r₂ : Runtime} (reachable : Reachable Opened (Restrict Step NoWrap) r₁)
    (run : Runs (Restrict Step NoWrap) r₁ r₂) : TokensLe r₁.plane r₂.plane := by
  refine run.invariant_under (I := fun r => TokensLe r₁.plane r.plane)
    (J := Reachable Opened (Restrict Step NoWrap)) (fun _ _ _ hstep hs => hs.tail hstep) ?_
    reachable (.refl _)
  rintro s e s' hstep hs hle
  obtain ⟨hkept, hbounded⟩ := bounded_of_reachable hs
  obtain ⟨-, -, hnumbered⟩ := roomy_of_reachable (hs.tail hstep)
  exact hle.trans (hkept.tokens_step hbounded hstep.1 hstep.2 hnumbered)

/-- Fencing tokens are monotone: in a run that wraps no counter, epochs, incarnations and set
generations never go back, a reincarnation raises the incarnation of its cluster, and a superseded
incarnation is never live again. -/
theorem fencing_tokens_monotone {r₁ r₂ : Runtime}
    (reachable : Reachable Opened (Restrict Step NoWrap) r₁)
    (run : Runs (Restrict Step NoWrap) r₁ r₂) :
    TokensLe r₁.plane r₂.plane
      ∧ (∀ registration existing, Reincarnates r₂ registration existing →
        ∃ record, (r₂.after (.registerCluster registration)).plane.clusters[
            registration.clusterId]? = some record
          ∧ existing.incarnation.value < record.incarnation.value)
      ∧ ∀ (c : ClusterId) (old new : ClusterRecord), r₁.plane.clusters[c]? = some old →
        r₂.plane.clusters[c]? = some new → new.incarnation ≠ old.incarnation →
        ∀ r₃, Runs (Restrict Step NoWrap) r₂ r₃ → ∀ live : ClusterRecord,
          r₃.plane.clusters[c]? = some live → live.incarnation ≠ old.incarnation := by
  have hle := tokens_runs reachable run
  have hreach₂ := reachable.runs run
  obtain ⟨hkept, hbounded⟩ := bounded_of_reachable hreach₂
  refine ⟨hle, ?_, ?_⟩
  · intro registration existing hre
    obtain ⟨record, hrecord, hminted⟩ := hre.incarnation hkept.coherent
    exact ⟨record, hrecord, hminted ▸ hbounded.clusters hre.1⟩
  · intro c old new hold hnew hother r₃ run₃ live hlive heq
    obtain ⟨new', hnew', hfirst⟩ := hle.incarnations hold
    obtain rfl := some_unique hnew hnew'
    obtain ⟨live', hlive', hsecond⟩ := (tokens_runs hreach₂ run₃).incarnations hnew
    obtain rfl := some_unique hlive hlive'
    rw [heq] at hsecond
    have hvalue := UInt64.le_antisymm hsecond hfirst
    exact hother (congrArg StrongId.mk hvalue)

/-- A cluster that is reincarnated after a restart. -/
theorem fencing_tokens_monotone_of_reincarnation :
    TokensLe (reach [cluster 1]).plane (restart (reach [cluster 1])).plane
      ∧ ∃ existing record : ClusterRecord,
        (restart (reach [cluster 1])).plane.clusters[(⟨1⟩ : ClusterId)]? = some existing
          ∧ ((restart (reach [cluster 1])).after (reincarnation 1)).plane.clusters[
            (⟨1⟩ : ClusterId)]? = some record
          ∧ existing.incarnation.value < record.incarnation.value := by
  have hstep : Restrict Step NoWrap (reach [cluster 1]) (.reopen config)
      (restart (reach [cluster 1])) := ⟨step_restart (by decide +kernel), by decide +kernel⟩
  have hreach : Reachable Opened (Restrict Step NoWrap) (reach [cluster 1]) :=
    reachable_of_complies (by decide +kernel)
  obtain ⟨hle, hraises, -⟩ := fencing_tokens_monotone hreach (Runs.refl.tail hstep)
  have hknown : (restart (reach [cluster 1])).plane.clusters[(⟨1⟩ : ClusterId)]?.isSome := by
    decide +kernel
  obtain ⟨existing, hexisting⟩ := Option.isSome_iff_exists.mp hknown
  obtain ⟨record, hrecord, hlt⟩ := hraises { clusterRequest 1 with forceReincarnation := true }
    existing ⟨hexisting, rfl, by decide +kernel⟩
  exact ⟨hle, existing, record, hexisting, hrecord, hlt⟩

/-! ## Minted values -/

/-- The values from one up to, but not including, another, modulo the range. -/
def valuesBetween (start stop : UInt64) : List UInt64 :=
  (List.range (stop - start).toNat).map fun i => start + UInt64.ofNat i

theorem toNat_add_ofNat (h : start ≤ stop) {i : Nat} (hi : i < (stop - start).toNat) :
    (start + UInt64.ofNat i).toNat = start.toNat + i
      ∧ start.toNat + i < stop.toNat := by
  rw [UInt64.toNat_sub_of_le _ _ h] at hi
  have hstop := stop.toNat_lt
  rw [UInt64.toNat_add, UInt64.toNat_ofNat']
  omega

theorem mem_valuesBetween (h : start ≤ stop) (hx : x ∈ valuesBetween start stop) :
    start ≤ x ∧ x < stop := by
  obtain ⟨i, hi, rfl⟩ := List.mem_map.mp hx
  obtain ⟨hvalue, hlt⟩ := toNat_add_ofNat h (List.mem_range.mp hi)
  rw [UInt64.le_iff_toNat_le, UInt64.lt_iff_toNat_lt, hvalue]
  omega

theorem pairwise_valuesBetween (h : start ≤ stop) :
    (valuesBetween start stop).Pairwise (· < ·) := by
  refine List.pairwise_map.mpr (List.pairwise_lt_range.imp_of_mem ?_)
  intro i j hi hj hij
  rw [UInt64.lt_iff_toNat_lt, (toNat_add_ofNat h (List.mem_range.mp hi)).1,
    (toNat_add_ofNat h (List.mem_range.mp hj)).1]
  omega

/-- The value an effect hands the identity counter back with. -/
def Effect.nextId? : Effect → Option UInt64
  | .setNextId value => some value
  | _ => none

/-- The values a request takes from the identity counter.  A body counts up from `next_id` and
hands the counter back in a SET_NEXT_ID effect. -/
def Runtime.minted (r : Runtime) (m : Mutation) : List UInt64 :=
  match (r.effects m).findSome? Effect.nextId? with
  | some next => valuesBetween r.plane.nextId next
  | none => []

/-- What a request takes from the counter is new: positive, increasing, and the key of no replica,
operation or authorization on record. -/
structure MintsNew (r : Runtime) (m : Mutation) : Prop where
  positive : ∀ x ∈ r.minted m, x ≠ 0
  increasing : (r.minted m).Pairwise (· < ·)
  unused : ∀ x ∈ r.minted m, r.plane.replicas[(⟨x⟩ : ReplicaId)]? = none
    ∧ r.plane.operations[(⟨x⟩ : OperationId)]? = none
    ∧ r.plane.authorizations[(⟨x⟩ : OperationId)]? = none

/-- The request carries no last identity and does not count past the end of the range. -/
def countsOn (r : Runtime) (m : Mutation) : Bool :=
  (r.effects m).all fun effect =>
    decide effect.InRange && effect.nextId?.all fun next => decide (r.plane.nextId ≤ next)

/-- The records account for every value taken from the counter, and none is the last identity. -/
def accountsForMints (r : Runtime) : Bool :=
  decide (r.plane.highestIdentity ≠ lastIdentity)
    && decide (r.plane.nextId ≤ r.plane.highestIdentity + 1)

/-- The event does not set the identity counter back. -/
def CountsForward (r : Runtime) (e : Event) : Prop :=
  OnEffect countsOn r e ∧ OnRestart accountsForMints r e

instance CountsForward.decidable (r : Runtime) (e : Event) : Decidable (CountsForward r e) :=
  inferInstanceAs (Decidable (OnEffect countsOn r e ∧ OnRestart accountsForMints r e))

/-! ### The counter stays above the keys -/

/-- The counter is positive and above the key of every replica, operation and authorization. -/
structure CounterAbove (p : ControlPlane) : Prop where
  positive : 0 < p.nextId
  bounded : p.Bounded
  operations {o : OperationId} {op : OperationRecord} : p.operations[o]? = some op →
    o.value < p.nextId
  authorizations {o : OperationId} {grant : TransferAuthorization} :
    p.authorizations[o]? = some grant → grant.operationId = o ∧ o.value < p.nextId

theorem CounterAbove.applyAll (h : CounterAbove p) (range : ∀ e ∈ es, e.InRange) :
    CounterAbove (p.applyAll es) := by
  obtain ⟨hle, hlt⟩ := applyAll_nextId_bounds range p
  refine ⟨UInt64.lt_of_lt_of_le h.positive hle, h.bounded.applyAll range, ?_, ?_⟩
  · intro o op hop
    rcases p.operations_applyAll_cases es o with hsame | ⟨w, ⟨hmem, rfl⟩, -⟩
    · exact UInt64.lt_of_lt_of_le (h.operations (hsame.symm.trans hop)) hle
    · exact hlt _ hmem _ (by simp [Effect.identities])
  · intro o grant hgrant
    rcases p.authorizations_applyAll_cases es o with hsame | ⟨w, ⟨hmem, hkey⟩, hnew⟩
    · obtain ⟨hkey, hold⟩ := h.authorizations (hsame.symm.trans hgrant)
      exact ⟨hkey, UInt64.lt_of_lt_of_le hold hle⟩
    · obtain rfl := some_unique hnew hgrant
      exact ⟨hkey, hkey ▸ hlt _ hmem _ (by simp [Effect.identities])⟩

theorem counterAbove_of_highest (coherent : Coherent p)
    (keyed : ∀ {o : OperationId} {grant : TransferAuthorization},
      p.authorizations[o]? = some grant → grant.operationId = o)
    (range : p.highestIdentity ≠ lastIdentity) (next : p.nextId = p.highestIdentity + 1) :
    CounterAbove p := by
  have hbelow : ∀ {x}, x ∈ p.identityValues → x < p.nextId := fun hx =>
    next ▸ lt_succ_of_le (le_highestIdentity hx) range
  refine ⟨?_, bounded_of_highest coherent range next, ?_, ?_⟩
  · rw [next]
    exact lt_succ_of_le (UInt64.zero_le) range
  · intro o op hop
    have hmem : (o, op) ∈ p.operations.toList := mem_toList_iff.mpr hop
    obtain rfl := (coherent.operations hop).1
    refine hbelow ?_
    simp only [identityValues, List.mem_append, List.mem_flatMap]
    exact .inl (.inl (.inl (.inl (.inr ⟨_, hmem, by simp⟩))))
  · intro o grant hgrant
    have hmem : (o, grant) ∈ p.authorizations.toList := mem_toList_iff.mpr hgrant
    obtain rfl := keyed hgrant
    refine ⟨rfl, hbelow ?_⟩
    simp only [identityValues, List.mem_append, List.mem_flatMap]
    exact .inl (.inl (.inl (.inr ⟨_, hmem, by simp⟩)))

theorem CounterAbove.recover (coherent : Coherent p) (h : CounterAbove p) :
    CounterAbove p.recover := by
  refine ⟨p.recover_nextId ▸ h.positive, h.bounded.recover, ?_, ?_⟩
  · intro o op hop
    rw [p.recover_nextId]
    obtain ⟨tick, htick⟩ := coherent.getElem?_recover_operations o
    rw [htick] at hop
    obtain ⟨old, hold, -⟩ := Option.map_eq_some_iff.mp hop
    exact h.operations hold
  · intro o grant hgrant
    rw [p.recover_nextId]
    exact h.authorizations (p.recover_authorizations ▸ hgrant)

theorem CounterAbove.restarted (coherent : Coherent p) (h : CounterAbove p) (config : FabricConfig) :
    CounterAbove (p.configure config).recover := by
  have hconfigured : CounterAbove (p.configure config) :=
    ⟨h.positive, h.bounded.of_maps rfl rfl rfl, h.operations, h.authorizations⟩
  exact hconfigured.recover (coherent.configure config)

theorem CounterAbove.of_records (h : CounterAbove p) (nextId : q.nextId = p.nextId)
    (eq : q.records = p.records) : CounterAbove q where
  positive := nextId ▸ h.positive
  bounded := h.bounded.of_records nextId eq
  operations hop := nextId ▸ h.operations (operations_eq_of_records eq ▸ hop)
  authorizations hgrant := nextId ▸ h.authorizations (authorizations_eq_of_records eq ▸ hgrant)

theorem nextId_le_of_setNextId (range : ∀ e ∈ es, e.InRange) {next : UInt64}
    (mem : .setNextId next ∈ es) (p : ControlPlane) : next ≤ (p.applyAll es).nextId := by
  obtain ⟨before, after, rfl⟩ := List.append_of_mem mem
  have hset : next ≤ ((p.applyAll before).apply (.setNextId next)).nextId := by
    rw [apply_nextId]
    simp only [Effect.nextIdAfter]
    split
    · exact UInt64.le_refl _
    · rename_i hnot
      exact UInt64.not_lt.mp hnot
  have hrange : ∀ e ∈ after, e.InRange := fun e he => range e (by simp [he])
  have hafter := applyAll_nextId_bounds hrange ((p.applyAll before).apply (.setNextId next))
  rw [applyAll_append]
  exact UInt64.le_trans hset hafter.1

/-- A request that counts on: its puts are in range, and the counter it hands back is not below
the one it was given. -/
theorem CountsForward.spec (h : CountsForward r (.mutation m)) :
    (∀ effect ∈ r.effects m, effect.InRange)
      ∧ ∀ next, .setNextId next ∈ r.effects m → r.plane.nextId ≤ next := by
  have hall : ∀ effect ∈ r.effects m, effect.InRange
      ∧ ∀ next, effect.nextId? = some next → r.plane.nextId ≤ next := by
    intro effect hmem
    have hcounts := h.1 (List.ne_nil_of_mem hmem)
    simp only [countsOn, List.all_eq_true, Bool.and_eq_true, decide_eq_true_eq] at hcounts
    obtain ⟨hrange, hnext⟩ := hcounts effect hmem
    exact ⟨hrange, fun next hsome => by simpa [hsome] using hnext⟩
  exact ⟨fun effect hmem => (hall effect hmem).1, fun next hmem => (hall _ hmem).2 next rfl⟩

/-- The values of a request that counts on lie between the counters before and after it. -/
theorem CountsForward.minted_bounds (h : CountsForward r (.mutation m)) (hx : x ∈ r.minted m) :
    r.plane.nextId ≤ x ∧ x < (r.after m).plane.nextId := by
  obtain ⟨hrange, hforward⟩ := h.spec
  unfold Runtime.minted at hx
  split at hx
  · rename_i next hfound
    obtain ⟨effect, hmem, hnext⟩ := List.exists_of_findSome?_eq_some hfound
    obtain rfl : effect = .setNextId next := by
      cases effect <;> simp_all [Effect.nextId?]
    obtain ⟨hle, hlt⟩ := mem_valuesBetween (hforward next hmem) hx
    refine ⟨hle, UInt64.lt_of_lt_of_le hlt ?_⟩
    rcases r.effect_cases m with ⟨out, hexec, -⟩ | ⟨hnone, -⟩
    · rw [hexec.after_eq, commit_nextId]
      rw [hexec.effects_eq] at hmem hrange
      exact nextId_le_of_setNextId hrange hmem r.plane
    · simp [hnone] at hmem
  · cases hx

theorem CountsForward.mintsNew (h : CountsForward r (.mutation m)) (above : CounterAbove r.plane) :
    MintsNew r m where
  positive x hx hzero := by
    have hle := (h.minted_bounds hx).1
    rw [hzero] at hle
    exact UInt64.lt_irrefl _ (UInt64.lt_of_lt_of_le above.positive hle)
  increasing := by
    unfold Runtime.minted
    split
    · rename_i next hfound
      obtain ⟨effect, hmem, hnext⟩ := List.exists_of_findSome?_eq_some hfound
      obtain rfl : effect = .setNextId next := by
        cases effect <;> simp_all [Effect.nextId?]
      exact pairwise_valuesBetween (h.spec.2 next hmem)
    · exact .nil
  unused x hx := by
    have hle := (h.minted_bounds hx).1
    have hnot : ¬ x < r.plane.nextId := UInt64.not_lt.mpr hle
    refine ⟨?_, ?_, ?_⟩
    · exact Option.eq_none_iff_forall_ne_some.mpr fun v hv => hnot (above.bounded.replicas hv)
    · exact Option.eq_none_iff_forall_ne_some.mpr fun v hv => hnot (above.operations hv)
    · exact Option.eq_none_iff_forall_ne_some.mpr fun v hv => hnot (above.authorizations hv).2

/-- A step that puts no last identity, and a restart that finds none, keep the counter above the
keys. -/
theorem WellKept.counterAbove_step (h : WellKept r) (above : CounterAbove r.plane)
    (hstep : Step r e r') (puts : ∀ m, e = .mutation m → ∀ effect ∈ r.effects m, effect.InRange)
    (restarts : ∀ config, e = .reopen config → r.plane.highestIdentity ≠ lastIdentity) :
    CounterAbove r'.plane := by
  cases hstep with
  | mutation m =>
    rcases r.after_cases m with ⟨out, hexec⟩ | ⟨hsame, -⟩
    · have hrange : ∀ effect ∈ out.effects, effect.InRange := hexec.effects_eq ▸ puts m rfl
      refine (above.applyAll hrange).of_records ?_ hexec.records_eq
      rw [hexec.after_eq]
      exact commit_nextId r _ _ _
    · exact hsame.symm ▸ above
  | persist => exact above.of_records (persist_nextId r) (persist_plane r)
  | shutdown => exact above.of_records (shutdown_nextId r) (shutdown_plane r)
  | @reopen _ _ config kept persistent opened =>
    obtain ⟨loaded, hload, rfl⟩ := openFabric_ok persistent opened
    obtain ⟨hcontents, -, -, hnext⟩ := Directory.load_ok hload
    have hrecords : loaded.records = r.plane.records := hcontents.trans (h.durable _ kept)
    have hhighest := highestIdentity_eq_of_records hrecords
    have hloaded : CounterAbove loaded :=
      counterAbove_of_highest (h.coherent.of_records hrecords)
        (fun hgrant => (above.authorizations (authorizations_eq_of_records hrecords ▸ hgrant)).1)
        (hhighest ▸ restarts config rfl) hnext
    have hrestarted := hloaded.restarted (h.coherent.of_records hrecords) config
    exact hrestarted.of_records rfl rfl

theorem WellKept.counter_step (h : WellKept r) (above : CounterAbove r.plane) (hstep : Step r e r')
    (forward : CountsForward r e) : CounterAbove r'.plane ∧ r.plane.nextId ≤ r'.plane.nextId := by
  refine ⟨h.counterAbove_step above hstep ?_ ?_, ?_⟩
  · rintro m rfl
    exact forward.spec.1
  · rintro config rfl
    have hresumes : accountsForMints r = true := forward.2
    simp only [accountsForMints, Bool.and_eq_true, decide_eq_true_eq] at hresumes
    exact hresumes.1
  cases hstep with
  | mutation m =>
    rcases r.after_cases m with ⟨out, hexec⟩ | ⟨hsame, -⟩
    · have hrange : ∀ effect ∈ out.effects, effect.InRange := hexec.effects_eq ▸ forward.spec.1
      rw [hexec.after_eq, commit_nextId]
      exact (applyAll_nextId_bounds hrange r.plane).1
    · exact hsame.symm ▸ UInt64.le_refl _
  | persist => exact persist_nextId r ▸ UInt64.le_refl _
  | shutdown => exact shutdown_nextId r ▸ UInt64.le_refl _
  | @reopen _ _ config kept persistent opened =>
    obtain ⟨loaded, hload, rfl⟩ := openFabric_ok persistent opened
    obtain ⟨hcontents, -, -, hnext⟩ := Directory.load_ok hload
    have hrecords : loaded.records = r.plane.records := hcontents.trans (h.durable _ kept)
    have hresumes : accountsForMints r = true := forward.2
    simp only [accountsForMints, Bool.and_eq_true, decide_eq_true_eq] at hresumes
    change r.plane.nextId ≤ (loaded.configure config).recover.nextId
    rw [recover_nextId]
    change r.plane.nextId ≤ loaded.nextId
    rw [hnext, highestIdentity_eq_of_records hrecords]
    exact hresumes.2

theorem Opened.counterAbove (h : Opened r) : CounterAbove r.plane := by
  have hempty : CounterAbove ({} : ControlPlane) :=
    ⟨by decide, ⟨fun h => by simp at h, fun h => by simp at h⟩, fun h => by simp at h,
      fun h => by simp at h⟩
  obtain ⟨config, hopen⟩ := h
  by_cases hpersistent : config.persistenceDirectory = []
  · simp only [openFabric, hpersistent, List.isEmpty_nil, if_true, initializeFabric,
      rejectIf_bind_eq_ok, Option.isSome_none, Bool.false_eq_true, if_false] at hopen
    obtain rfl := Except.ok.inj hopen.2.2
    exact ⟨hempty.positive, hempty.bounded.of_maps rfl rfl rfl, hempty.operations,
      hempty.authorizations⟩
  · obtain ⟨loaded, hload, rfl⟩ := openFabric_ok hpersistent hopen
    obtain ⟨hcontents, -, -, hnext⟩ := Directory.load_ok hload
    have hrecords : loaded.records = ({} : ControlPlane).records := hcontents
    have hhighest : loaded.highestIdentity = 0 := highestIdentity_eq_of_records hrecords
    have hloaded : CounterAbove loaded :=
      hempty.of_records (by rw [hnext, hhighest]; rfl) hrecords
    exact (hloaded.restarted (coherent_empty.of_records hrecords) config).of_records rfl rfl

theorem counterAbove_of_reachable (h : Reachable Opened (Restrict Step CountsForward) r) :
    WellKept r ∧ CounterAbove r.plane := by
  refine h.invariant (I := fun r => WellKept r ∧ CounterAbove r.plane)
    (fun r hr => ⟨hr.start.1, hr.counterAbove⟩) ?_
  rintro r e r' ⟨hstep, hforward⟩ ⟨hkept, habove⟩
  exact ⟨(hkept.step hstep).1, (hkept.counter_step habove hstep hforward).1⟩

/-- In a run that wraps no counter, the identity counter stays above the keys. -/
theorem counterAbove_of_noWrap (h : Reachable Opened (Restrict Step NoWrap) r) :
    WellKept r ∧ CounterAbove r.plane := by
  refine h.invariant (I := fun r => WellKept r ∧ CounterAbove r.plane)
    (fun r hr => ⟨hr.start.1, hr.counterAbove⟩) ?_
  rintro r e r' ⟨hstep, hnowrap⟩ ⟨hkept, habove⟩
  refine ⟨(hkept.step hstep).1, hkept.counterAbove_step habove hstep ?_ ?_⟩
  · rintro m rfl
    exact hnowrap
  · rintro config rfl
    exact hnowrap.1

/-- Identity freshness: in a run that never sets the identity counter back, every value taken from
it is positive, names no record, and is above every value taken before. -/
theorem identity_freshness {r₁ r₂ : Runtime} {m₁ m₂ : Mutation}
    (reachable : Reachable Opened (Restrict Step CountsForward) r₁)
    (forward₁ : CountsForward r₁ (.mutation m₁))
    (run : Runs (Restrict Step CountsForward) (r₁.after m₁) r₂)
    (forward₂ : CountsForward r₂ (.mutation m₂)) :
    MintsNew r₁ m₁ ∧ ∀ x ∈ r₁.minted m₁, ∀ y ∈ r₂.minted m₂, x < y := by
  refine ⟨forward₁.mintsNew (counterAbove_of_reachable reachable).2, fun x hx y hy => ?_⟩
  have hle : (r₁.after m₁).plane.nextId ≤ r₂.plane.nextId := by
    refine run.invariant_under (I := fun r => (r₁.after m₁).plane.nextId ≤ r.plane.nextId)
      (J := Reachable Opened (Restrict Step CountsForward)) (fun _ _ _ hstep hs => hs.tail hstep) ?_
      (reachable.tail ⟨.mutation r₁ m₁, forward₁⟩) (UInt64.le_refl _)
    rintro s e s' ⟨hstep, hforward⟩ hs hle
    obtain ⟨hkept, habove⟩ := counterAbove_of_reachable hs
    exact UInt64.le_trans hle (hkept.counter_step habove hstep hforward).2
  have hfirst : x < (r₁.after m₁).plane.nextId := (forward₁.minted_bounds hx).2
  have hsecond : r₂.plane.nextId ≤ y := (forward₂.minted_bounds hy).1
  exact UInt64.lt_of_lt_of_le hfirst (UInt64.le_trans hle hsecond)

/-- An authorization, a restart and a registration. -/
theorem identity_freshness_of_replicating :
    MintsNew (reach replicating.dropLast) (replication 1 1 2)
      ∧ ∀ x ∈ (reach replicating.dropLast).minted (replication 1 1 2),
        ∀ y ∈ (restart (reach replicating)).minted (reincarnation 2), x < y := by
  have hstep : Restrict Step CountsForward (reach replicating) (.reopen config)
      (restart (reach replicating)) := ⟨step_restart (by decide +kernel), by decide +kernel⟩
  exact identity_freshness (reachable_of_complies (by decide +kernel)) (by decide +kernel)
    (Runs.refl.tail hstep) (by decide +kernel)

/-- The evidence generations a registration takes are not among the values a load looks at, so
after a restart the next registration takes them again. -/
theorem identity_reused_after_restart :
    ∃ r₁ m₁ r₂ m₂, ReachableRuntime r₁ ∧ Runs Step (r₁.after m₁) r₂
      ∧ ∃ x ∈ r₁.minted m₁, x ∈ r₂.minted m₂ :=
  ⟨reach [], cluster 1, restart (reach [cluster 1]), cluster 2, reachable [],
    Runs.refl.tail (step_restart (by decide +kernel)), 8, by decide +kernel, by decide +kernel⟩

/-! ## Replaying a batch -/

theorem foldl_bump_of_lt {xs : List UInt64} (below : ∀ x ∈ xs, x < n) : xs.foldl bump n = n := by
  induction xs with
  | nil => rfl
  | cons x rest ih =>
    have hx : bump n x = n := if_neg (UInt64.not_le.mpr (below x List.mem_cons_self))
    rw [List.foldl_cons, hx]
    exact ih fun y hy => below y (List.mem_cons_of_mem _ hy)

/-- A batch leaves a counter alone that is above all it carries and not below what it sets. -/
theorem applyAll_nextId_of_le (below : ∀ e ∈ es, ∀ x ∈ e.identities, x < p.nextId)
    (set : ∀ next, .setNextId next ∈ es → next ≤ p.nextId) :
    (p.applyAll es).nextId = p.nextId := by
  induction es generalizing p with
  | nil => rfl
  | cons e rest ih =>
    have hstep : (p.apply e).nextId = p.nextId := by
      rw [apply_nextId]
      cases e with
      | setNextId next => exact if_neg (UInt64.not_lt.mpr (set next List.mem_cons_self))
      | _ => exact foldl_bump_of_lt (below _ List.mem_cons_self)
    refine (ih (p := p.apply e) ?_ ?_).trans hstep
    · exact hstep ▸ fun e he => below e (List.mem_cons_of_mem _ he)
    · exact hstep ▸ fun next hnext => set next (List.mem_cons_of_mem _ hnext)

/-- Replay idempotence: a batch that carries no last identity leaves, applied twice, the records,
the counters, the epoch and the identity counter that it leaves applied once. -/
theorem replay_idempotent (p : ControlPlane) (es : List Effect) (range : ∀ e ∈ es, e.InRange) :
    ((p.applyAll es).applyAll es).records = (p.applyAll es).records
      ∧ ((p.applyAll es).applyAll es).nextId = (p.applyAll es).nextId :=
  ⟨records_applyAll_twice p es, applyAll_nextId_of_le (applyAll_nextId_bounds range p).2
    fun _ mem => nextId_le_of_setNextId range mem p⟩

theorem replay_idempotent_of_registration :
    (({} : ControlPlane).applyAll [.putCluster { clusterId := ⟨9⟩ }, .setNextId 3]).nextId = 10
      ∧ ((({} : ControlPlane).applyAll [.putCluster { clusterId := ⟨9⟩ }, .setNextId 3]).applyAll
        [.putCluster { clusterId := ⟨9⟩ }, .setNextId 3]).nextId = 10 := by
  have hrange : ∀ e ∈ [Effect.putCluster { clusterId := ⟨9⟩ }, .setNextId 3], e.InRange := by
    simp [Effect.InRange, Effect.identities, lastIdentity]
  exact ⟨by decide +kernel, (replay_idempotent {} _ hrange).2.trans (by decide +kernel)⟩

end StateFabric
