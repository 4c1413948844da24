import StateFabric.Refinement.Run

/-!
# The identity counter

Identities are minted from one counter, which every put moves past the identities it carries and
which a load restores from the records it finds.  While no put carries the last value of the
range, the counter stays above every replica identity and every cluster incarnation
(`Bounded`), so what is minted is fresh.
-/

namespace StateFabric

open Protocol Transition OrderedMap

variable {es : List Effect} {q : ControlPlane} {m : Mutation} {out : Outcome Response}
  {o : OperationId}

variable {p : ControlPlane} {r : Runtime} {x n : UInt64} {e : Event}

/-! ## The counter after a batch -/

theorem le_bump (h : x ≠ lastIdentity) : n ≤ bump n x := by
  unfold bump
  split
  · rename_i hle
    exact UInt64.le_of_lt (UInt64.lt_of_le_of_lt hle (lt_add_one_of_ne_last h))
  · exact UInt64.le_refl n

theorem lt_bump (h : x ≠ lastIdentity) : x < bump n x := by
  unfold bump
  split
  · exact lt_add_one_of_ne_last h
  · rename_i hnot
    exact UInt64.not_le.mp hnot

theorem foldl_bump {xs : List UInt64} (h : ∀ x ∈ xs, x ≠ lastIdentity) (n : UInt64) :
    n ≤ xs.foldl bump n ∧ ∀ x ∈ xs, x < xs.foldl bump n := by
  induction xs generalizing n with
  | nil => exact ⟨UInt64.le_refl n, by simp⟩
  | cons y rest ih =>
    have hy := h y List.mem_cons_self
    obtain ⟨hle, hrest⟩ := ih (fun x hx => h x (List.mem_cons_of_mem _ hx)) (bump n y)
    refine ⟨UInt64.le_trans (le_bump hy) hle, fun x hx => ?_⟩
    rcases List.mem_cons.mp hx with rfl | hx
    · exact UInt64.lt_of_lt_of_le (lt_bump hy) hle
    · exact hrest x hx

/-- No identity the effect carries is the last of the range. -/
def Effect.InRange (e : Effect) : Prop := ∀ x ∈ e.identities, x ≠ lastIdentity

theorem Effect.nextIdAfter_bounds {e : Effect} (h : e.InRange) (n : UInt64) :
    n ≤ e.nextIdAfter n ∧ ∀ x ∈ e.identities, x < e.nextIdAfter n := by
  cases e with
  | setNextId value =>
    refine ⟨?_, by simp [Effect.identities]⟩
    simp only [Effect.nextIdAfter]
    split
    · rename_i hlt
      exact UInt64.le_of_lt hlt
    · exact UInt64.le_refl n
  | _ => exact foldl_bump h n

namespace ControlPlane

theorem apply_nextId (p : ControlPlane) (e : Effect) :
    (p.apply e).nextId = e.nextIdAfter p.nextId := by
  cases e with
  | setEpoch =>
    simp only [apply]
    split <;> rfl
  | _ => simp only [apply]

theorem applyAll_nextId_bounds (h : ∀ e ∈ es, e.InRange) (p : ControlPlane) :
    p.nextId ≤ (p.applyAll es).nextId
      ∧ ∀ e ∈ es, ∀ x ∈ e.identities, x < (p.applyAll es).nextId := by
  induction es generalizing p with
  | nil => exact ⟨UInt64.le_refl _, by simp⟩
  | cons e rest ih =>
    obtain ⟨hle, hlt⟩ := Effect.nextIdAfter_bounds (h e List.mem_cons_self) p.nextId
    rw [← apply_nextId] at hle hlt
    obtain ⟨hle', hlt'⟩ := ih (fun e he => h e (List.mem_cons_of_mem _ he)) (p.apply e)
    refine ⟨UInt64.le_trans hle hle', fun e' he' x hx => ?_⟩
    rcases List.mem_cons.mp he' with rfl | he'
    · exact UInt64.lt_of_lt_of_le (hlt x hx) hle'
    · exact hlt' e' he' x hx

/-! ## The bound -/

/-- The counter is above every replica identity and every cluster incarnation. -/
structure Bounded (p : ControlPlane) : Prop where
  replicas {k : ReplicaId} {r : ReplicaRecord} : p.replicas[k]? = some r → k.value < p.nextId
  clusters {c : ClusterId} {r : ClusterRecord} : p.clusters[c]? = some r →
    r.incarnation.value < p.nextId

theorem Bounded.applyAll (h : p.Bounded) (range : ∀ e ∈ es, e.InRange) :
    (p.applyAll es).Bounded := by
  obtain ⟨hle, hlt⟩ := applyAll_nextId_bounds range p
  constructor
  · intro k r hr
    rcases p.replicas_applyAll_cases es k with hk | ⟨w, ⟨hmem, rfl⟩, -⟩
    · exact UInt64.lt_of_lt_of_le (h.replicas (hk.symm.trans hr)) hle
    · exact hlt _ hmem _ (by simp [Effect.identities])
  · intro c r hr
    rcases p.clusters_applyAll_cases es c with hk | ⟨w, hw, hk⟩
    · exact UInt64.lt_of_lt_of_le (h.clusters (hk.symm.trans hr)) hle
    · obtain rfl := some_unique hk hr
      exact hlt _ hw.1 _ (by simp [Effect.identities])

theorem le_foldl_max (l : List UInt64) (n : UInt64) :
    n ≤ l.foldl max n ∧ ∀ x ∈ l, x ≤ l.foldl max n := by
  induction l generalizing n with
  | nil => exact ⟨UInt64.le_refl n, by simp⟩
  | cons y rest ih =>
    have hmax : max n y = if n ≤ y then y else n := rfl
    have hbounds : n ≤ max n y ∧ y ≤ max n y := by
      rw [hmax]
      split
      · rename_i hle
        exact ⟨hle, UInt64.le_refl y⟩
      · rename_i hnot
        exact ⟨UInt64.le_refl n, UInt64.le_of_lt (UInt64.not_le.mp hnot)⟩
    obtain ⟨hle, hrest⟩ := ih (max n y)
    refine ⟨UInt64.le_trans hbounds.1 hle, fun x hx => ?_⟩
    rcases List.mem_cons.mp hx with rfl | hx
    · exact UInt64.le_trans hbounds.2 hle
    · exact hrest x hx

theorem le_highestIdentity (h : x ∈ p.identityValues) : x ≤ p.highestIdentity :=
  (le_foldl_max p.identityValues 0).2 x h

theorem lt_succ_of_le (h : x ≤ n) (range : n ≠ lastIdentity) : x < n + 1 :=
  UInt64.lt_of_le_of_lt h (lt_add_one_of_ne_last range)

theorem bounded_of_highest (coherent : Coherent p) (range : p.highestIdentity ≠ lastIdentity)
    (next : p.nextId = p.highestIdentity + 1) : p.Bounded := by
  constructor
  · intro k r hr
    rw [next]
    refine lt_succ_of_le (le_highestIdentity ?_) range
    have hmem : (k, r) ∈ p.replicas.toList := mem_toList_iff.mpr hr
    have hid : r.replicaId = k := (coherent.replicas hr).1
    simp only [identityValues, List.mem_append, List.mem_flatMap]
    refine .inl (.inl (.inl (.inl (.inl (.inl (.inr ⟨(k, r), hmem, ?_⟩))))))
    simp [hid]
  · intro c r hr
    rw [next]
    refine lt_succ_of_le (le_highestIdentity ?_) range
    have hmem : (c, r) ∈ p.clusters.toList := mem_toList_iff.mpr hr
    simp only [identityValues, List.mem_append, List.mem_flatMap]
    refine .inl (.inl (.inl (.inl (.inl (.inl (.inl (.inr ⟨(c, r), hmem, ?_⟩)))))))
    simp

end ControlPlane

/-! ## Runs that do not wrap -/

/-- The step wraps no counter: no put carries the last identity, and a restart finds neither the
last identity nor the last epoch. -/
def NoWrap (r : Runtime) (e : Event) : Prop :=
  match e with
  | .mutation m => ∀ effect ∈ r.effects m, effect.InRange
  | .reopen config => r.plane.highestIdentity ≠ lastIdentity
      ∧ (r.plane.configure config).coordinatorEpoch.value ≠ lastIdentity
  | .persist | .shutdown => True

instance Effect.decidableInRange (e : Effect) : Decidable e.InRange :=
  List.decidableBAll (· ≠ lastIdentity) e.identities

instance NoWrap.decidable (r : Runtime) (e : Event) : Decidable (NoWrap r e) :=
  match e with
  | .mutation m => inferInstanceAs (Decidable (∀ effect ∈ r.effects m, effect.InRange))
  | .reopen config => inferInstanceAs (Decidable (r.plane.highestIdentity ≠ lastIdentity
      ∧ (r.plane.configure config).coordinatorEpoch.value ≠ lastIdentity))
  | .persist | .shutdown => inferInstanceAs (Decidable True)

namespace ControlPlane

theorem Bounded.of_maps (h : p.Bounded) (nextId : q.nextId = p.nextId)
    (replicas : q.replicas = p.replicas) (clusters : q.clusters = p.clusters) : q.Bounded where
  replicas hr := nextId ▸ h.replicas (replicas ▸ hr)
  clusters hr := nextId ▸ h.clusters (clusters ▸ hr)

theorem observeTick_nextId (p : ControlPlane) (tick : Tick) :
    (p.observeTick tick).nextId = p.nextId := by
  unfold observeTick
  split <;> rfl

theorem recover_nextId (p : ControlPlane) : p.recover.nextId = p.nextId := by
  have hloop : p.settled.nextId = p.withdrawEvidence.nextId := by
    refine recoverOperations_frame nextId (fun p operation => ?_) _ _
    unfold recoverOperation
    split <;> rfl
  rw [recover_eq]
  simp only [recomputeDerivedCounters, recoverReplicaSets, hloop, withdrawEvidence]

theorem Bounded.recover (h : p.Bounded) : p.recover.Bounded := by
  constructor
  · intro k r hr
    rw [getElem?_recover_replicas] at hr
    obtain ⟨r₀, hr₀, -⟩ := Option.map_eq_some_iff.mp hr
    exact p.recover_nextId ▸ h.replicas hr₀
  · intro c r hr
    rw [getElem?_recover_clusters] at hr
    obtain ⟨r₀, hr₀, rfl⟩ := Option.map_eq_some_iff.mp hr
    have hlt := h.clusters hr₀
    rwa [← p.recover_nextId] at hlt

end ControlPlane

theorem commit_nextId (r : Runtime) (es : List Effect) (tick : Tick)
    (epoch : CoordinatorEpoch) :
    (r.commit es tick epoch).plane.nextId = (r.plane.applyAll es).nextId :=
  r.commit_plane (·.nextId) ControlPlane.observeTick_nextId (fun _ _ _ => rfl) (fun _ _ => rfl)
    es tick epoch

theorem persist_nextId (r : Runtime) : r.persist.1.plane.nextId = r.plane.nextId := by
  unfold Runtime.persist
  split <;> rfl

theorem shutdown_nextId (r : Runtime) : r.shutdown.1.plane.nextId = r.plane.nextId := by
  unfold Runtime.shutdown
  split
  · rfl
  · simp only
    split <;> rfl

theorem ControlPlane.Bounded.of_records (h : p.Bounded) (nextId : q.nextId = p.nextId)
    (eq : q.records = p.records) : q.Bounded :=
  h.of_maps nextId (replicas_eq_of_records eq) (clusters_eq_of_records eq)

theorem Executes.authorizes (h : Executes r m out) (act : m.act r = .authorize o) :
    o = ⟨r.plane.nextId⟩ ∧ ∃ plan : TransferPlan, out.effects = plan.effects r.inputs := by
  have hplan : ∀ {request : TransferRequest} {inner : Outcome TransferAuthorization},
      authorizeTransaction request r.inputs = .ok inner →
        ∃ plan : TransferPlan, inner.effects = plan.effects r.inputs := by
    intro request inner hinner
    rw [authorizeTransaction, bind_eq_ok] at hinner
    obtain ⟨plan, -, hcommit⟩ := hinner
    exact ⟨plan, (MutationInputs.commit_ok hcommit).1⟩
  obtain ⟨-, hbody⟩ := h
  cases m with
  | authorizeReplication | authorizeMigration =>
    obtain ⟨inner, hinner, heffects, -⟩ := map_outcome_eq_ok hbody
    exact ⟨(Action.authorize.inj act).symm, heffects ▸ hplan hinner⟩
  | _ => simp [Mutation.act] at act

/-- The event authorizes an operation under an identity. -/
def Authorizes (r : Runtime) (e : Event) (o : OperationId) : Prop :=
  match e with
  | .mutation m => m.isAuthorization = true ∧ r.effects m ≠ [] ∧ o = ⟨r.plane.nextId⟩
  | .persist | .shutdown | .reopen _ => False

instance Authorizes.decidable (r : Runtime) (e : Event) (o : OperationId) :
    Decidable (Authorizes r e o) :=
  match e with
  | .mutation m => inferInstanceAs (Decidable (m.isAuthorization = true ∧ r.effects m ≠ []
      ∧ o = ⟨r.plane.nextId⟩))
  | .persist | .shutdown | .reopen _ => inferInstanceAs (Decidable False)

theorem authorizes_of_action (act : e.action r = .authorize o) : Authorizes r e o := by
  cases e with
  | mutation m =>
    rcases r.after_cases m with ⟨out, hexec⟩ | ⟨-, -, hidle⟩
    · rw [hexec.action_eq] at act
      obtain ⟨rfl, plan, heffects⟩ := hexec.authorizes act
      refine ⟨?_, ?_, rfl⟩
      · cases m <;> simp [Mutation.act] at act <;> rfl
      · rw [hexec.effects_eq, heffects]
        simp [TransferPlan.effects]
    · rw [hidle] at act
      cases act
  | persist | shutdown | reopen => cases act

/-- An authorization reserves a replica identity that is not in use. -/
def MintsUnused (r : Runtime) : Event → Prop
  | .mutation m => m.isAuthorization = true → r.effects m ≠ [] →
      r.plane.replicas[destinationOf ⟨r.plane.nextId⟩]? = none
  | .persist | .shutdown | .reopen _ => True

instance MintsUnused.decidable (r : Runtime) (e : Event) : Decidable (MintsUnused r e) :=
  match e with
  | .mutation m => inferInstanceAs (Decidable (m.isAuthorization = true → r.effects m ≠ [] →
      r.plane.replicas[destinationOf ⟨r.plane.nextId⟩]? = none))
  | .persist | .shutdown | .reopen _ => inferInstanceAs (Decidable True)

theorem MintsUnused.mintsFresh (h : MintsUnused r e) : MintsFresh (e.action r) r.plane.abs := by
  intro o act
  have hauthorizes := authorizes_of_action act
  cases e with
  | mutation =>
    obtain ⟨hauthorization, heffects, rfl⟩ := hauthorizes
    exact Option.map_eq_none_iff.mpr (h hauthorization heffects)
  | persist | shutdown | reopen => exact hauthorizes.elim

/-- An authorization whose puts are in range reserves an identity that is not in use. -/
theorem Executes.mintsFresh (h : Executes r m out) (bounded : r.plane.Bounded)
    (range : ∀ effect ∈ out.effects, effect.InRange) : MintsFresh (m.act r) r.plane.abs := by
  rintro o act
  obtain ⟨rfl, plan, heffects⟩ := h.authorizes act
  set next := r.plane.nextId with hnext
  have hoperation : (Effect.putOperation (plan.operation r.inputs)).InRange :=
    range _ (by rw [heffects]; simp [TransferPlan.effects])
  -- The operation carries the four identities from `next` on, so `next + 4` does not wrap.
  have hids : ∀ x ∈ [next, next + 1, next + 2, next + 3], x ≠ lastIdentity := hoperation
  have hlt : next < next + 4 := by
    have hne : ∀ x ∈ [next, next + 1, next + 2, next + 3], x.toNat ≠ 18446744073709551615 :=
      fun x hx heq => hids x hx (UInt64.toNat_inj.mp heq)
    simp only [List.forall_mem_cons, UInt64.toNat_add] at hne
    have hbound := next.toNat_lt
    rw [UInt64.lt_iff_toNat_lt, UInt64.toNat_add]
    simp at hne ⊢
    omega
  cases hr : r.plane.replicas[destinationOf ⟨next⟩]? with
  | none => exact Option.map_eq_none_iff.mpr hr
  | some =>
    have habove : next + 4 < next := bounded.replicas hr
    rw [UInt64.lt_iff_toNat_lt] at hlt habove
    omega

/-- A step that wraps no counter keeps the bound and mints fresh identities. -/
theorem WellKept.bounded_step {r' : Runtime} (h : WellKept r) (hstep : Step r e r')
    (nowrap : NoWrap r e) (bounded : r.plane.Bounded) :
    r'.plane.Bounded ∧ MintsFresh (e.action r) r.plane.abs := by
  cases hstep with
  | mutation m =>
    rcases r.after_cases m with ⟨out, hexec⟩ | ⟨hsame, -, hidle⟩
    · have hrange : ∀ effect ∈ out.effects, effect.InRange := hexec.effects_eq ▸ nowrap
      refine ⟨?_, hexec.action_eq ▸ hexec.mintsFresh bounded hrange⟩
      refine (bounded.applyAll hrange).of_records ?_ hexec.records_eq
      rw [hexec.after_eq]
      exact commit_nextId r _ _ _
    · rw [hsame, hidle]
      exact ⟨bounded, fun o act => by cases act⟩
  | persist =>
    exact ⟨bounded.of_records (persist_nextId r) (persist_plane r), fun o act => by cases act⟩
  | shutdown =>
    exact ⟨bounded.of_records (shutdown_nextId r) (shutdown_plane r), fun o act => by cases act⟩
  | reopen kept persistent opened =>
    refine ⟨?_, fun o act => by cases act⟩
    obtain ⟨loaded, hload, rfl⟩ := openFabric_ok persistent opened
    obtain ⟨hcontents, -, -, hnext⟩ := Directory.load_ok hload
    have hrecords : loaded.records = r.plane.records := hcontents.trans (h.durable _ kept)
    have hhighest := ControlPlane.highestIdentity_eq_of_records hrecords
    have hloaded : loaded.Bounded := by
      refine ControlPlane.bounded_of_highest (h.coherent.of_records hrecords) ?_ hnext
      rw [hhighest]
      exact nowrap.1
    have hrecovered : ∀ config, (loaded.configure config).recover.Bounded := fun config =>
      (hloaded.of_maps (q := loaded.configure config) rfl rfl rfl).recover
    exact (hrecovered _).of_maps rfl rfl rfl

/-- In every run that wraps no counter the plane stays bounded, and an invariant that steps with
fresh identities keep holds. -/
theorem bounded_invariant {I : Plane → Prop} (start : I Plane.empty)
    (keep : ∀ r e r', WellKept r → Step r e r' → MintsFresh (e.action r) r.plane.abs →
      Protocol.Step (e.action r) r.plane.abs r'.plane.abs → I r.plane.abs → I r'.plane.abs)
    (h : Reachable Opened (Restrict Step NoWrap) r) :
    WellKept r ∧ r.plane.Bounded ∧ I r.plane.abs := by
  refine h.invariant (I := fun r => WellKept r ∧ r.plane.Bounded ∧ I r.plane.abs)
    (fun r hr => ?_) ?_
  · obtain ⟨hkept, hempty⟩ := hr.start
    refine ⟨hkept, ⟨fun {k} _ hv => ?_, fun {c} _ hc => ?_⟩, hempty ▸ start⟩
    · have := congrFun (congrArg Plane.replicas hempty) k
      simp [ControlPlane.abs_replicas hv, Plane.empty] at this
    · have := congrFun (congrArg Plane.clusters hempty) c
      simp [ControlPlane.abs_clusters hc, Plane.empty] at this
  · rintro r e r' ⟨hstep, hok⟩ ⟨hkept, hbounded, hI⟩
    obtain ⟨hkept', hprotocol⟩ := hkept.step hstep
    obtain ⟨hbounded', hmints⟩ := hkept.bounded_step hstep hok hbounded
    exact ⟨hkept', hbounded', keep r e r' hkept hstep hmints hprotocol hI⟩

end StateFabric
