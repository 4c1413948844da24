import StateFabric.Fabric.Operation
import StateFabric.Refinement.Coherent

/-!
# What a reuse evaluation finds

`evaluate_reuse` scans the copies a cluster hosts in one loop that serves two purposes: it keeps
the lowest copy whose reuse is permitted and the lowest that is refused, and one assessment for
both.  `ReuseSearch.finds_foldl` says what the loop ends with: the two copies, and the assessment of
the one of them that is stored later.  `evaluateReuse_permitted` and `evaluateReuse_refused` read
the answer off it.
-/

namespace StateFabric

open OrderedMap ControlPlane

variable {context : AuthorityContext} {best : ReplicaRecord} {search : ReuseSearch}

variable {replica : ReplicaRecord} {seen l : List ReplicaRecord}

/-! ## The lowest copy -/

/-- The identity of a copy as a number. -/
def ReplicaRecord.rank (replica : ReplicaRecord) : Nat := replica.replicaId.value.toNat

/-- The first copy of a list among those of lowest identity. -/
def lowest (l : List ReplicaRecord) : Option ReplicaRecord := l.argmin ReplicaRecord.rank

theorem lowest_mem (h : lowest l = some replica) : replica ∈ l := List.argmin_mem h

theorem lowest_le {other : ReplicaRecord} (h : lowest l = some replica) (mem : other ∈ l) :
    replica.rank ≤ other.rank :=
  List.le_of_mem_argmin mem h

theorem lowest_eq_none : lowest l = none ↔ l = [] := List.argmin_eq_none

theorem lowest_concat (l : List ReplicaRecord) (replica : ReplicaRecord) :
    lowest (l ++ [replica])
      = if (lowest l).all (replica.replicaId < ·.replicaId) then some replica else lowest l := by
  unfold lowest
  rw [List.argmin_concat]
  cases hlowest : l.argmin ReplicaRecord.rank with
  | none => simp
  | some current =>
    have hlt : replica.replicaId < current.replicaId ↔ replica.rank < current.rank := Iff.rfl
    simp only [Option.all_some, decide_eq_true_eq, hlt]

/-! ## Assessments -/

theorem assessmentPermitsReuse_iff :
    assessmentPermitsReuse (assessReplicaAuthority replica context) = true ↔
      ∀ d ∈ authorityDenials replica context (authorityEvidence replica context),
        d.applies = false := by
  rw [← authoritativeForReuse_iff]
  simp only [assessmentPermitsReuse, assessReplicaAuthority]
  split
  · simp
  · simp

theorem code_ne_ok_of_refused
    (h : assessmentPermitsReuse (assessReplicaAuthority replica context) = false) :
    (assessReplicaAuthority replica context).code ≠ .ok := by
  simp only [assessReplicaAuthority] at h ⊢
  split
  · rename_i denial hdenial
    have hmem := List.mem_of_find?_eq_some hdenial
    simp only [authorityDenials, List.mem_cons, List.not_mem_nil, or_false] at hmem
    rcases hmem with
      h | h | h | h | h | h | h | h | h | h | h | h | h | h | h | h | h | h | h | h | h
      <;> simp [h]
  · rename_i hnone
    simp [hnone, assessmentPermitsReuse] at h

/-! ## The search -/

namespace ReuseSearch

variable (context : AuthorityContext)

/-- The assessment of a copy permits its reuse. -/
def permits (replica : ReplicaRecord) : Bool :=
  assessmentPermitsReuse (assessReplicaAuthority replica context)

/-- The lowest copy whose reuse is permitted. -/
def lowestPermitted (seen : List ReplicaRecord) : Option ReplicaRecord :=
  lowest (seen.filter (permits context))

/-- The lowest copy whose reuse is refused. -/
def lowestRefused (seen : List ReplicaRecord) : Option ReplicaRecord :=
  lowest (seen.filter (!permits context ·))

/-- The lowest refused copy, if there is one, is stored before the lowest permitted one. -/
def inOrder (seen : List ReplicaRecord) : Bool :=
  (lowestPermitted context seen).all fun best =>
    (lowestRefused context seen).all fun rejected => seen.idxOf rejected < seen.idxOf best

/-- The copy whose assessment the search keeps: the later of the two it found. -/
def remembered (seen : List ReplicaRecord) : Option ReplicaRecord :=
  if inOrder context seen then (lowestPermitted context seen).or (lowestRefused context seen)
  else lowestRefused context seen

variable {context}

theorem mem_of_lowestPermitted (h : lowestPermitted context seen = some replica) :
    replica ∈ seen ∧ permits context replica = true := List.mem_filter.mp (lowest_mem h)

theorem mem_of_lowestRefused (h : lowestRefused context seen = some replica) :
    replica ∈ seen ∧ permits context replica = false := by
  obtain ⟨hmem, hrefused⟩ := List.mem_filter.mp (lowest_mem h)
  exact ⟨hmem, by simpa using hrefused⟩

theorem lowestRefused_of_none (h : lowestPermitted context seen = none) :
    lowestRefused context seen = lowest seen := by
  have hnone := List.filter_eq_nil_iff.mp (lowest_eq_none.mp h)
  have hall : seen.filter (!permits context ·) = seen :=
    List.filter_eq_self.mpr fun replica hmem => by simp [hnone replica hmem]
  rw [lowestRefused, hall]

theorem remembered_of_inOrder (h : lowestPermitted context seen = some best)
    (order : inOrder context seen = true) : remembered context seen = some best := by
  rw [remembered, order, if_pos rfl, h, Option.some_or]

theorem remembered_of_not_inOrder (order : inOrder context seen = false) :
    ∃ rejected, remembered context seen = some rejected ∧ permits context rejected = false := by
  rw [remembered, order, if_neg Bool.false_ne_true]
  cases hrejected : lowestRefused context seen with
  | none =>
    -- With nothing refused there is no order to break.
    cases hbest : lowestPermitted context seen <;> simp [inOrder, hbest, hrejected] at order
  | some rejected => exact ⟨rejected, rfl, (mem_of_lowestRefused hrejected).2⟩

/-- What the search has found after a list of copies. -/
structure Finds (context : AuthorityContext) (seen : List ReplicaRecord) (search : ReuseSearch) :
    Prop where
  best : search.best = lowestPermitted context seen
  rejected : search.rejected = lowestRefused context seen
  assessment : search.assessment
    = (remembered context seen).elim {} (assessReplicaAuthority · context)

theorem remembered_concat_of_same
    (permitted : lowestPermitted context (seen ++ [replica]) = lowestPermitted context seen)
    (refused : lowestRefused context (seen ++ [replica]) = lowestRefused context seen) :
    remembered context (seen ++ [replica]) = remembered context seen := by
  have horder : inOrder context (seen ++ [replica]) = inOrder context seen := by
    unfold inOrder
    rw [permitted, refused]
    cases hbest : lowestPermitted context seen with
    | none => rfl
    | some =>
      cases hrejected : lowestRefused context seen with
      | none => rfl
      | some =>
        simp only [Option.all_some]
        rw [List.idxOf_append_of_mem (mem_of_lowestPermitted hbest).1,
          List.idxOf_append_of_mem (mem_of_lowestRefused hrejected).1]
  rw [remembered, remembered, horder, permitted, refused]

/-- A copy lower than those of a list that meet what it meets is not in the list. -/
theorem not_mem_of_lower (keep : ReplicaRecord → Bool) (kept : keep replica = true)
    (lower : (lowest (seen.filter keep)).all (replica.replicaId < ·.replicaId) = true) :
    replica ∉ seen := by
  intro hmem
  have hfiltered : replica ∈ seen.filter keep := List.mem_filter.mpr ⟨hmem, kept⟩
  cases hlowest : lowest (seen.filter keep) with
  | none =>
    rw [lowest_eq_none.mp hlowest] at hfiltered
    cases hfiltered
  | some current =>
    rw [hlowest, Option.all_some, decide_eq_true_eq] at lower
    have hlt : replica.rank < current.rank := lower
    exact absurd (lowest_le hlowest hfiltered) (by omega)

/-- A permitted copy replaces the best one when it is lower, and is then the one remembered. -/
theorem Finds.step_permitted (h : search.Finds context seen)
    (permitted : permits context replica = true) :
    (search.step context replica).Finds context (seen ++ [replica]) := by
  have hrefused : lowestRefused context (seen ++ [replica]) = lowestRefused context seen := by
    simp [lowestRefused, permitted]
  have hpermitted : lowestPermitted context (seen ++ [replica])
      = if (lowestPermitted context seen).all (replica.replicaId < ·.replicaId)
        then some replica else lowestPermitted context seen := by
    rw [lowestPermitted, List.filter_append, List.filter_cons_of_pos permitted, List.filter_nil,
      lowest_concat]
    rfl
  have hassessed : assessmentPermitsReuse (assessReplicaAuthority replica context) = true :=
    permitted
  simp only [step, hassessed, if_true, h.best]
  split
  · rename_i hlower
    rw [if_pos hlower] at hpermitted
    refine ⟨hpermitted.symm, h.rejected.trans hrefused.symm, ?_⟩
    have hnew : replica ∉ seen := not_mem_of_lower _ permitted hlower
    have horder : inOrder context (seen ++ [replica]) = true := by
      unfold inOrder
      rw [hpermitted, hrefused, Option.all_some]
      cases hrejected : lowestRefused context seen with
      | none => rfl
      | some =>
        have hmem := (mem_of_lowestRefused hrejected).1
        have hbefore := List.idxOf_lt_length_of_mem hmem
        simp only [Option.all_some, decide_eq_true_eq]
        rw [List.idxOf_append_of_mem hmem, List.idxOf_append_of_notMem hnew]
        omega
    rw [remembered, horder, if_pos rfl, hpermitted]
    rfl
  · rename_i hlower
    rw [if_neg hlower] at hpermitted
    refine ⟨h.best.trans hpermitted.symm, h.rejected.trans hrefused.symm, ?_⟩
    rw [h.assessment, remembered_concat_of_same hpermitted hrefused]

/-- A refused copy replaces the rejected one when it is lower, and is then the one remembered. -/
theorem Finds.step_refused (h : search.Finds context seen)
    (refused : permits context replica = false) :
    (search.step context replica).Finds context (seen ++ [replica]) := by
  have hpermitted : lowestPermitted context (seen ++ [replica])
      = lowestPermitted context seen := by
    simp [lowestPermitted, refused]
  have hkept : (!permits context replica) = true := by rw [refused, Bool.not_false]
  have hrefused : lowestRefused context (seen ++ [replica])
      = if (lowestRefused context seen).all (replica.replicaId < ·.replicaId)
        then some replica else lowestRefused context seen := by
    rw [lowestRefused, List.filter_append,
      List.filter_cons_of_pos (p := (!permits context ·)) hkept, List.filter_nil, lowest_concat]
    rfl
  have hassessed : assessmentPermitsReuse (assessReplicaAuthority replica context) = false :=
    refused
  simp only [step, hassessed, Bool.false_eq_true, if_false, h.rejected]
  split
  · rename_i hlower
    rw [if_pos hlower] at hrefused
    refine ⟨h.best.trans hpermitted.symm, hrefused.symm, ?_⟩
    have hnew : replica ∉ seen := not_mem_of_lower (!permits context ·) hkept hlower
    cases hbest : lowestPermitted context seen with
    | none =>
      simp only [remembered, inOrder, hpermitted, hrefused, hbest, Option.all_none, if_true,
        Option.none_or, Option.elim_some]
    | some =>
      have hmem := (mem_of_lowestPermitted hbest).1
      have hbefore := List.idxOf_lt_length_of_mem hmem
      have horder : inOrder context (seen ++ [replica]) = false := by
        unfold inOrder
        rw [hpermitted, hrefused, hbest]
        simp only [Option.all_some, decide_eq_false_iff_not]
        rw [List.idxOf_append_of_mem hmem, List.idxOf_append_of_notMem hnew]
        omega
      rw [remembered, horder, hrefused]
      rfl
  · rename_i hlower
    rw [if_neg hlower] at hrefused
    refine ⟨h.best.trans hpermitted.symm, h.rejected.trans hrefused.symm, ?_⟩
    rw [h.assessment, remembered_concat_of_same hpermitted hrefused]

theorem finds_foldl (context : AuthorityContext) (seen : List ReplicaRecord) :
    (seen.foldl (step context) {}).Finds context seen := by
  induction seen using List.reverseRecOn with
  | nil => exact ⟨rfl, rfl, rfl⟩
  | append_singleton seen replica ih =>
    rw [List.foldl_append, List.foldl_cons, List.foldl_nil]
    cases hpermits : permits context replica with
    | true => exact ih.step_permitted hpermits
    | false => exact ih.step_refused hpermits

end ReuseSearch

/-! ## The evaluation -/

/-- What a reuse evaluation assesses the copies of a generation with. -/
def ControlPlane.reuseContext (p : ControlPlane) (config : FabricConfig) (key : StateKey)
    (clusterId : ClusterId) : AuthorityContext :=
  p.authorityContext key clusterId (some (p.rebuildReplicaSet (p.replicaSets[key]?.getD {})))
    (resolveReplicationPolicy p config {})

/-- The copies of a generation a cluster hosts. -/
def ControlPlane.hosted (p : ControlPlane) (key : StateKey) (clusterId : ClusterId) :
    List ReplicaRecord :=
  (p.replicasOfState key).filter (·.location.clusterId == clusterId)

/-- The generation and the cluster a reuse question is about are registered. -/
def ControlPlane.asksKnown (p : ControlPlane) (key : StateKey) (clusterId : ClusterId) : Bool :=
  p.states[key]?.isSome && p.clusters[clusterId]?.isSome

section Evaluation

open ReuseSearch

variable {p : ControlPlane} {config : FabricConfig} {key : StateKey} {clusterId : ClusterId}

/-- The answer when a copy is permitted: the lowest such copy, with the assessment remembered. -/
theorem evaluateReuse_permitted (known : p.asksKnown key clusterId = true)
    (h : lowestPermitted (p.reuseContext config key clusterId) (p.hosted key clusterId)
      = some best) :
    (evaluateReuse p config key clusterId).decision ≠ .reject
      ∧ (evaluateReuse p config key clusterId).code = .ok
      ∧ (evaluateReuse p config key clusterId).replica = best.replicaId
      ∧ (evaluateReuse p config key clusterId).assessment
        = (remembered (p.reuseContext config key clusterId) (p.hosted key clusterId)).elim {}
          (assessReplicaAuthority · (p.reuseContext config key clusterId)) := by
  obtain ⟨hstate, hcluster⟩ := Bool.and_eq_true_iff.mp known
  obtain ⟨state, hstate⟩ := Option.isSome_iff_exists.mp hstate
  obtain ⟨cluster, hcluster⟩ := Option.isSome_iff_exists.mp hcluster
  have hfinds := finds_foldl (p.reuseContext config key clusterId) (p.hosted key clusterId)
  have hbest := hfinds.best.trans h
  have hassessment := hfinds.assessment
  unfold reuseContext authorityContext hosted at hbest hassessment ⊢
  rw [hstate, hcluster] at hbest hassessment ⊢
  simp only [evaluateReuse, hstate, hcluster, hbest]
  refine ⟨?_, trivial, trivial, hassessment⟩
  split <;> simp

/-- The answer when every copy is refused: the lowest copy and its assessment. -/
theorem evaluateReuse_refused (known : p.asksKnown key clusterId = true)
    (h : lowestPermitted (p.reuseContext config key clusterId) (p.hosted key clusterId) = none) :
    (evaluateReuse p config key clusterId).decision = .reject
      ∧ (evaluateReuse p config key clusterId).code
        = ((lowest (p.hosted key clusterId)).map fun replica =>
          (assessReplicaAuthority replica (p.reuseContext config key clusterId)).code).getD
            .noAuthoritativeReplica
      ∧ (evaluateReuse p config key clusterId).replica
        = ((lowest (p.hosted key clusterId)).map (·.replicaId)).getD {}
      ∧ (evaluateReuse p config key clusterId).assessment
        = (lowest (p.hosted key clusterId)).elim {}
          (assessReplicaAuthority · (p.reuseContext config key clusterId)) := by
  obtain ⟨hstate, hcluster⟩ := Bool.and_eq_true_iff.mp known
  obtain ⟨state, hstate⟩ := Option.isSome_iff_exists.mp hstate
  obtain ⟨cluster, hcluster⟩ := Option.isSome_iff_exists.mp hcluster
  have hfinds := finds_foldl (p.reuseContext config key clusterId) (p.hosted key clusterId)
  have hbest := hfinds.best.trans h
  have hrejected := hfinds.rejected.trans (lowestRefused_of_none h)
  have hassessment := hfinds.assessment
  simp only [remembered, inOrder, h, Option.all_none, if_true, Option.none_or,
    lowestRefused_of_none h] at hassessment
  unfold reuseContext authorityContext hosted at hbest hrejected hassessment ⊢
  rw [hstate, hcluster] at hbest hrejected hassessment ⊢
  simp only [evaluateReuse, hstate, hcluster, hbest, hrejected, hassessment]
  refine ⟨trivial, ?_, trivial, trivial⟩
  cases lowest ((p.replicasOfState key).filter (·.location.clusterId == clusterId)) with
  | none | some => rfl

theorem evaluateReuse_refused_code (known : p.asksKnown key clusterId = true)
    (h : lowestPermitted (p.reuseContext config key clusterId) (p.hosted key clusterId) = none) :
    (evaluateReuse p config key clusterId).code ≠ .ok := by
  rw [(evaluateReuse_refused known h).2.1]
  cases hlowest : lowest (p.hosted key clusterId) with
  | none => simp
  | some replica =>
    have hnone := List.filter_eq_nil_iff.mp (lowest_eq_none.mp h)
    exact code_ne_ok_of_refused (Bool.eq_false_of_not_eq_true (hnone replica (lowest_mem hlowest)))

/-- The answer to a question about a generation or a cluster that is not registered. -/
theorem evaluateReuse_unknown (config : FabricConfig)
    (unknown : p.asksKnown key clusterId = false) :
    (evaluateReuse p config key clusterId).decision = .reject
      ∧ (evaluateReuse p config key clusterId).code ≠ .ok
      ∧ (evaluateReuse p config key clusterId).replica = {} := by
  unfold evaluateReuse
  cases hstate : p.states[key]? with
  | none => simp
  | some =>
    cases hcluster : p.clusters[clusterId]? with
    | none => simp
    | some => simp [asksKnown, hstate, hcluster] at unknown

end Evaluation

end StateFabric
