import StateFabric.Refinement.Restart

/-!
# Which snapshots can be read

A snapshot is written of whatever the plane holds and read under the bounds of the decoders.  For
a plane that a load accepted and recovery changed, all bounds that concern a single record hold
anyway, but for the number of members of the replica sets, which recovery rebuilds
(`FitsUpToMembers`).  With that, a snapshot can be read exactly when it is within the bounds: a
decoder that succeeds has read back every record, and has seen how many there are
(`readable_of_decodeSnapshot`).
-/

namespace StateFabric

open OrderedMap Reader

variable {q p : ControlPlane} {offset maxCount : Nat} {scan : JournalScan} {r : ReplicaRecord}
  {parts : List Bytes} {duplicate : String} {rest bytes : Bytes} {α : Type}
  {operation : OperationRecord}

/-! ## Records within the bounds -/

section Maps

variable {κ α : Type} [Ord κ] [Std.TransOrd κ] [Std.LawfulEqOrd κ]

/-- Every record of a map has a property. -/
def AllRecords (P : α → Prop) (m : Std.ExtTreeMap κ α) : Prop :=
  ∀ ⦃k : κ⦄ ⦃r : α⦄, m[k]? = some r → P r

omit [Std.LawfulEqOrd κ] in
theorem allRecords_empty (P : α → Prop) : AllRecords P (∅ : Std.ExtTreeMap κ α) := by
  intro k r h
  simp at h

theorem AllRecords.insert [DecidableEq κ] {P : α → Prop} {m : Std.ExtTreeMap κ α}
    (h : AllRecords P m) (k : κ) {r : α} (hr : P r) : AllRecords P (m.insert k r) := by
  intro k' r' hr'
  rw [getElem?_insert_eq] at hr'
  split at hr'
  · rwa [← Option.some.inj hr']
  · exact h hr'

/-- Whatever the bytes, the records of a map that is read are within their bounds. -/
theorem ensures_map [DecidableEq κ] [Wire α] (maxCount : Nat) (declared duplicate : String)
    (key : α → κ) :
    Ensures (decodeMap maxCount declared duplicate key) (AllRecords fun r => fits r = true) := by
  refine (ensures_true _).bind fun count _ => (ensures_true _).bind fun _ _ => ?_
  intro bytes m rest h
  refine iterate_invariant (I := AllRecords fun r => fits r = true) ?_ h (allRecords_empty _)
  intro seen bytes seen' rest hround hseen
  have hentry : Ensures (decodeEntry duplicate key seen) (AllRecords fun r => fits r = true) :=
    Wire.bounded.bind fun r hr => (ensures_true _).bind fun _ _ =>
      ensures_pure (hseen.insert _ hr)
  exact hentry bytes seen' rest hround

end Maps

namespace ControlPlane

/-- The records of a plane are within the bounds of their decoders, whatever the number of members
of its replica sets. -/
structure FitsUpToMembers (p : ControlPlane) : Prop where
  states : AllRecords (fun r => fits r = true) p.states
  clusters : AllRecords (fun r => fits r = true) p.clusters
  replicas : AllRecords (fun r => fits r = true) p.replicas
  operations : AllRecords (fun r => fits r = true) p.operations
  authorizations : AllRecords (fun r => fits r = true) p.authorizations
  ownership : AllRecords (fun r => fits r = true) p.ownership
  compatibilityRecords : AllRecords (fun r => fits r = true) p.compatibilityRecords
  placementPolicies : AllRecords (fun r => fits r = true) p.placementPolicies
  replicationPolicies : AllRecords (fun r => fits r = true) p.replicationPolicies

variable {p : ControlPlane}

theorem fitsUpToMembers_empty : ({} : ControlPlane).FitsUpToMembers := by
  constructor <;> exact allRecords_empty _

/-- Whatever the bytes, the records of a plane that is read are within their bounds. -/
theorem ensures_decode : Ensures decode FitsUpToMembers := by
  unfold decode
  refine (ensures_true _).bind fun _ _ => (ensures_true _).bind fun _ _ =>
    (ensures_true _).bind fun _ _ => (ensures_true _).bind fun _ _ =>
    (ensures_true _).bind fun _ _ => (ensures_true _).bind fun _ _ =>
    (ensures_map _ _ _ _).bind fun _ hstates => (ensures_map _ _ _ _).bind fun _ hclusters =>
    (ensures_map _ _ _ _).bind fun _ hreplicas => (ensures_true _).bind fun _ _ =>
    (ensures_map _ _ _ _).bind fun _ hoperations =>
    (ensures_map _ _ _ _).bind fun _ hauthorizations =>
    (ensures_map _ _ _ _).bind fun _ hownership =>
    (ensures_map _ _ _ _).bind fun _ hcompatibility =>
    (ensures_map _ _ _ _).bind fun _ hplacement =>
    (ensures_map _ _ _ _).bind fun _ hreplication => ?_
  exact ensures_pure ⟨hstates, hclusters, hreplicas, hoperations, hauthorizations, hownership,
    hcompatibility, hplacement, hreplication⟩

theorem FitsUpToMembers.apply (h : p.FitsUpToMembers) {e : Effect} (he : e.fits = true) :
    (p.apply e).FitsUpToMembers := by
  cases e with
  | putState => exact { h with states := h.states.insert _ he }
  | putCluster => exact { h with clusters := h.clusters.insert _ he }
  | putReplica => exact { h with replicas := h.replicas.insert _ he }
  | putOperation => exact { h with operations := h.operations.insert _ he }
  | putAuthorization => exact { h with authorizations := h.authorizations.insert _ he }
  | putOwnership => exact { h with ownership := h.ownership.insert _ he }
  | putCompatibility =>
    exact { h with compatibilityRecords := h.compatibilityRecords.insert _ he }
  | putPlacementPolicy => exact { h with placementPolicies := h.placementPolicies.insert _ he }
  | putReplicationPolicy =>
    exact { h with replicationPolicies := h.replicationPolicies.insert _ he }
  | putReplicaSet | putCounters | setNextId => exact { h with }
  | setEpoch =>
    simp only [ControlPlane.apply]
    split <;> exact { h with }

theorem FitsUpToMembers.applyAll (h : p.FitsUpToMembers) {es : List Effect}
    (hes : ∀ e ∈ es, e.fits = true) : (p.applyAll es).FitsUpToMembers := by
  induction es generalizing p with
  | nil => exact h
  | cons e rest ih =>
    exact ih (h.apply (hes e List.mem_cons_self)) fun e he => hes e (List.mem_cons_of_mem _ he)

theorem FitsUpToMembers.of_maps (h : p.FitsUpToMembers) (eq : q.maps = p.maps) :
    q.FitsUpToMembers := by
  have hmaps : p.maps.FitsUpToMembers := { h with }
  rw [← eq] at hmaps
  exact { hmaps with }

theorem fitsUpToMembers_of_decodeSnapshot (h : decodeSnapshot bytes = .ok p) :
    p.FitsUpToMembers := by
  simp only [decodeSnapshot] at h
  split at h
  · cases h
  · simp only [↓rejectIf_bind_eq_ok] at h
    obtain ⟨-, -, -, -, -, -, -, h⟩ := h
    split at h
    · cases h
    · rename_i plane rest hdecoded
      simp only [rejectIf_bind_eq_ok, pure_eq_ok] at h
      obtain ⟨-, rfl⟩ := h
      have hfits := ensures_decode _ plane rest hdecoded
      exact hfits.of_maps rfl

end ControlPlane

theorem readFrame_fits {length : Nat} {record : JournalRecord}
    (h : readFrame offset bytes = .ok (some (record, length, rest))) : record.fits = true := by
  unfold readFrame at h
  split at h
  · cases h
  · split_ifs at h
    · cases h
    · split at h
      · cases h
      · rename_i decoded hdecoded
        obtain ⟨rfl, -⟩ := Prod.mk.inj (Option.some.inj (Except.ok.inj h))
        exact JournalRecord.bounded _ decoded [] (run_of_readAll hdecoded)

theorem scanFrames_fits {rounds : Nat} (h : scanFrames rounds offset bytes = .ok scan) :
    ∀ r ∈ scan.records, r.fits = true := by
  induction rounds generalizing offset bytes scan with
  | zero =>
    obtain rfl := Except.ok.inj h
    simp
  | succ rounds ih =>
    unfold scanFrames at h
    split at h
    · obtain rfl := Except.ok.inj h
      simp
    · split at h
      · cases h
      · obtain rfl := Except.ok.inj h
        simp
      · rename_i record length rest hframe
        cases hrest : scanFrames rounds (offset + recordHeaderBytes + length) rest with
        | error => simp [hrest, Except.map] at h
        | ok =>
          rw [hrest] at h
          obtain rfl := Except.ok.inj h
          intro r hr
          rcases List.mem_cons.mp hr with rfl | hr
          · exact readFrame_fits hframe
          · exact ih hrest r hr

theorem scanJournal_fits (h : scanJournal bytes = .ok scan) :
    ∀ e ∈ scan.effects, e.fits = true := by
  have hrecords : ∀ r ∈ scan.records, r.fits = true := by
    unfold scanJournal at h
    split at h
    · obtain rfl := Except.ok.inj h
      simp
    · split at h
      · cases h
      · split_ifs at h
        exact scanFrames_fits h
  intro e he
  obtain ⟨r, hr, he⟩ := List.mem_flatMap.mp he
  have hfits := hrecords r hr
  rw [JournalRecord.fits, Bool.and_eq_true, List.all_eq_true] at hfits
  exact hfits.2 e he

theorem Files.load_fits {files : Files} {maximumRecords : Nat}
    (h : files.load maximumRecords = .ok p) : p.FitsUpToMembers := by
  obtain ⟨snapshot, scan, hsnapshot, hscan, heffects, hrecords, -, -⟩ := load_sources h
  have hbase : (snapshot.getD {}).FitsUpToMembers := by
    rcases readWhenPresent_cases hsnapshot with ⟨-, rfl⟩ | ⟨bytes, plane, -, hdecoded, rfl⟩
    · exact ControlPlane.fitsUpToMembers_empty
    · exact ControlPlane.fitsUpToMembers_of_decodeSnapshot hdecoded
  have hjournal : ∀ e ∈ files.journalEffects, e.fits = true := by
    rw [heffects]
    rcases readWhenPresent_cases hscan with ⟨-, rfl⟩ | ⟨bytes, found, -, hscanned, rfl⟩
    · simp
    · exact scanJournal_fits hscanned
  exact (hbase.applyAll hjournal).of_maps (ControlPlane.maps_eq_of_records hrecords)

/-! ## Recovery -/

/-- The fields of a cluster that have bounds. -/
theorem ClusterRecord.fits_eq (c : ClusterRecord) :
    fits c = (fits c.location && fits c.capabilities && fits c.capacity) := by
  have hevidence : fits c.evidence = true := rfl
  rw [fits, Wire.codec, instWireClusterRecord]
  simp [Layout.record, hevidence]

theorem recoveredCluster_fits {cluster : ClusterRecord} (h : fits cluster = true) :
    fits (recoveredCluster cluster) = true := by
  rw [ClusterRecord.fits_eq] at h ⊢
  exact h

/-- The fields of a replica that have bounds. -/
theorem ReplicaRecord.fits_eq (r : ReplicaRecord) :
    fits r = (fits r.location && fits r.compatibilityDescriptor && fits r.provenance
      && ByteReader.textFits maxFailureReasonLength r.lastError) := by
  have hdigests : fits r.contentDigest = true ∧ fits r.measuredDigest = true := ⟨rfl, rfl⟩
  have hsizes : fits r.logicalSize = true ∧ fits r.transferredBytes = true := ⟨rfl, rfl⟩
  have hevidence : fits r.evidence = true := rfl
  rw [fits, Wire.codec, instWireReplicaRecord]
  simp [Layout.record, hdigests, hsizes, hevidence]

/-- The fields of an operation that have bounds. -/
theorem OperationRecord.fits_eq (o : OperationRecord) :
    fits o = (ByteReader.textFits maxFailureReasonLength o.reason
      && ByteReader.textFits maxFailureReasonLength o.lastError
      && listFits maxDecodedJournalEntries (ByteReader.textFits maxPolicyStringLength)
        o.journal) := by
  have hdigests : fits o.expectedDigest = true ∧ fits o.measuredDigest = true := ⟨rfl, rfl⟩
  have hsizes : fits o.transferBytes = true ∧ fits o.transferredBytes = true := ⟨rfl, rfl⟩
  rw [fits, Wire.codec, instWireOperationRecord]
  simp [Layout.record, hdigests, hsizes]

/-- A replica stays within the bounds when what is bounded in it does. -/
theorem ReplicaRecord.fits_of_same {r' : ReplicaRecord} (h : fits r = true)
    (location : r'.location = r.location)
    (descriptor : r'.compatibilityDescriptor = r.compatibilityDescriptor)
    (provenance : r'.provenance = r.provenance)
    (short : ByteReader.textFits maxFailureReasonLength r'.lastError = true) :
    fits r' = true := by
  rw [fits_eq, Bool.and_eq_true] at h ⊢
  rw [location, descriptor, provenance]
  exact ⟨h.1, short⟩

theorem ReplicaRecord.lastError_fits (h : fits r = true) :
    ByteReader.textFits maxFailureReasonLength r.lastError = true := by
  rw [fits_eq, Bool.and_eq_true] at h
  exact h.2

theorem recoveredReplica_fits (h : fits r = true) : fits (recoveredReplica r) = true := by
  have herror : (recoveredReplica r).lastError = r.lastError := by
    unfold recoveredReplica
    split <;> rfl
  refine ReplicaRecord.fits_of_same h ?_ ?_ ?_ (herror ▸ ReplicaRecord.lastError_fits h)
  all_goals
    unfold recoveredReplica
    split <;> rfl

theorem settledCopy_fits (h : fits r = true) (abandoned suspended : Bool) :
    fits (settledCopy abandoned suspended r) = true := by
  have habandoned : ByteReader.textFits maxFailureReasonLength
      (text "abandoned during coordinator recovery") = true := by decide +kernel
  have hquarantined : ByteReader.textFits maxFailureReasonLength
      (text "quarantined during coordinator recovery") = true := by decide +kernel
  unfold settledCopy
  split_ifs
  · exact h
  · exact ReplicaRecord.fits_of_same h rfl rfl rfl habandoned
  · exact ReplicaRecord.fits_of_same h rfl rfl rfl hquarantined
  · exact h

/-- An operation stays within the bounds when what is bounded in it does. -/
theorem OperationRecord.fits_of_same {operation' : OperationRecord} (h : fits operation = true)
    (reason : operation'.reason = operation.reason)
    (error : operation'.lastError = operation.lastError)
    (journal : operation'.journal = operation.journal) : fits operation' = true := by
  rw [fits_eq] at h ⊢
  rw [reason, error, journal]
  exact h

/-- A line that is short enough leaves the journal of an operation within the bounds. -/
theorem OperationRecord.note_fits {line : Text} (h : fits operation = true)
    (short : ByteReader.textFits maxPolicyStringLength line = true) :
    fits (operation.note line) = true := by
  unfold OperationRecord.note
  split
  · rename_i hroom
    simp only [fits_eq, listFits, Bool.and_eq_true, decide_eq_true_eq, List.length_append,
      List.all_append, List.all_cons, List.all_nil, Bool.and_true, List.length_singleton] at h ⊢
    obtain ⟨hrest, -, hlines⟩ := h
    have hbound : maxOperationJournalEntries = 512 := rfl
    refine ⟨hrest, ?_, hlines, short⟩
    rw [maxDecodedJournalEntries]
    omega
  · exact h

theorem recoveredOperation_fits (h : fits operation = true) (epoch : CoordinatorEpoch)
    (tick : Tick) : fits (recoveredOperation operation epoch tick) = true := by
  have hshort : ∀ state, ByteReader.textFits maxPolicyStringLength
      (text "recovery: " ++ (classifyRecovery state).reason) = true := by
    intro state
    cases state <;> decide +kernel
  refine OperationRecord.fits_of_same (OperationRecord.note_fits h (hshort operation.state)) ?_ ?_ ?_
  all_goals
    by_cases hroom : operation.journal.length < maxOperationJournalEntries <;>
      simp [recoveredOperation, OperationRecord.note, hroom]

theorem restartedOperation_fits (h : fits operation = true) (epoch : CoordinatorEpoch)
    (tick : Tick) : fits (restartedOperation operation epoch tick) = true := by
  unfold restartedOperation
  split
  · exact h
  · exact recoveredOperation_fits h epoch tick

/-- Recovery leaves the records within the bounds, whatever the number of members. -/
theorem ControlPlane.FitsUpToMembers.recover (h : p.FitsUpToMembers) (coherent : Coherent p) :
    p.recover.FitsUpToMembers := by
  obtain ⟨hcompatibility, hplacement, hreplication⟩ := p.recover_policies
  exact
    { states := by
        rw [recover_states]
        exact h.states
      clusters := by
        intro c cluster hc
        rw [getElem?_recover_clusters] at hc
        obtain ⟨old, hold, rfl⟩ := Option.map_eq_some_iff.mp hc
        exact recoveredCluster_fits (h.clusters hold)
      replicas := by
        intro k r hr
        rw [getElem?_recover_replicas] at hr
        obtain ⟨old, hold, rfl⟩ := Option.map_eq_some_iff.mp hr
        exact settledCopy_fits (recoveredReplica_fits (h.replicas hold)) _ _
      operations := by
        intro o operation ho
        obtain ⟨tick, htick⟩ := coherent.getElem?_recover_operations o
        rw [htick] at ho
        obtain ⟨old, hold, rfl⟩ := Option.map_eq_some_iff.mp ho
        exact restartedOperation_fits (h.operations hold) _ _
      authorizations := by
        rw [recover_authorizations]
        exact h.authorizations
      ownership := by
        rw [recover_ownership]
        exact h.ownership
      compatibilityRecords := by
        rw [hcompatibility]
        exact h.compatibilityRecords
      placementPolicies := by
        rw [hplacement]
        exact h.placementPolicies
      replicationPolicies := by
        rw [hreplication]
        exact h.replicationPolicies }

/-! ## Decoders that succeed -/

/-- A value within the bounds is strict. -/
theorem Wire.strictAt [Wire α] {value : α} (h : fits value = true) :
    (Wire.codec : ByteCodec α).StrictAt value :=
  .of_fits h

/-- Something is written of a record that begins with an identity. -/
theorem Wire.length_pos [Wire α] {l : Layout UInt8 Error α α} [head : l.Headed]
    {made : ∀ r, l.make (l.take r) = r} {taken : ∀ f, l.take (l.make f) = f}
    (layout : (Wire.codec : ByteCodec α) = l.record made taken) (r : α) :
    0 < (encode r).length := by
  rw [encode, layout]
  exact head.pos r

theorem length_le_flatten {part : Bytes} (h : part ∈ parts) :
    part.length ≤ parts.flatten.length := by
  rw [List.length_flatten]
  exact List.le_sum_of_mem (List.mem_map_of_mem h)

theorem length_le_flatMap {write : α → Bytes} (pos : ∀ a, 0 < (write a).length) (values : List α) :
    values.length ≤ (values.flatMap write).length := by
  induction values with
  | nil => exact Nat.le_refl 0
  | cons a =>
    have ha := pos a
    rw [List.flatMap_cons, List.length_append, List.length_cons]
    omega

theorem length_le_encodeVector {write : α → Bytes} (pos : ∀ a, 0 < (write a).length)
    (values : List α) : values.length ≤ (encodeVector write values).length := by
  have hvalues := length_le_flatMap pos values
  rw [encodeVector, List.length_append]
  omega

theorem ReplicaSetRecord.length_members_le (s : ReplicaSetRecord) :
    s.authoritativeMembers.length ≤ (encode s).length
      ∧ s.degradedMembers.length ≤ (encode s).length := by
  have hmember : ∀ m : ReplicaSetMember, 0 < (encode m).length := Wire.length_pos rfl
  have hmembers : ∀ (name : String) (members : List ReplicaSetMember), members.length
      ≤ ((ByteCodec.vector maxDecodedMembers name ByteCodec.nested).encode members).length :=
    fun _ => length_le_encodeVector hmember
  have hfirst := hmembers "authoritative members" s.authoritativeMembers
  have hsecond := hmembers "degraded members" s.degradedMembers
  rw [encode, Wire.codec, instWireReplicaSetRecord]
  simp only [Layout.record, Layout.encode_field, List.length_append]
  omega

/-- The fields of a replica set that have bounds. -/
theorem ReplicaSetRecord.fits_eq (s : ReplicaSetRecord) :
    fits s = (listFits maxDecodedMembers fits s.authoritativeMembers
      && listFits maxDecodedMembers fits s.degradedMembers) := by
  have hrequirements : fits s.requirements = true := rfl
  rw [fits, Wire.codec, instWireReplicaSetRecord]
  simp only [Layout.record, Layout.fits_field, Layout.fits_start, ByteCodec.fits_ident,
    ByteCodec.fits_enumerated, ByteCodec.fits_nested, hrequirements, ByteCodec.fits_vector,
    ByteCodec.fits_u32, ByteCodec.fits_u64, ByteCodec.fits_boolean, Bool.and_true, Bool.true_and]
  rfl

/-- A replica set whose decoding succeeds is within the bounds: the numbers of its members are
checked. -/
theorem ReplicaSetRecord.strictAt (s : ReplicaSetRecord)
    (small : (encode s).length ≤ maxPayloadBytes) :
    (Wire.codec : ByteCodec ReplicaSetRecord).StrictAt s := by
  have hmax : maxPayloadBytes ≤ 4294967295 := by decide
  obtain ⟨hauthoritative, hdegraded⟩ := s.length_members_le
  have hvector : ∀ (name : String) (members : List ReplicaSetMember),
      members.length ≤ (encode s).length →
      (ByteCodec.vector maxDecodedMembers name ByteCodec.nested).StrictAt members :=
    fun name members hmembers => ByteCodec.strictAt_counted (by omega) fun _ _ => rfl
  have hfits {α : Type} {c : ByteCodec α} {a : α} (h : c.fits a = true) : c.StrictAt a :=
    .of_fits h
  refine Layout.strictAt_record ?_
  refine .pair (.pair (.pair (.pair (.pair (.pair (.pair (.pair (.pair (.pair (.pair (.pair (.pair
    (.pair (hfits rfl) (hvector _ _ hauthoritative)) (hvector _ _ hdegraded)) ?_) ?_) ?_) ?_) ?_)
    ?_) ?_) ?_) ?_) ?_) ?_) ?_
  all_goals exact hfits rfl

section Maps

variable {κ α γ : Type} [Ord κ] [Std.TransOrd κ] [Std.LawfulEqOrd κ] [DecidableEq κ] [Wire α]
  {m : Std.ExtTreeMap κ α}

omit [Std.LawfulEqOrd κ] [DecidableEq κ] in
theorem size_le_encodeMap (pos : ∀ r : α, 0 < (encode r).length) :
    m.size ≤ (encodeMap m).length := by
  have hentries : m.toList.length ≤ (m.toList.flatMap fun entry => encode entry.2).length :=
    length_le_flatMap (fun entry => pos entry.2) m.toList
  rw [Std.ExtTreeMap.length_toList] at hentries
  exact hentries.trans (length_le_flatten (by simp))

omit [DecidableEq κ] in
theorem length_le_encodeMap {k : κ} {r : α} (h : m[k]? = some r) :
    (encode r).length ≤ (encodeMap m).length := by
  have hentry : encode r ∈ m.toList.map fun entry => encode entry.2 :=
    List.mem_map.mpr ⟨(k, r), mem_toList_iff.mpr h, rfl⟩
  have hall : (encode r).length ≤ (m.toList.flatMap fun entry => encode entry.2).length := by
    rw [List.flatMap_def]
    exact length_le_flatten hentry
  exact hall.trans (length_le_flatten (by simp))

omit [Std.LawfulEqOrd κ] [DecidableEq κ] in
theorem fits_of_run_entry {key : α → κ} {r : α} (strict : Wire.codec.StrictAt r)
    {seen seen' : Std.ExtTreeMap κ α} {rest' : Bytes}
    (h : (decodeEntry duplicate key seen).run (encode r ++ rest) = .ok (seen', rest')) :
    fits r = true ∧ rest' = rest := by
  obtain ⟨found, middle, hread, hentry⟩ := run_bind_eq_ok.mp h
  have hfits := strict rest _ hread
  obtain ⟨rfl, rfl⟩ :=
    Prod.mk.inj (Except.ok.inj (hread.symm.trans (Wire.reads hfits rest)))
  have hnew : seen[key found]?.isNone = true := by
    obtain ⟨_, _, hguard, -⟩ := run_bind_eq_ok.mp hentry
    exact ensures_guard _ _ _ _ _ hguard
  rw [run_guard_bind hnew] at hentry
  exact ⟨hfits, (Prod.mk.inj (Except.ok.inj hentry)).2.symm⟩

/-- A map whose decoding succeeds is within the bounds, and the decoder goes on with what follows
it. -/
theorem mapBounded_of_run {declared : String} {key : α → κ}
    (written : (encodeMap m).length ≤ maxPayloadBytes) (pos : ∀ r : α, 0 < (encode r).length)
    (keyed : KeyedBy key m) (strict : ∀ (k : κ) (r : α), m[k]? = some r → Wire.codec.StrictAt r)
    {f : Std.ExtTreeMap κ α → ByteReader γ} {x : γ × Bytes}
    (h : (decodeMap maxCount declared duplicate key >>= f).run
      ((encodeMap m :: parts).flatten ++ rest) = .ok x) :
    mapBounded maxCount m = true ∧ (f m).run (parts.flatten ++ rest) = .ok x := by
  have small : m.size ≤ 4294967295 :=
    ((size_le_encodeMap pos).trans written).trans (by decide)
  have hsize : (UInt32.ofNat m.size).toNat = m.size :=
    UInt32.toNat_ofNat_of_lt' (Nat.lt_of_le_of_lt small (by decide))
  have hbounded : mapBounded maxCount m = true := by
    obtain ⟨found, middle, hmap, -⟩ := run_bind_eq_ok.mp h
    have hwritten : (encodeMap m :: parts).flatten ++ rest = ByteWriter.u32 (UInt32.ofNat m.size)
        ++ ((m.toList.flatMap fun entry => encode entry.2) ++ (parts.flatten ++ rest)) := by
      simp [encodeMap]
    rw [hwritten] at hmap
    obtain ⟨count, _, hcount, hmap⟩ := run_bind_eq_ok.mp hmap
    obtain ⟨rfl, rfl⟩ :=
      Prod.mk.inj (Except.ok.inj (hcount.symm.trans (ByteReader.reads_u32 _ _)))
    have hcounted : decide ((UInt32.ofNat m.size).toNat ≤ maxCount) = true := by
      obtain ⟨_, _, hguard, -⟩ := run_bind_eq_ok.mp hmap
      exact ensures_guard _ _ _ _ _ hguard
    rw [run_guard_bind hcounted, hsize, ← Std.ExtTreeMap.length_toList] at hmap
    have hentries : ∀ entry ∈ m.toList, fits entry.2 = true := by
      refine forall_of_run_iterate ?_ hmap
      rintro seen ⟨k, r⟩ hentry rest' seen' rest'' hround
      exact fits_of_run_entry (strict k r (mem_toList_iff.mp hentry)) hround
    rw [mapBounded, Bool.and_eq_true, decide_eq_true_eq, List.all_eq_true]
    rw [decide_eq_true_eq, hsize] at hcounted
    exact ⟨Nat.le_min.mpr ⟨hcounted, small⟩, hentries⟩
  refine ⟨hbounded, ?_⟩
  rwa [run_map declared duplicate (mapFits_of_keyed hbounded keyed)] at h

/-- The same when the records are known to be within their bounds. -/
theorem mapBounded_of_fits {declared : String} {key : α → κ} {whole : Bytes}
    (small : whole.length ≤ maxPayloadBytes) (part : (encodeMap m).length ≤ whole.length)
    (keyed : KeyedBy key m) (fit : AllRecords (fun r => fits r = true) m)
    (pos : ∀ r : α, 0 < (encode r).length)
    {f : Std.ExtTreeMap κ α → ByteReader γ} {x : γ × Bytes}
    (h : (decodeMap maxCount declared duplicate key >>= f).run
      ((encodeMap m :: parts).flatten ++ rest) = .ok x) :
    mapBounded maxCount m = true ∧ (f m).run (parts.flatten ++ rest) = .ok x :=
  mapBounded_of_run (part.trans small) pos keyed (fun _ _ hr => Wire.strictAt (fit hr)) h

end Maps

namespace ControlPlane

variable {p : ControlPlane}

/-- A plane of records within the bounds whose decoding succeeds is within the bounds. -/
theorem withinBounds_of_run (fits : p.FitsUpToMembers) (coherent : Coherent p) (keyed : p.Keyed)
    (small : p.encode.length ≤ maxPayloadBytes) {x : ControlPlane × Bytes}
    (h : decode.run p.encode = .ok x) : p.withinBounds = true := by
  rw [← List.append_nil p.encode] at h
  simp only [encode, decode] at h
  simp only [↓run_id, ↓run_u64, ↓run_wire _ _ (fits_counters _)] at h
  have hfiled := coherent.filed
  obtain ⟨hstates, h⟩ := mapBounded_of_fits (m := p.states) small (length_le_flatten (by simp))
    hfiled.states fits.states (Wire.length_pos rfl) h
  obtain ⟨hclusters, h⟩ := mapBounded_of_fits (m := p.clusters) small (length_le_flatten (by simp))
    hfiled.clusters fits.clusters (Wire.length_pos rfl) h
  obtain ⟨hreplicas, h⟩ := mapBounded_of_fits (m := p.replicas) small (length_le_flatten (by simp))
    hfiled.replicas fits.replicas (Wire.length_pos rfl) h
  have hpart : (encodeMap p.replicaSets).length ≤ maxPayloadBytes :=
    (length_le_flatten (by simp) : _ ≤ p.encode.length).trans small
  obtain ⟨hsets, h⟩ := mapBounded_of_run hpart (Wire.length_pos rfl) hfiled.replicaSets
    (fun _ s hs => s.strictAt ((length_le_encodeMap hs).trans hpart)) h
  obtain ⟨hoperations, h⟩ := mapBounded_of_fits (m := p.operations) small (length_le_flatten (by simp))
    hfiled.operations fits.operations (Wire.length_pos rfl) h
  obtain ⟨hauthorizations, h⟩ := mapBounded_of_fits (m := p.authorizations) small (length_le_flatten (by simp))
    keyed.authorizations fits.authorizations (Wire.length_pos rfl) h
  obtain ⟨hownership, h⟩ := mapBounded_of_fits (m := p.ownership) small (length_le_flatten (by simp))
    hfiled.ownership fits.ownership (Wire.length_pos rfl) h
  obtain ⟨hcompatibility, h⟩ := mapBounded_of_fits (m := p.compatibilityRecords) small (length_le_flatten (by simp))
    keyed.compatibilityRecords fits.compatibilityRecords (Wire.length_pos rfl) h
  obtain ⟨hplacement, h⟩ := mapBounded_of_fits (m := p.placementPolicies) small (length_le_flatten (by simp))
    keyed.placementPolicies fits.placementPolicies (Wire.length_pos rfl) h
  obtain ⟨hreplication, -⟩ := mapBounded_of_fits (m := p.replicationPolicies) small (length_le_flatten (by simp))
    keyed.replicationPolicies fits.replicationPolicies (Wire.length_pos rfl) h
  simp only [withinBounds, hstates, hclusters, hreplicas, hsets, hoperations, hauthorizations,
    hownership, hcompatibility, hplacement, hreplication, Bool.and_self]

/-- A snapshot of records within the bounds that can be read is within the bounds as a whole. -/
theorem readable_of_decodeSnapshot (fits : p.FitsUpToMembers) (coherent : Coherent p)
    (keyed : p.Keyed) (h : decodeSnapshot (encodeSnapshot p) = .ok q) : p.readable = true := by
  have hread : SnapshotHeader.read.run (encodeSnapshot p) = .ok (snapshotHeaderOf p, p.encode) :=
    SnapshotHeader.read_run (snapshotHeaderOf p) p.encode
  simp only [decodeSnapshot, hread, ↓rejectIf_bind_eq_ok] at h
  obtain ⟨-, -, -, -, hsize, hbound, -, h⟩ := h
  have hlength : (snapshotHeaderOf p).payloadLength.toNat = p.encode.length := by
    rw [length_encodeSnapshot] at hsize
    simpa using hsize
  have hsmall : p.encode.length ≤ maxPayloadBytes := by
    rw [hlength] at hbound
    exact Nat.le_of_not_lt (of_decide_eq_false hbound)
  cases hdecoded : decode.run p.encode with
  | error => simp [hdecoded, throw, throwThe, MonadExceptOf.throw] at h
  | ok =>
    have hbounds := withinBounds_of_run fits coherent keyed hsmall hdecoded
    rw [readable, hbounds, Bool.true_and]
    exact decide_eq_true hsmall

end ControlPlane

/-! ## Opening again -/

namespace Server

variable {config : FabricConfig} {files : Files} {s s' : Server}

/-- A coordinator opens over the snapshot of a recovered plane only when the snapshot is within
the bounds. -/
theorem readable_of_initialize_again (opened : initializeServer config files = .ok s)
    {journal : Option Bytes} (again : initializeServer config
      { snapshot := some (encodeSnapshot s.plane), journal := journal } = .ok s') :
    s.plane.readable = true := by
  obtain ⟨-, loaded, hload, -, rfl⟩ := initializeServer_iff.mp opened
  obtain ⟨-, loaded', hload', -, rfl⟩ := initializeServer_iff.mp again
  obtain ⟨hcoherent, hkeyed⟩ := Files.load_coherent hload
  have hcoherent : Coherent (loaded.configure config) := hcoherent.configure config
  have hkeyed : (loaded.configure config).Keyed := hkeyed.configure config
  have hfits : (loaded.configure config).FitsUpToMembers := (Files.load_fits hload).of_maps rfl
  obtain ⟨snapshot, -, hsnapshot, -⟩ := Files.load_sources hload'
  rcases Files.readWhenPresent_cases hsnapshot with ⟨hnone, -⟩ | ⟨bytes, plane, hfile, hdecoded, -⟩
  · cases hnone
  · obtain rfl := Option.some.inj hfile
    exact ControlPlane.readable_of_decodeSnapshot (hfits.recover hcoherent) hcoherent.recover
      hkeyed.recover hdecoded

end Server

end StateFabric
