import Mathlib

/-!
# Batches of puts on ordered maps

A store that changes only by whole-record puts is described by the list of its puts:
`insertAll` applies a batch, `lastPut` says what the batch leaves under a key, and
`getElem?_insertAll` ties the two together.  Applying a batch twice changes nothing
(`insertAll_insertAll`), which is why such a log may be replayed over a store that already
contains it.
-/

namespace OrderedMap

variable {κ α β : Type}

/-- A lookup has one answer. -/
theorem some_unique {o : Option α} {a b : α} (ha : o = some a) (hb : o = some b) : a = b :=
  Option.some.inj (ha.symm.trans hb)

section Puts

variable [DecidableEq κ]

/-- The last value a list of puts leaves under a key. -/
def lastPut (entries : List (κ × α)) (k : κ) : Option α :=
  match entries with
  | [] => none
  | e :: rest => (lastPut rest k).or (if e.1 = k then some e.2 else none)

@[simp] theorem lastPut_nil (k : κ) : lastPut ([] : List (κ × α)) k = none := rfl

@[simp] theorem lastPut_cons (e : κ × α) (rest : List (κ × α)) (k : κ) :
    lastPut (e :: rest) k = (lastPut rest k).or (if e.1 = k then some e.2 else none) := rfl

@[simp] theorem lastPut_append (l₁ l₂ : List (κ × α)) (k : κ) :
    lastPut (l₁ ++ l₂) k = (lastPut l₂ k).or (lastPut l₁ k) := by
  induction l₁ with
  | nil => simp
  | cons e rest ih => simp [ih, Option.or_assoc]

theorem mem_of_lastPut {l : List (κ × α)} {k : κ} {v : α} (h : lastPut l k = some v) :
    (k, v) ∈ l := by
  induction l with
  | nil => simp at h
  | cons e rest ih =>
    rw [lastPut_cons] at h
    cases hr : lastPut rest k with
    | some =>
      rw [hr, Option.some_or] at h
      exact List.mem_cons_of_mem _ (ih (hr.trans h))
    | none =>
      rw [hr, Option.none_or] at h
      split at h
      · rename_i he
        rw [← he, ← Option.some.inj h]
        exact List.mem_cons_self
      · exact absurd h (by simp)

theorem lastPut_eq_none {l : List (κ × α)} {k : κ} :
    lastPut l k = none ↔ ∀ e ∈ l, e.1 ≠ k := by
  induction l with
  | nil => simp
  | cons e rest ih => simp [ih, and_comm]

theorem isSome_lastPut (l : List (κ × α)) (k : κ) :
    (lastPut l k).isSome = l.any fun e => decide (e.1 = k) := by
  induction l with
  | nil => rfl
  | cons e rest ih =>
    rw [lastPut_cons, Option.isSome_or, ih, List.any_cons, Bool.or_comm]
    congr 1
    split
    · rename_i he
      simp [he]
    · rename_i he
      simp [he]

/-- With distinct keys every put survives. -/
theorem lastPut_of_mem {l : List (κ × α)} (nodup : (l.map Prod.fst).Nodup) {k : κ} {v : α}
    (h : (k, v) ∈ l) : lastPut l k = some v := by
  induction l with
  | nil => simp at h
  | cons e rest ih =>
    rw [List.map_cons, List.nodup_cons] at nodup
    rcases List.mem_cons.mp h with rfl | hmem
    · have hnone : lastPut rest k = none := by
        rw [lastPut_eq_none]
        intro e' he' heq
        exact nodup.1 (List.mem_map.mpr ⟨e', he', heq⟩)
      simp [hnone]
    · rw [lastPut_cons, ih nodup.2 hmem, Option.some_or]

end Puts

section Batches

variable [Ord κ] [Std.TransOrd κ]

/-- Puts every entry of a list, in order. -/
def insertAll (m : Std.ExtTreeMap κ α) (entries : List (κ × α)) : Std.ExtTreeMap κ α :=
  entries.foldl (fun m e => m.insert e.1 e.2) m

@[simp] theorem insertAll_nil (m : Std.ExtTreeMap κ α) : insertAll m [] = m := rfl

@[simp] theorem insertAll_cons (m : Std.ExtTreeMap κ α) (e : κ × α) (rest : List (κ × α)) :
    insertAll m (e :: rest) = insertAll (m.insert e.1 e.2) rest := rfl

/-- A batch adds at most one entry per put. -/
theorem size_insertAll_le (m : Std.ExtTreeMap κ α) (l : List (κ × α)) :
    (insertAll m l).size ≤ m.size + l.length := by
  induction l generalizing m with
  | nil => exact Nat.le_refl _
  | cons e rest ih =>
    have hrest := ih (m.insert e.1 e.2)
    have hinsert : (m.insert e.1 e.2).size ≤ m.size + 1 := Std.ExtTreeMap.size_insert_le
    rw [insertAll_cons, List.length_cons]
    omega

theorem insertAll_append (m : Std.ExtTreeMap κ α) (l₁ l₂ : List (κ × α)) :
    insertAll m (l₁ ++ l₂) = insertAll (insertAll m l₁) l₂ := List.foldl_append

end Batches

section Entries

variable [Ord κ] [Std.TransOrd κ] [Std.LawfulEqOrd κ]

theorem nodup_keys_toList (m : Std.ExtTreeMap κ α) : (m.toList.map Prod.fst).Nodup := by
  have h := Std.ExtTreeMap.distinct_keys_toList (t := m)
  rw [List.Nodup, List.pairwise_map]
  refine h.imp ?_
  intro a b hne heq
  exact hne (by rw [heq]; exact Std.ReflCmp.compare_self)

theorem mem_toList_iff {m : Std.ExtTreeMap κ α} {k : κ} {v : α} :
    (k, v) ∈ m.toList ↔ m[k]? = some v :=
  Std.ExtTreeMap.mem_toList_iff_getElem?_eq_some

theorem mem_keys_toList {m : Std.ExtTreeMap κ α} {k : κ} :
    k ∈ m.toList.map Prod.fst ↔ m[k]?.isSome := by
  simp only [List.mem_map, Prod.exists, mem_toList_iff, Option.isSome_iff_exists]
  exact ⟨fun ⟨_, v, hv, hk⟩ => ⟨v, hk ▸ hv⟩, fun ⟨v, hv⟩ => ⟨k, v, hv, rfl⟩⟩

/-- A map has as many entries as a list of its keys. -/
theorem size_eq_length {m : Std.ExtTreeMap κ α} {keys : List κ} (nodup : keys.Nodup)
    (h : ∀ k : κ, m[k]?.isSome ↔ k ∈ keys) : m.size = keys.length := by
  have hkeys : (m.toList.map Prod.fst).Perm keys := by
    refine (List.perm_ext_iff_of_nodup (nodup_keys_toList m) nodup).mpr ?_
    intro k
    rw [mem_keys_toList, h k]
  have hlength := hkeys.length_eq
  rwa [List.length_map, Std.ExtTreeMap.length_toList] at hlength

/-- Maps with the same keys are equally large. -/
theorem size_eq_of_isSome {m : Std.ExtTreeMap κ α} {m' : Std.ExtTreeMap κ β}
    (h : ∀ k : κ, m[k]?.isSome = m'[k]?.isSome) : m.size = m'.size := by
  have hsize : m.size = (m'.toList.map Prod.fst).length := by
    refine size_eq_length (nodup_keys_toList m') fun k => ?_
    rw [mem_keys_toList, h k]
  rwa [List.length_map, Std.ExtTreeMap.length_toList] at hsize

end Entries

variable [Ord κ] [Std.TransOrd κ] [Std.LawfulEqOrd κ] [DecidableEq κ]

theorem getElem?_insert_eq (m : Std.ExtTreeMap κ α) (k k' : κ) (v : α) :
    (m.insert k v)[k']? = if k = k' then some v else m[k']? := by
  rw [Std.ExtTreeMap.getElem?_insert]
  simp

/-- Insertion under a new key keeps every entry. -/
theorem getElem?_insert_of_fresh {m : Std.ExtTreeMap κ α} {k k' : κ} {v w : α}
    (fresh : m[k]? = none) (h : m[k']? = some w) : (m.insert k v)[k']? = some w := by
  rw [getElem?_insert_eq, if_neg ?_]
  · exact h
  · rintro rfl
    cases fresh.symm.trans h

/-- A batch of puts leaves the last put, or what was there before. -/
theorem getElem?_insertAll (m : Std.ExtTreeMap κ α) (l : List (κ × α)) (k : κ) :
    (insertAll m l)[k]? = (lastPut l k).or m[k]? := by
  induction l generalizing m with
  | nil => simp
  | cons e rest ih =>
    rw [insertAll_cons, ih, getElem?_insert_eq, lastPut_cons, Option.or_assoc]
    congr 1
    split <;> simp

/-- Puts under distinct keys make as many entries. -/
theorem size_insertAll_of_nodup {l : List (κ × α)} (nodup : (l.map Prod.fst).Nodup) :
    (insertAll (∅ : Std.ExtTreeMap κ α) l).size = l.length := by
  have hsize : (insertAll (∅ : Std.ExtTreeMap κ α) l).size = (l.map Prod.fst).length := by
    refine size_eq_length nodup fun k => ?_
    rw [getElem?_insertAll, Std.ExtTreeMap.getElem?_empty, Option.or_none, isSome_lastPut]
    simp
  rwa [List.length_map] at hsize

/-- Puts that are all the same are one insertion. -/
theorem insertAll_eq_insert (m : Std.ExtTreeMap κ α) {l : List (κ × α)} {k : κ} {v : α}
    (h : (k, v) ∈ l) (same : ∀ e ∈ l, e = (k, v)) : insertAll m l = m.insert k v := by
  apply Std.ExtTreeMap.ext_getElem?
  intro k'
  rw [getElem?_insertAll, getElem?_insert_eq]
  by_cases hk : k = k'
  · subst hk
    cases hput : lastPut l k with
    | none => exact absurd rfl (lastPut_eq_none.mp hput _ h)
    | some =>
      obtain rfl := (Prod.mk.inj (same _ (mem_of_lastPut hput))).2
      simp
  · have hnone : lastPut l k' = none := by
      rw [lastPut_eq_none]
      intro e he hkey
      rw [same e he] at hkey
      exact hk hkey
    simp [hnone, hk]

/-- Putting the entries of a map into an empty one gives the map back. -/
theorem insertAll_toList (m : Std.ExtTreeMap κ α) : insertAll ∅ m.toList = m := by
  apply Std.ExtTreeMap.ext_getElem?
  intro k
  rw [getElem?_insertAll, Std.ExtTreeMap.getElem?_empty, Option.or_none]
  cases hk : m[k]? with
  | some => exact lastPut_of_mem (nodup_keys_toList m) (mem_toList_iff.mpr hk)
  | none =>
    rw [lastPut_eq_none]
    rintro ⟨k', v⟩ hmem rfl
    rw [mem_toList_iff.mp hmem] at hk
    cases hk

/-- Replaying a batch over a map that already contains it changes nothing. -/
theorem insertAll_insertAll (m : Std.ExtTreeMap κ α) (l : List (κ × α)) :
    insertAll (insertAll m l) l = insertAll m l := by
  apply Std.ExtTreeMap.ext_getElem?
  intro k
  rw [getElem?_insertAll, getElem?_insertAll]
  cases lastPut l k <;> simp

/-- Replaying a batch that one map contains over another takes the one map where the batch puts
something, and the other elsewhere. -/
theorem getElem?_insertAll_of_contained {m m' : Std.ExtTreeMap κ α} {l : List (κ × α)}
    (contained : insertAll m l = m) (k : κ) :
    (insertAll m' l)[k]? = if (lastPut l k).isSome then m[k]? else m'[k]? := by
  have hm : m[k]? = (lastPut l k).or m[k]? := by rw [← getElem?_insertAll, contained]
  rw [getElem?_insertAll]
  cases hput : lastPut l k with
  | none => rfl
  | some =>
    rw [hput, Option.some_or] at hm
    rw [Option.some_or, Option.isSome_some, if_pos rfl, hm]

/-- Under every key a batch leaves what was there or one of its puts. -/
theorem insertAll_cases {m : Std.ExtTreeMap κ α} {l : List (κ × α)} {k : κ} {Q : α → Prop}
    (mem : ∀ {v}, (k, v) ∈ l → Q v) :
    (insertAll m l)[k]? = m[k]? ∨ ∃ v, Q v ∧ (insertAll m l)[k]? = some v := by
  rw [getElem?_insertAll]
  cases h : lastPut l k with
  | none => exact .inl rfl
  | some v => exact .inr ⟨v, mem (mem_of_lastPut h), rfl⟩

/-- What every put under a key has, the batch leaves there. -/
theorem exists_getElem?_insertAll {P : α → Prop} {m : Std.ExtTreeMap κ α} {l : List (κ × α)}
    {k : κ} {v : α} (h : (k, v) ∈ l) (all : ∀ w, (k, w) ∈ l → P w) :
    ∃ w, (insertAll m l)[k]? = some w ∧ P w := by
  rw [getElem?_insertAll]
  cases hl : lastPut l k with
  | none => exact absurd rfl (lastPut_eq_none.mp hl _ h)
  | some w => exact ⟨w, rfl, all w (mem_of_lastPut hl)⟩

/-- A batch leaves alone what it does not put. -/
theorem getElem?_insertAll_of_not_mem {m : Std.ExtTreeMap κ α} {l : List (κ × α)} {k : κ}
    (none : ∀ v, (k, v) ∉ l) :
    (insertAll m l)[k]? = m[k]? := by
  exact (insertAll_cases (Q := fun _ => False) fun {v} => none v).resolve_right (by simp)

/-- A batch of puts of one kind over entries of that kind leaves the entries of other kinds. -/
theorem getElem?_insertAll_eq_some_iff {P : α → Prop} {m : Std.ExtTreeMap κ α}
    {l : List (κ × α)}
    (kind : ∀ k v, (k, v) ∈ l → P v ∧ ∀ old, m[k]? = some old → P old) {k : κ} {v : α}
    (other : ¬ P v) : (insertAll m l)[k]? = some v ↔ m[k]? = some v := by
  by_cases hput : ∃ w, (k, w) ∈ l
  · obtain ⟨w, hw⟩ := hput
    obtain ⟨u, hu, hPu⟩ := exists_getElem?_insertAll (m := m) hw fun w hw => (kind k w hw).1
    constructor
    · intro hv
      exact absurd (some_unique hu hv ▸ hPu) other
    · exact fun hv => absurd ((kind k w hw).2 v hv) other
  · rw [getElem?_insertAll_of_not_mem fun w hw => hput ⟨w, hw⟩]

/-- A batch removes nothing. -/
theorem isSome_getElem?_insertAll {m : Std.ExtTreeMap κ α} {k : κ} (l : List (κ × α))
    (h : m[k]?.isSome) : (insertAll m l)[k]?.isSome := by
  rw [getElem?_insertAll]
  cases lastPut l k <;> simp [h]

/-- A batch whose puts keep what a projection shows of their entries keeps it everywhere. -/
theorem map_getElem?_insertAll {view : α → β} {m : Std.ExtTreeMap κ α} {l : List (κ × α)}
    (h : ∀ k v, (k, v) ∈ l → m[k]?.map view = some (view v)) (k : κ) :
    (insertAll m l)[k]?.map view = m[k]?.map view := by
  rcases insertAll_cases (m := m) (k := k) (h k _) with hk | ⟨v, hv, hk⟩
  · rw [hk]
  · rw [hk, hv, Option.map_some]

/-! ## Maps whose entries move -/

/-- Every entry of a map stays or makes a move. -/
def Evolves (move : κ → Option α → α → Prop) (old new : κ → Option α) : Prop :=
  ∀ k, new k = old k ∨ ∃ v, new k = some v ∧ move k (old k) v

omit [Ord κ] [Std.TransOrd κ] [Std.LawfulEqOrd κ] [DecidableEq κ] in
/-- A recorded value was there before or has been moved to. -/
theorem Evolves.of_some {move : κ → Option α → α → Prop} {old new : κ → Option α}
    (h : Evolves move old new) {k : κ} {v : α} (hv : new k = some v) :
    old k = some v ∨ move k (old k) v := by
  rcases h k with hsame | ⟨w, hw, hmove⟩
  · exact .inl (hsame ▸ hv)
  · exact .inr (some_unique hw hv ▸ hmove)

/-- A batch all of whose puts are moves makes the map evolve. -/
theorem evolves_insertAll (move : κ → Option β → β → Prop) (view : α → β)
    (m : Std.ExtTreeMap κ α) (l : List (κ × α))
    (h : ∀ k v, (k, v) ∈ l → move k (m[k]?.map view) (view v)) :
    Evolves move (fun k => m[k]?.map view) (fun k => (insertAll m l)[k]?.map view) := by
  intro k
  rcases insertAll_cases (m := m) (k := k) (h k _) with hk | ⟨v, hv, hk⟩
  · exact .inl (congrArg (Option.map view) hk)
  · exact .inr ⟨view v, congrArg (Option.map view) hk, hv⟩

end OrderedMap
