import StateFabric.Encoding.Records
import StateFabric.Fabric.Mutation

/-!
# Compatibility verdicts

A candidate is judged by its worst attribute: one that differs decides, then one that is absent.
The verdict does not depend on the order of the attributes, and an encoded descriptor is judged as
the one it was encoded from.
-/

namespace StateFabric

namespace CompatibilityDescriptor

/-- The descriptor a sequence of `set` calls builds; a refused call changes nothing. -/
def built (calls : List (Text × Text)) : CompatibilityDescriptor :=
  calls.foldl (fun d call => d.setOrKeep call.1 call.2) {}

/-- Some required attribute, not a wildcard, is present with a different value. -/
def Differs (candidate required : CompatibilityDescriptor) : Prop :=
  ∃ key value actual, required.find key = some value ∧ value ≠ wildcard
    ∧ candidate.find key = some actual ∧ actual ≠ value

/-- Some required attribute is absent. -/
def Lacks (candidate required : CompatibilityDescriptor) : Prop :=
  ∃ key value, required.find key = some value ∧ candidate.find key = none

variable {d d' candidate : CompatibilityDescriptor}

theorem Accepts.set {key value : Text} (h : Accepts d.attributes) (set : d.set key value = some d') :
    Accepts d'.attributes := by
  have hsize := h.1
  unfold CompatibilityDescriptor.set at set
  split_ifs at set with hkey hvalue hfound hfull
  all_goals
    obtain rfl := Option.some.inj set
    rw [Bool.or_eq_true, decide_eq_true_eq, not_or, Bool.not_eq_true, not_lt] at hkey
    have hfits : attributeFits (key, value) = true := by
      have hvalue := not_lt.mp hvalue
      have hname : ByteReader.textFits maxCompatibilityKeyLength key = true :=
        decide_eq_true (le_min hkey.2 (hkey.2.trans (by decide)))
      have hcontent : ByteReader.textFits maxCompatibilityValueLength value = true :=
        decide_eq_true (le_min hvalue (hvalue.trans (by decide)))
      simp [attributeFits, hkey.1, hname, hcontent]
    refine h.insert ?_ ?_
  · rw [Std.ExtTreeMap.size_insert, if_pos (by simpa [find] using hfound)]
    exact hsize
  · exact hfits
  · exact Std.ExtTreeMap.size_insert_le.trans (by omega)
  · exact hfits

theorem accepts_built (calls : List (Text × Text)) : Accepts (built calls).attributes := by
  unfold built
  have hstart : Accepts ({} : CompatibilityDescriptor).attributes := ⟨Nat.zero_le _, by simp⟩
  generalize ({} : CompatibilityDescriptor) = d at hstart
  induction calls generalizing d with
  | nil => exact hstart
  | cons call rest ih =>
    refine ih _ ?_
    cases hset : d.set call.1 call.2 with
    | none => simpa [setOrKeep, hset] using hstart
    | some d' => simpa [setOrKeep, hset] using hstart.set hset

end CompatibilityDescriptor

open CompatibilityDescriptor

open Classical in
/-- The attribute loop, without its early return. -/
theorem evaluateAttributes_eq (candidate : CompatibilityDescriptor) (entries : List (Text × Text))
    (anyUnknown : Bool) :
    evaluateAttributes candidate entries anyUnknown =
      if ∃ entry ∈ entries, entry.2 ≠ wildcard
          ∧ ∃ actual, candidate.find entry.1 = some actual ∧ actual ≠ entry.2 then .incompatible
      else if anyUnknown = true ∨ ∃ entry ∈ entries, candidate.find entry.1 = none then .unknown
      else .compatible := by
  induction entries generalizing anyUnknown with
  | nil => simp [evaluateAttributes]
  | cons entry rest ih =>
    unfold evaluateAttributes
    cases hfound : candidate.find entry.1 with
    | none => simp [ih, hfound]
    | some actual =>
      by_cases hwild : entry.2 = wildcard
      · simp [ih, hfound, hwild]
      · by_cases hsame : actual = entry.2
        · simp [ih, hfound, hwild, hsame]
        · simp [hfound, hwild, hsame]

open Classical in
/-- Verdicts: a stale generation or a revalidation flag asks for revalidation; otherwise a
difference is INCOMPATIBLE, without one an absence is UNKNOWN, and without either the candidate is
COMPATIBLE.  A decoded descriptor is judged as the encoded one. -/
theorem compatibility_characterized (calls : List (Text × Text))
    (requirement : CompatibilityRequirement) (generation : CompatibilityGeneration) :
    (∀ flagged, flagged = true ∨ generation < requirement.generation →
        evaluateCompatibility requirement (some (built calls)) generation flagged
          = .revalidationRequired)
      ∧ (¬ generation < requirement.generation →
        evaluateCompatibility requirement (some (built calls)) generation false
          = if (built calls).Differs requirement.required then .incompatible
            else if (built calls).Lacks requirement.required then .unknown else .compatible)
      ∧ ∃ decoded, ByteReader.readAll decode (built calls).encode = .ok decoded
        ∧ ∀ requirement generation flagged,
          evaluateCompatibility requirement (some decoded) generation flagged
            = evaluateCompatibility requirement (some (built calls)) generation flagged := by
  refine ⟨fun flagged hstale => ?_, fun hcurrent => ?_, built calls, ?_, fun _ _ _ => rfl⟩
  · cases flagged <;> simp_all [evaluateCompatibility]
  · simp only [evaluateCompatibility, Bool.false_eq_true, if_false, if_neg hcurrent,
      evaluateAttributes_eq]
    have hdiffers : (∃ entry ∈ requirement.required.attributes.toList, entry.2 ≠ wildcard
        ∧ ∃ actual, (built calls).find entry.1 = some actual ∧ actual ≠ entry.2)
        ↔ (built calls).Differs requirement.required := by
      simp only [Differs, Prod.exists, OrderedMap.mem_toList_iff, find, exists_and_left]
    have hlacks : (∃ entry ∈ requirement.required.attributes.toList,
        (built calls).find entry.1 = none) ↔ (built calls).Lacks requirement.required := by
      simp only [Lacks, Prod.exists, OrderedMap.mem_toList_iff, find]
    exact if_congr hdiffers rfl (if_congr (by simpa using hlacks) rfl rfl)
  · refine Reader.readAll_of_reads (CompatibilityDescriptor.reads ?_) _
    rw [CompatibilityDescriptor.fits, Bool.and_eq_true, decide_eq_true_eq, List.all_eq_true]
    exact accepts_built calls

end StateFabric
