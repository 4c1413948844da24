import StateFabric.Bytes
import StateFabric.Digest
import StateFabric.Taxonomy

/-!
# Compatibility gating

`src/compatibility.cpp`: a descriptor is an ordered map of attributes, and a candidate is
compared against what a state generation requires.  Only a fully satisfied requirement is
COMPATIBLE.
-/

namespace StateFabric

def maxCompatibilityAttributes : Nat := 256
def maxCompatibilityKeyLength : Nat := 128
def maxCompatibilityValueLength : Nat := 512

/-- A canonical, ordered set of compatibility attributes. -/
structure CompatibilityDescriptor where
  attributes : Std.ExtTreeMap Text Text := ∅
  deriving DecidableEq

namespace CompatibilityDescriptor

/-- Wildcard value: matches any present candidate value. -/
def wildcard : Text := text "*"

def find (d : CompatibilityDescriptor) (key : Text) : Option Text := d.attributes[key]?

/-- Inserts or replaces an attribute; `none` when a bound was exceeded. -/
def set (d : CompatibilityDescriptor) (key value : Text) : Option CompatibilityDescriptor :=
  if key.isEmpty || decide (maxCompatibilityKeyLength < key.length) then none
  else if maxCompatibilityValueLength < value.length then none
  else if (d.find key).isSome then some { attributes := d.attributes.insert key value }
  else if maxCompatibilityAttributes ≤ d.attributes.size then none
  else some { attributes := d.attributes.insert key value }

def encode (d : CompatibilityDescriptor) : Bytes :=
  ByteWriter.u32 (UInt32.ofNat d.attributes.size)
    ++ d.attributes.toList.flatMap fun entry => ByteWriter.str entry.1 ++ ByteWriter.str entry.2

/-- SHA-256 over the canonical encoding, rendered as hex. -/
def fingerprint (d : CompatibilityDescriptor) : Text :=
  (sha256 (ByteWriter.str (text "ccsf.compat.v1") ++ d.encode)).hex

end CompatibilityDescriptor

/-- The compatibility identity a state generation requires of any replica. -/
structure CompatibilityRequirement where
  compatibilityId : CompatibilityId := {}
  generation : CompatibilityGeneration := {}
  required : CompatibilityDescriptor := {}
  requireVerifiedEvidence : Bool := true
  deriving DecidableEq

/-- A published compatibility identity for a producer. -/
structure CompatibilityRecord where
  compatibilityId : CompatibilityId := {}
  generation : CompatibilityGeneration := {}
  descriptor : CompatibilityDescriptor := {}
  producer : Text := []
  publishedAt : Tick := 0
  revalidationRequired : Bool := false
  deriving DecidableEq

/-- The attribute loop of `evaluate_compatibility`: a concrete difference decides at once,
a missing attribute is remembered. -/
def evaluateAttributes (candidate : CompatibilityDescriptor) :
    List (Text × Text) → Bool → CompatibilityResult
  | [], anyUnknown => if anyUnknown then .unknown else .compatible
  | entry :: rest, anyUnknown =>
    match candidate.find entry.1 with
    | none => evaluateAttributes candidate rest true
    | some actual =>
      if entry.2 = CompatibilityDescriptor.wildcard then
        evaluateAttributes candidate rest anyUnknown
      else if actual ≠ entry.2 then .incompatible
      else evaluateAttributes candidate rest anyUnknown

/-- Evaluates a candidate descriptor against a requirement. -/
def evaluateCompatibility (requirement : CompatibilityRequirement)
    (candidate : Option CompatibilityDescriptor)
    (candidateGeneration : CompatibilityGeneration)
    (candidateRevalidationRequired : Bool) : CompatibilityResult :=
  match candidate with
  | none => .unknown
  | some candidate =>
    if candidateRevalidationRequired then .revalidationRequired
    else if candidateGeneration < requirement.generation then .revalidationRequired
    else evaluateAttributes candidate requirement.required.attributes.toList false

/-- Evaluates a published record against a requirement. -/
def evaluateCompatibilityRecord (requirement : CompatibilityRequirement)
    (candidate : Option CompatibilityRecord) : CompatibilityResult :=
  match candidate with
  | none => .unknown
  | some candidate =>
    if candidate.compatibilityId ≠ requirement.compatibilityId then .unknown
    else
      evaluateCompatibility requirement (some candidate.descriptor) candidate.generation
        candidate.revalidationRequired

/-- Explains a compatibility result in one line. -/
def describeCompatibility (requirement : CompatibilityRequirement)
    (result : CompatibilityResult) (candidate : Option CompatibilityDescriptor) : Text :=
  let line := text "compatibility " ++ result.str ++ text " for identity "
    ++ requirement.compatibilityId.str ++ text " generation " ++ requirement.generation.str
  match candidate with
  | none => line ++ text " (no candidate evidence published)"
  | some candidate =>
    line ++ text " (candidate fingerprint " ++ candidate.fingerprint ++ text ")"

end StateFabric
