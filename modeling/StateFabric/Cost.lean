import StateFabric.Taxonomy

/-!
# Economic quantities

`src/cost.cpp`: costs in micro-units with their provenance.  UNKNOWN is not zero, and
arithmetic on UNKNOWN yields UNKNOWN.
-/

namespace StateFabric

def microUnitsPerUnit : UInt64 := 1000000

/-- Weaker evidence has a lower rank; combining keeps the weaker provenance. -/
def CostSource.rank : CostSource → Nat
  | .unknown => 0
  | .estimated => 1
  | .policy => 2
  | .measured => 3

/-- A quantity of cost in micro-units together with its provenance. -/
structure CostValue where
  source : CostSource := .unknown
  microUnits : Int64 := 0
  deriving DecidableEq

namespace CostValue

def known (value : CostValue) : Bool := value.source != .unknown

def unknown : CostValue := { source := .unknown, microUnits := 0 }

end CostValue

/-- A size in bytes that may be unknown.  Unknown is not zero. -/
structure SizeValue where
  present : Bool := false
  bytes : UInt64 := 0
  deriving DecidableEq

namespace SizeValue

def known (value : SizeValue) : Bool := value.present

def unknown : SizeValue := {}

def of (bytes : UInt64) : SizeValue := { present := true, bytes := bytes }

end SizeValue

/-- Expected reuse value of a state generation. -/
structure ReuseValue where
  source : CostSource := .unknown
  expectedReuseCount : UInt64 := 0
  probabilityPerMille : UInt32 := 0
  deriving DecidableEq

def ReuseValue.known (value : ReuseValue) : Bool := value.source != .unknown

/-- Count times probability in thousandths, clamped to the 64-bit range. -/
def ReuseValue.expectedValueMilli (value : ReuseValue) : UInt64 :=
  let count := value.expectedReuseCount
  let probability := value.probabilityPerMille.toUInt64
  if count != 0 && probability != 0 && 0xFFFFFFFFFFFFFFFF / probability < count then
    0xFFFFFFFFFFFFFFFF
  else count * probability

/-! ## Saturating arithmetic -/

def saturatingAdd (a b : Int64) : Int64 :=
  if 0 < b ∧ Int64.maxValue - b < a then Int64.maxValue
  else if b < 0 ∧ a < Int64.minValue - b then Int64.minValue
  else a + b

/-- The product, or the bound it passes.  In the source the overflow that the division looks for is
undefined, and a compiler may return the wrapped product instead; here the product wraps and the
division finds it.  No result rests on what a score is once it has overflowed. -/
def saturatingMul (a b : Int64) : Int64 :=
  if a = 0 ∨ b = 0 then 0
  else if a = -1 ∧ b = Int64.minValue then Int64.maxValue
  else if b = -1 ∧ a = Int64.minValue then Int64.maxValue
  else
    let product := a * b
    if product / b ≠ a then
      if decide (0 < a) = decide (0 < b) then Int64.maxValue else Int64.minValue
    else product

/-! ## Cost arithmetic -/

/-- UNKNOWN absorbs; the combined provenance is the weaker one. -/
def costAdd (a b : CostValue) : CostValue :=
  if !a.known || !b.known then .unknown
  else
    let combined := if a.source.rank ≤ b.source.rank then a.source else b.source
    { source := combined, microUnits := saturatingAdd a.microUnits b.microUnits }

/-- Sums components; one with neither provenance nor magnitude is absent. -/
def costSum (a b : CostValue) : CostValue :=
  let presentA := a.known || a.microUnits != 0
  let presentB := b.known || b.microUnits != 0
  if !presentA then b else if !presentB then a else costAdd a b

/-- Scales by `numerator / denominator`; overflow and UNKNOWN yield UNKNOWN. -/
def costScale (value : CostValue) (numerator denominator : UInt64) : CostValue :=
  if !value.known then .unknown
  else if denominator = 0 then .unknown
  else if numerator = 0 then { source := value.source, microUnits := 0 }
  else
    let limit : UInt64 := Int64.maxValue.toUInt64
    let magnitude := if value.microUnits < 0 then -value.microUnits else value.microUnits
    if limit / numerator < magnitude.toUInt64 then .unknown
    else
      let scaled := value.microUnits * numerator.toInt64
      { source := value.source, microUnits := scaled / denominator.toInt64 }

/-- Orders two costs with UNKNOWN worst; equal magnitudes prefer stronger evidence. -/
def costCompare (a b : CostValue) : Int :=
  if !a.known && !b.known then 0
  else if !a.known then 1
  else if !b.known then -1
  else if a.microUnits < b.microUnits then -1
  else if b.microUnits < a.microUnits then 1
  else if a.source.rank = b.source.rank then 0
  else if b.source.rank < a.source.rank then -1 else 1

/-! ## Renderings -/

/-- `std::string(count, '0') + digits`. -/
def padZeros (width : Nat) (digits : Text) : Text :=
  List.replicate (width - digits.length) 48 ++ digits

/-- Renders like "POLICY 0.180000 units" or "UNKNOWN units". -/
def CostValue.describe (value : CostValue) (unitLabel : Text) : Text :=
  if !value.known then text "UNKNOWN " ++ unitLabel
  else
    let negative := decide (value.microUnits < 0)
    let magnitude : UInt64 :=
      if negative then (-(value.microUnits + 1)).toUInt64 + 1 else value.microUnits.toUInt64
    let whole := magnitude / microUnitsPerUnit
    let fraction := magnitude % microUnitsPerUnit
    value.source.str ++ text " " ++ (if negative then text "-" else [])
      ++ natText whole.toNat ++ text "." ++ padZeros 6 (natText fraction.toNat)
      ++ text " " ++ unitLabel

def ReuseValue.describe (value : ReuseValue) : Text :=
  if !value.known then text "UNKNOWN expected reuse"
  else
    value.source.str ++ text " expected reuse " ++ natText value.expectedReuseCount.toNat
      ++ text " at " ++ natText (value.probabilityPerMille / 10).toNat ++ text "."
      ++ natText (value.probabilityPerMille % 10).toNat ++ text " probability"

end StateFabric
