import Mathlib

/-!
# Enumerations with a wire code

A finite enumeration that is written as a number: every value has a code, the
table of values is searched by code, and the search finds the value back.
-/

/-- An enumeration whose values are encoded as 16-bit codes. -/
class WireEnum (α : Type) where
  /-- The number a value is written as. -/
  code : α → UInt16
  /-- The table of all values. -/
  values : List α
  /-- Searching the table by code finds exactly the value with that code. -/
  find_code : ∀ a, values.find? (fun b => code b == code a) = some a

/-- The enumeration of `count` values with the given numbers. -/
@[reducible] def WireEnum.numbered {α : Type} (number : α → Nat) (nth : Nat → α) (count : Nat)
    (find_number : ∀ a, ((List.range count).map nth).find?
      (fun b => (number b).toUInt16 == (number a).toUInt16) = some a) : WireEnum α where
  code a := (number a).toUInt16
  values := (List.range count).map nth
  find_code := find_number

namespace WireEnum

variable {α : Type} [WireEnum α]

/-- The value with a given code, when the table has one. -/
def ofCode (c : UInt16) : Option α := (values (α := α)).find? fun b => code b == c

@[simp] theorem ofCode_code (a : α) : ofCode (code a) = some a := find_code a

theorem code_of_ofCode {c : UInt16} {a : α} (h : ofCode c = some a) : code a = c :=
  beq_iff_eq.mp (List.find?_some (p := fun b => code b == c) h)

theorem code_injective : Function.Injective (code : α → UInt16) := by
  intro a b h
  have ha : ofCode (code a) = some a := ofCode_code a
  rw [h, ofCode_code] at ha
  exact (Option.some.inj ha).symm

end WireEnum
