import Mathlib.Data.List.Perm.Basic

/-!
# Enumeration orders

A hash table lists its entries in an order it does not specify. An
`Enumeration` is one such order: some rearrangement of the entries. A result
proved for every enumeration does not depend on the hash function, the bucket
count or the insertion history.
-/

namespace Sc2Api.Lib

universe u

/-- An order in which the entries of a table are visited. -/
structure Enumeration (α : Type u) where
  visit : List α → List α
  perm : ∀ entries, (visit entries).Perm entries

namespace Enumeration

variable {α : Type u} (order : Enumeration α)

/-- Visits the entries as they are listed. -/
def listed (α : Type u) : Enumeration α := ⟨id, fun _ => .refl _⟩

instance : Inhabited (Enumeration α) := ⟨listed α⟩

theorem mem_visit {entries : List α} {x : α} : x ∈ order.visit entries ↔ x ∈ entries :=
  (order.perm entries).mem_iff

end Enumeration

end Sc2Api.Lib
