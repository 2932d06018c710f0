import Mathlib.Data.List.Basic
import Mathlib.Tactic.Ring

/-!
# Block arenas

An arena is a growing sequence of blocks of one fixed size. A `Slot` names a
cell by its block and its offset, so a slot stays valid when blocks are
appended. Slots are numbered block by block (`Slot.linear`): a cursor that
walks the arena with `Slot.next` hands out every number once, which is what
keeps two allocations apart.
-/

namespace Sc2Api.Lib

universe u

/-- A cell of an arena: the index of a block and an offset inside it. -/
structure Slot where
  block : Nat
  offset : Nat
  deriving DecidableEq, Repr, Inhabited

namespace Slot

/-- The slot after `s` in blocks of `size` cells. -/
def next (size : Nat) (s : Slot) : Slot :=
  if s.offset + 1 = size then ⟨s.block + 1, 0⟩ else ⟨s.block, s.offset + 1⟩

/-- The number of `s` when the cells are counted block by block. -/
def linear (size : Nat) (s : Slot) : Nat := s.block * size + s.offset

theorem offset_next_lt {size : Nat} {s : Slot} (h : s.offset < size) :
    (s.next size).offset < size := by
  unfold next
  split
  · exact Nat.lt_of_le_of_lt (Nat.zero_le _) h
  · simp only; omega

theorem linear_next (size : Nat) (s : Slot) :
    (s.next size).linear size = s.linear size + 1 := by
  unfold next linear
  split
  · next hlast => simp only; rw [Nat.add_mul]; omega
  · simp only; omega

end Slot

/-- The blocks of an arena, in the order they were allocated. -/
abbrev Arena (α : Type u) := List (List α)

namespace Arena

variable {α : Type u}

/-- The content of a slot, if the slot lies inside an allocated block. -/
def read? (a : Arena α) (s : Slot) : Option α := a[s.block]?.bind (·[s.offset]?)

/-- Writes `f` of the old content to a slot; nothing happens outside the blocks. -/
def modify (a : Arena α) (s : Slot) (f : α → α) : Arena α :=
  List.modify a s.block (List.modify · s.offset f)

/-- The slot lies inside an allocated block. -/
def InBounds (a : Arena α) (s : Slot) : Prop :=
  ∃ block, a[s.block]? = some block ∧ s.offset < block.length

theorem inBounds_iff {a : Arena α} {s : Slot} : a.InBounds s ↔ (a.read? s).isSome := by
  unfold InBounds read?
  cases h : a[s.block]? with
  | none => simp
  | some block => simp

theorem InBounds.exists_read {a : Arena α} {s : Slot} (h : a.InBounds s) :
    ∃ x, a.read? s = some x :=
  Option.isSome_iff_exists.1 (inBounds_iff.1 h)

@[simp] theorem modify_length (a : Arena α) (s : Slot) (f : α → α) :
    (a.modify s f).length = a.length := by
  simp [modify]

theorem read?_modify_self (a : Arena α) (s : Slot) (f : α → α) :
    (a.modify s f).read? s = (a.read? s).map f := by
  unfold modify read?
  cases h : a[s.block]? with
  | none => simp [h]
  | some block => simp [h]

theorem read?_modify_of_ne (a : Arena α) {s t : Slot} (f : α → α) (h : s ≠ t) :
    (a.modify s f).read? t = a.read? t := by
  unfold modify read?
  by_cases hb : s.block = t.block
  · have ho : s.offset ≠ t.offset := fun ho => h (by cases s; cases t; simp_all)
    cases hc : a[t.block]? with
    | none => simp [hb, hc]
    | some block => simp [hb, hc, ho]
  · simp [hb]

/-- A write keeps the allocated blocks allocated. -/
theorem inBounds_modify {a : Arena α} {s t : Slot} {f : α → α} :
    (a.modify s f).InBounds t ↔ a.InBounds t := by
  rw [inBounds_iff, inBounds_iff]
  by_cases h : s = t
  · subst h
    rw [read?_modify_self, Option.isSome_map]
  · rw [read?_modify_of_ne a f h]

/-- Appending a block leaves the contents of the old blocks alone. -/
theorem read?_append {a : Arena α} {s : Slot} (b : List α) (h : s.block < a.length) :
    Arena.read? (a ++ [b]) s = a.read? s := by
  unfold read?
  rw [List.getElem?_append_left h]

theorem InBounds.block_lt {a : Arena α} {s : Slot} (h : a.InBounds s) :
    s.block < a.length := by
  obtain ⟨block, hb, -⟩ := h
  exact (List.getElem?_eq_some_iff.1 hb).1

/-- Every block has `size` cells. -/
def Uniform (size : Nat) (a : Arena α) : Prop := ∀ block ∈ a, block.length = size

theorem Uniform.append {size : Nat} {a : Arena α} {b : List α} (h : a.Uniform size)
    (hb : b.length = size) : Uniform size (a ++ [b]) := by
  intro block hm
  rcases List.mem_append.1 hm with hm | hm
  · exact h block hm
  · rw [List.mem_singleton.1 hm, hb]

theorem Uniform.modify {size : Nat} {a : Arena α} (h : a.Uniform size) (s : Slot)
    (f : α → α) : Uniform size (a.modify s f) := by
  intro block hm
  obtain ⟨i, hi⟩ := List.mem_iff_getElem?.1 hm
  unfold Arena.modify at hi
  rw [List.getElem?_modify] at hi
  cases hc : a[i]? with
  | none => simp [hc] at hi
  | some old =>
    have hlen : old.length = size := h old (List.mem_of_getElem? hc)
    rw [hc] at hi
    obtain rfl := Option.some.inj hi
    split
    · rw [List.length_modify, hlen]
    · exact hlen

/-- In an arena of uniform blocks an in-range offset of an allocated block is a cell. -/
theorem Uniform.inBounds {size : Nat} {a : Arena α} (h : a.Uniform size) {s : Slot}
    (hb : s.block < a.length) (ho : s.offset < size) : a.InBounds s :=
  ⟨a[s.block], List.getElem?_eq_getElem hb, by
    rw [h _ (List.getElem_mem hb)]; exact ho⟩

end Arena

end Sc2Api.Lib
