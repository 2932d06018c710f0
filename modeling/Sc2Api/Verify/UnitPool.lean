import Sc2Api.Lib.Machine
import Sc2Api.Unit

/-!
# The unit pool keeps its pointers apart

`UnitPool.WF` is the invariant that ties the cursor, the blocks and the two maps
together. Every operation keeps it, and from it follow the facts bots rely on
when they store a `Unit*`: a tag keeps its first slot for ever, two tags never
share one, and an operation on one tag leaves the records of the others alone.
-/

namespace Sc2Api.UnitPool

open Lib

/-! ## Equations of the operations -/

theorem incrementIndex_eq (p : UnitPool) :
    p.incrementIndex = { p with availableIndex := p.availableIndex.next entrySize } := by
  unfold incrementIndex Slot.next
  simp only
  split <;> rfl

theorem grow_eq (p : UnitPool) : p.grow = { p with unitPool := p.grow.unitPool } := by
  unfold grow
  split <;> rfl

theorem createUnit_of_known {p : UnitPool} {t : Tag} {i : PoolIndex}
    (h : p.getUnit t = some i) :
    p.createUnit t =
      (i, { p with tagToExistingUnit := p.tagToExistingUnit.insert t i }) := by
  unfold createUnit
  rw [h]

theorem createUnit_of_fresh {p : UnitPool} {t : Tag} (h : p.getUnit t = none) :
    p.createUnit t = (p.availableIndex,
      { unitPool := p.grow.unitPool
        availableIndex := p.availableIndex.next entrySize
        tagToUnit := p.tagToUnit.insert t p.availableIndex
        tagToExistingUnit := p.tagToExistingUnit.insert t p.availableIndex }) := by
  unfold createUnit
  rw [h]
  simp only [incrementIndex_eq]
  rw [grow_eq]

theorem markDead_of_unknown {p : UnitPool} {t : Tag} (h : p.getUnit t = none) :
    p.markDead t = p := by
  unfold markDead
  rw [h]

theorem markDead_of_known {p : UnitPool} {t : Tag} {i : PoolIndex}
    (h : p.getUnit t = some i) :
    p.markDead t =
      { p.write i (fun u => { u with isAlive := false }) with
        tagToExistingUnit := p.tagToExistingUnit.erase t } := by
  unfold markDead
  rw [h]
  rfl

/-! ## The maps -/

section Maps

variable (p : UnitPool) (t : Tag)

theorem getUnit_createUnit_self :
    (p.createUnit t).2.getUnit t = some (p.createUnit t).1 := by
  cases h : p.getUnit t with
  | none => rw [createUnit_of_fresh h]; exact AList.lookup_insert _
  | some i => rw [createUnit_of_known h]; exact h

theorem getUnit_createUnit_ne {t' : Tag} (hne : t' ≠ t) :
    (p.createUnit t).2.getUnit t' = p.getUnit t' := by
  cases h : p.getUnit t with
  | none => rw [createUnit_of_fresh h]; exact AList.lookup_insert_ne hne
  | some i => rw [createUnit_of_known h]; rfl

theorem getExistingUnit_createUnit_self :
    (p.createUnit t).2.getExistingUnit t = some (p.createUnit t).1 := by
  cases h : p.getUnit t with
  | none => rw [createUnit_of_fresh h]; exact AList.lookup_insert _
  | some i => rw [createUnit_of_known h]; exact AList.lookup_insert _

theorem getExistingUnit_createUnit_ne {t' : Tag} (hne : t' ≠ t) :
    (p.createUnit t).2.getExistingUnit t' = p.getExistingUnit t' := by
  cases h : p.getUnit t with
  | none => rw [createUnit_of_fresh h]; exact AList.lookup_insert_ne hne
  | some i => rw [createUnit_of_known h]; exact AList.lookup_insert_ne hne

@[simp] theorem getUnit_markDead (t' : Tag) : (p.markDead t).getUnit t' = p.getUnit t' := by
  cases h : p.getUnit t with
  | none => rw [markDead_of_unknown h]
  | some i => rw [markDead_of_known h]; rfl

theorem getExistingUnit_markDead_ne {t' : Tag} (hne : t' ≠ t) :
    (p.markDead t).getExistingUnit t' = p.getExistingUnit t' := by
  cases h : p.getUnit t with
  | none => rw [markDead_of_unknown h]
  | some i => rw [markDead_of_known h]; exact AList.lookup_erase_ne hne

@[simp] theorem getExistingUnit_clearExisting (t' : Tag) :
    p.clearExisting.getExistingUnit t' = none := AList.lookup_empty t'

@[simp] theorem getUnit_write (i : PoolIndex) (f : Unit → Unit) (t' : Tag) :
    (p.write i f).getUnit t' = p.getUnit t' := rfl

@[simp] theorem getExistingUnit_write (i : PoolIndex) (f : Unit → Unit) (t' : Tag) :
    (p.write i f).getExistingUnit t' = p.getExistingUnit t' := rfl

end Maps

/-! ## The invariant -/

/-- The blocks are full up to the cursor, every known tag owns a slot of its own
before the cursor, and an existing unit is the unit its tag owns. -/
structure WF (p : UnitPool) : Prop where
  uniform : p.unitPool.Uniform entrySize
  cursor : p.availableIndex.offset < entrySize
  blocks : p.unitPool.length =
    p.availableIndex.block + if p.availableIndex.offset = 0 then 0 else 1
  inBounds : ∀ {t i}, p.getUnit t = some i → p.unitPool.InBounds i
  before : ∀ {t i}, p.getUnit t = some i →
    i.offset < entrySize ∧ i.linear entrySize < p.availableIndex.linear entrySize
  inj : ∀ {t t' i}, p.getUnit t = some i → p.getUnit t' = some i → t = t'
  existing : ∀ {t i}, p.getExistingUnit t = some i → p.getUnit t = some i

namespace WF

variable {p : UnitPool}

theorem empty : WF {} where
  uniform := fun _ h => by cases h
  cursor := by decide
  blocks := rfl
  inBounds := fun h => by cases h
  before := fun h => by cases h
  inj := fun h _ => by cases h
  existing := fun h => by cases h

/-- Growing puts the cursor inside the arena: the appended block is the missing one. -/
theorem grow_blocks (h : p.WF) :
    p.grow.unitPool.Uniform entrySize ∧
      p.grow.unitPool.length = p.availableIndex.block + 1 := by
  have hb := h.blocks
  unfold grow
  split
  · rename_i hgrow
    refine ⟨h.uniform.append (by simp), ?_⟩
    rcases hgrow with hempty | hfull
    · have hlen : p.unitPool.length = 0 := by simpa using hempty
      split at hb <;> simp only [List.length_append, List.length_singleton] <;> omega
    · simp only [List.length_append, List.length_singleton, hfull]
  · rename_i hgrow
    refine ⟨h.uniform, ?_⟩
    split at hb
    · exact absurd (Or.inr hb) hgrow
    · exact hb

theorem grow_cursor (h : p.WF) : p.grow.unitPool.InBounds p.availableIndex :=
  h.grow_blocks.1.inBounds (by rw [h.grow_blocks.2]; omega) h.cursor

/-- Growing keeps the old records where they are. -/
theorem grow_read (h : p.WF) {t : Tag} {i : PoolIndex} (hi : p.getUnit t = some i) :
    p.grow.unitPool.read? i = p.unitPool.read? i := by
  unfold grow
  split
  · exact Arena.read?_append _ (h.inBounds hi).block_lt
  · rfl

/-- The cursor is no slot of a known tag. -/
theorem cursor_free (h : p.WF) {t : Tag} : p.getUnit t ≠ some p.availableIndex :=
  fun ht => Nat.lt_irrefl _ (h.before ht).2

theorem createUnit (h : p.WF) (t : Tag) : (p.createUnit t).2.WF := by
  cases hk : p.getUnit t with
  | some i =>
    rw [createUnit_of_known hk]
    refine ⟨h.uniform, h.cursor, h.blocks, h.inBounds, h.before, h.inj, ?_⟩
    intro t' j hj
    by_cases hne : t' = t
    · subst hne
      rw [getExistingUnit, AList.lookup_insert] at hj
      rw [← hj]
      exact hk
    · rw [getExistingUnit, AList.lookup_insert_ne hne] at hj
      exact h.existing hj
  | none =>
    -- a slot of the new map is the cursor for `t` and an old slot for every other tag
    have hlook : ∀ {t' j}, (p.createUnit t).2.getUnit t' = some j →
        (t' = t ∧ j = p.availableIndex) ∨ (t' ≠ t ∧ p.getUnit t' = some j) := by
      intro t' j hj
      by_cases hne : t' = t
      · subst hne
        rw [getUnit_createUnit_self, createUnit_of_fresh hk] at hj
        exact Or.inl ⟨rfl, (Option.some.inj hj).symm⟩
      · rw [getUnit_createUnit_ne _ _ hne] at hj
        exact Or.inr ⟨hne, hj⟩
    have hex := getExistingUnit_createUnit_self p t
    have hexne := fun t' => @getExistingUnit_createUnit_ne p t t'
    have hself := getUnit_createUnit_self p t
    have hne := fun t' => @getUnit_createUnit_ne p t t'
    rw [createUnit_of_fresh hk] at hlook hex hexne hself hne ⊢
    refine ⟨h.grow_blocks.1, Slot.offset_next_lt h.cursor, ?_, ?_, ?_, ?_, ?_⟩
    · show p.grow.unitPool.length = _
      rw [h.grow_blocks.2]
      unfold Slot.next
      split <;> simp
    · intro t' j hj
      rcases hlook hj with ⟨-, rfl⟩ | ⟨-, hold⟩
      · exact h.grow_cursor
      · rw [Arena.inBounds_iff]
        show (p.grow.unitPool.read? j).isSome
        rw [h.grow_read hold]
        exact Arena.inBounds_iff.1 (h.inBounds hold)
    · intro t' j hj
      show _ ∧ _ < (p.availableIndex.next entrySize).linear entrySize
      rw [Slot.linear_next]
      rcases hlook hj with ⟨-, rfl⟩ | ⟨-, hold⟩
      · exact ⟨h.cursor, Nat.lt_succ_self _⟩
      · exact ⟨(h.before hold).1, Nat.lt_succ_of_lt (h.before hold).2⟩
    · intro t' t'' j hj hj'
      rcases hlook hj with ⟨rfl, rfl⟩ | ⟨-, hold⟩ <;>
        rcases hlook hj' with ⟨rfl, he⟩ | ⟨-, hold'⟩
      · rfl
      · exact absurd hold' h.cursor_free
      · subst he; exact absurd hold h.cursor_free
      · exact h.inj hold hold'
    · intro t' j hj
      by_cases ht : t' = t
      · subst ht
        rw [hex] at hj
        rw [hself]
        exact hj
      · rw [hexne t' ht] at hj
        rw [hne t' ht]
        exact h.existing hj

theorem write (h : p.WF) (i : PoolIndex) (f : Unit → Unit) : (p.write i f).WF where
  uniform := h.uniform.modify i f
  cursor := h.cursor
  blocks := by
    show (p.unitPool.modify i f).length = _
    rw [Arena.modify_length]
    exact h.blocks
  inBounds := fun hj => Arena.inBounds_modify.2 (h.inBounds hj)
  before := h.before
  inj := h.inj
  existing := h.existing

theorem markDead (h : p.WF) (t : Tag) : (p.markDead t).WF := by
  cases hk : p.getUnit t with
  | none => rw [markDead_of_unknown hk]; exact h
  | some i =>
    have hw := h.write i (fun u => { u with isAlive := false })
    have hex := fun t' => @getExistingUnit_markDead_ne p t t'
    rw [markDead_of_known hk] at hex ⊢
    refine ⟨hw.uniform, hw.cursor, hw.blocks, hw.inBounds, hw.before, hw.inj, ?_⟩
    intro t' j hj
    by_cases hne : t' = t
    · subst hne
      rw [getExistingUnit, AList.lookup_erase] at hj
      cases hj
    · rw [hex t' hne] at hj
      exact h.existing hj

theorem clearExisting (h : p.WF) : p.clearExisting.WF where
  uniform := h.uniform
  cursor := h.cursor
  blocks := h.blocks
  inBounds := h.inBounds
  before := h.before
  inj := h.inj
  existing := fun hj => by rw [getExistingUnit_clearExisting] at hj; cases hj

/-- The slot `CreateUnit` hands out lies in an allocated block. -/
theorem createUnit_inBounds (h : p.WF) (t : Tag) :
    (p.createUnit t).2.unitPool.InBounds (p.createUnit t).1 :=
  (h.createUnit t).inBounds (getUnit_createUnit_self p t)

/-- An existing unit is either absent or the unit its tag owns. -/
theorem existing_eq (h : p.WF) (t : Tag) :
    p.getExistingUnit t = none ∨ p.getExistingUnit t = p.getUnit t := by
  cases hj : p.getExistingUnit t with
  | none => exact Or.inl rfl
  | some i => exact Or.inr (h.existing hj).symm

theorem getExistingUnit_markDead_self (h : p.WF) (t : Tag) :
    (p.markDead t).getExistingUnit t = none := by
  cases hk : p.getUnit t with
  | none =>
    rw [markDead_of_unknown hk]
    rcases h.existing_eq t with hn | he
    · exact hn
    · rw [he, hk]
  | some i => rw [markDead_of_known hk]; exact AList.lookup_erase t _

end WF

/-! ## Records -/

section Records

variable {p : UnitPool}

/-- The record a tag owns, read through its pointer. -/
def content (p : UnitPool) (t : Tag) : Option Unit := (p.getUnit t).bind p.unitPool.read?

theorem WF.exists_content (h : p.WF) {t : Tag} {i : PoolIndex} (hi : p.getUnit t = some i) :
    ∃ u, p.content t = some u := by
  unfold content
  rw [hi]
  exact (h.inBounds hi).exists_read

/-- `CreateUnit` writes no record: known slots keep their contents. -/
theorem WF.read_createUnit (h : p.WF) (t : Tag) {t' : Tag} {i : PoolIndex}
    (hi : p.getUnit t' = some i) :
    (p.createUnit t).2.unitPool.read? i = p.unitPool.read? i := by
  cases hk : p.getUnit t with
  | some j => rw [createUnit_of_known hk]
  | none => rw [createUnit_of_fresh hk]; exact h.grow_read hi

/-- `MarkDead(t)` writes the slot of `t` only. -/
theorem WF.read_markDead_ne (h : p.WF) {t t' : Tag} {i : PoolIndex} (hne : t' ≠ t)
    (hi : p.getUnit t' = some i) :
    (p.markDead t).unitPool.read? i = p.unitPool.read? i := by
  cases hk : p.getUnit t with
  | none => rw [markDead_of_unknown hk]
  | some j =>
    rw [markDead_of_known hk]
    exact Arena.read?_modify_of_ne _ _ fun he => hne (h.inj hi (he ▸ hk))

theorem read_markDead_self {t : Tag} {i : PoolIndex} (hi : p.getUnit t = some i) :
    (p.markDead t).unitPool.read? i =
      (p.unitPool.read? i).map fun u => { u with isAlive := false } := by
  rw [markDead_of_known hi]
  exact Arena.read?_modify_self _ _ _

end Records

end Sc2Api.UnitPool
