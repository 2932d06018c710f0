import Mathlib.Data.List.Induction
import Sc2Api.Lib.Lists
import Sc2Api.Verify.UnitPool

/-!
# Histories of the unit pool

A history is any sequence of `CreateUnit`, `MarkDead` and `ClearExisting` from
the empty pool, of any length. `History` says what a bot may rely on after it;
`pool_history` proves it for every history.
-/

namespace Sc2Api.UnitPool

open Lib

inductive PoolOp
  | createUnit (tag : Tag)
  | markDead (tag : Tag)
  | clearExisting
  deriving DecidableEq, Repr

/-- The tag an operation is about. -/
def PoolOp.tag? : PoolOp → Option Tag
  | .createUnit tag => some tag
  | .markDead tag => some tag
  | .clearExisting => none

/-- The pool as a machine; `CreateUnit` answers with the pointer it returns. -/
def pool : Machine UnitPool PoolOp (Option PoolIndex) where
  step p
    | .createUnit tag => ((p.createUnit tag).2, some (p.createUnit tag).1)
    | .markDead tag => (p.markDead tag, none)
    | .clearExisting => (p.clearExisting, none)

/-- The pool after a history. -/
abbrev after (ops : List PoolOp) : UnitPool := pool.final {} ops

theorem wf_after (ops : List PoolOp) : (after ops).WF :=
  Machine.invariant' (m := pool) (fun p op h => by
    cases op with
    | createUnit t => exact h.createUnit t
    | markDead t => exact h.markDead t
    | clearExisting => exact h.clearExisting) ops WF.empty

/-! ## Which units exist -/

/-- `t` was created after the last `ClearExisting` and not marked dead since. -/
def Exists (t : Tag) (ops : List PoolOp) : Prop :=
  ∃ before rest, ops = before ++ .createUnit t :: rest ∧
    .clearExisting ∉ rest ∧ .markDead t ∉ rest

theorem not_exists_nil (t : Tag) : ¬Exists t [] := fun ⟨before, rest, h, _⟩ => by
  have := congrArg List.length h
  simp at this

/-- How the last operation decides whether a tag exists. -/
theorem exists_concat (t : Tag) (ops : List PoolOp) (op : PoolOp) :
    Exists t (ops ++ [op]) ↔
      op = .createUnit t ∨ (op ≠ .clearExisting ∧ op ≠ .markDead t ∧ Exists t ops) := by
  constructor
  · rintro ⟨before, rest, h, hclear, hdead⟩
    rcases concat_eq_append_cons.1 h with ⟨-, rfl, -⟩ | ⟨rest', rfl, hops⟩
    · exact Or.inl rfl
    · simp only [List.mem_append, List.mem_singleton, not_or] at hclear hdead
      exact Or.inr ⟨fun he => hclear.2 he.symm, fun he => hdead.2 he.symm,
        before, rest', hops, hclear.1, hdead.1⟩
  · rintro (rfl | ⟨hclear, hdead, before, rest, rfl, hc, hd⟩)
    · exact ⟨ops, [], rfl, by simp, by simp⟩
    · refine ⟨before, rest ++ [op], by simp, ?_, ?_⟩
      · simp [hc, Ne.symm hclear]
      · simp [hd, Ne.symm hdead]

/-! ## Pointers -/

/-- A known tag keeps its pointer through any further operation. -/
theorem getUnit_step {p : UnitPool} {t : Tag} {i : PoolIndex} (h : p.getUnit t = some i)
    (op : PoolOp) : (pool.step p op).1.getUnit t = some i := by
  cases op with
  | createUnit t' =>
    show (p.createUnit t').2.getUnit t = some i
    by_cases hne : t = t'
    · subst hne
      rw [createUnit_of_known h]
      exact h
    · rw [getUnit_createUnit_ne _ _ hne, h]
  | markDead t' => exact (getUnit_markDead p t' t).trans h
  | clearExisting => exact h

theorem getUnit_final {p : UnitPool} {t : Tag} {i : PoolIndex} (h : p.getUnit t = some i)
    (ops : List PoolOp) : (pool.final p ops).getUnit t = some i :=
  Machine.invariant' (m := pool) (I := fun p => p.getUnit t = some i)
    (fun _ op h => getUnit_step h op) ops h

/-- A tag is unknown until it is created. -/
theorem getUnit_of_not_created {t : Tag} (ops : List PoolOp) (h : .createUnit t ∉ ops) :
    (after ops).getUnit t = none := by
  have hstep : ∀ (p : UnitPool) (op : PoolOp), op ≠ .createUnit t → p.getUnit t = none →
      (pool.step p op).1.getUnit t = none := by
    intro p op hop hp
    cases op with
    | createUnit t' =>
      exact (getUnit_createUnit_ne p t' fun he => hop (he ▸ rfl)).trans hp
    | markDead t' => exact (getUnit_markDead p t' t).trans hp
    | clearExisting => exact hp
  induction ops using List.reverseRecOn with
  | nil => rfl
  | append_singleton ops op ih =>
    simp only [List.mem_append, List.mem_singleton, not_or] at h
    rw [after, pool.final_concat]
    exact hstep _ op (fun he => h.2 he.symm) (ih h.1)

/-- After a history the existing unit of a tag is the unit it owns while the tag
exists, and null otherwise. -/
theorem getExistingUnit_after (t : Tag) (ops : List PoolOp) :
    (Exists t ops → (after ops).getExistingUnit t = (after ops).getUnit t ∧
        (after ops).getUnit t ≠ none) ∧
      (¬Exists t ops → (after ops).getExistingUnit t = none) := by
  induction ops using List.reverseRecOn with
  | nil => exact ⟨fun h => absurd h (not_exists_nil t), fun _ => rfl⟩
  | append_singleton ops op ih =>
    rw [exists_concat, after, pool.final_concat]
    have hwf := wf_after ops
    unfold after at ih hwf
    generalize pool.final {} ops = p at ih hwf ⊢
    cases op with
    | createUnit t' =>
      show (_ → (p.createUnit t').2.getExistingUnit t = (p.createUnit t').2.getUnit t ∧
        (p.createUnit t').2.getUnit t ≠ none) ∧
          (_ → (p.createUnit t').2.getExistingUnit t = none)
      by_cases hne : t = t'
      · subst hne
        rw [getExistingUnit_createUnit_self, getUnit_createUnit_self]
        simp
      · rw [getExistingUnit_createUnit_ne _ _ hne, getUnit_createUnit_ne _ _ hne]
        have hop : PoolOp.createUnit t' ≠ .createUnit t :=
          fun he => hne (by injection he with h; exact h.symm)
        simpa [hop] using ih
    | markDead t' =>
      show (_ → (p.markDead t').getExistingUnit t = (p.markDead t').getUnit t ∧
        (p.markDead t').getUnit t ≠ none) ∧ (_ → (p.markDead t').getExistingUnit t = none)
      by_cases hne : t = t'
      · subst hne
        rw [hwf.getExistingUnit_markDead_self]
        simp
      · rw [getExistingUnit_markDead_ne _ _ hne, getUnit_markDead]
        have hop : PoolOp.markDead t' ≠ .markDead t :=
          fun he => hne (by injection he with h; exact h.symm)
        simpa [hop] using ih
    | clearExisting =>
      show (_ → p.clearExisting.getExistingUnit t = p.clearExisting.getUnit t ∧
        p.clearExisting.getUnit t ≠ none) ∧ (_ → p.clearExisting.getExistingUnit t = none)
      rw [getExistingUnit_clearExisting]
      simp

/-! ## Records -/

/-- No operation changes the record of a tag it is not about. -/
theorem WF.content_step {p : UnitPool} (hwf : p.WF) (op : PoolOp) {t : Tag}
    (h : op.tag? ≠ some t) : (pool.step p op).1.content t = p.content t := by
  unfold content
  cases op with
  | createUnit t' =>
    have hne : t ≠ t' := fun he => h (he ▸ rfl)
    show ((p.createUnit t').2.getUnit t).bind (p.createUnit t').2.unitPool.read? = _
    rw [getUnit_createUnit_ne _ _ hne]
    cases hi : p.getUnit t with
    | none => rfl
    | some i => exact hwf.read_createUnit t' hi
  | markDead t' =>
    have hne : t ≠ t' := fun he => h (he ▸ rfl)
    show ((p.markDead t').getUnit t).bind (p.markDead t').unitPool.read? = _
    rw [getUnit_markDead]
    cases hi : p.getUnit t with
    | none => rfl
    | some i => exact hwf.read_markDead_ne hne hi
  | clearExisting => rfl

/-- What a bot may rely on after a history of the pool. -/
structure History (ops : List PoolOp) : Prop where
  /-- `CreateUnit` only touches slots of allocated blocks. -/
  inBounds : ∀ before t rest, ops = before ++ .createUnit t :: rest →
    (after (before ++ [.createUnit t])).unitPool.InBounds ((after before).createUnit t).1
  /-- The slot of the first `CreateUnit` of a tag stays the slot of the tag. -/
  stable : ∀ before t rest, ops = before ++ .createUnit t :: rest →
    .createUnit t ∉ before → (after ops).getUnit t = some ((after before).createUnit t).1
  /-- A tag that was never created has no slot. -/
  unknown : ∀ t, .createUnit t ∉ ops → (after ops).getUnit t = none
  /-- Distinct tags own distinct slots. -/
  apart : ∀ t t' i, (after ops).getUnit t = some i → (after ops).getUnit t' = some i → t = t'
  /-- No operation changes the record of another tag. -/
  frame : ∀ before op rest, ops = before ++ op :: rest → ∀ t, op.tag? ≠ some t →
    (after (before ++ [op])).content t = (after before).content t
  /-- The existing unit of a tag. -/
  existing : ∀ t,
    (Exists t ops → (after ops).getExistingUnit t = (after ops).getUnit t ∧
        (after ops).getUnit t ≠ none) ∧
      (¬Exists t ops → (after ops).getExistingUnit t = none)
  /-- `MarkDead` of a known tag clears `is_alive` in the record of that tag. -/
  markDead_known : ∀ t i, (after ops).getUnit t = some i →
    (after (ops ++ [.markDead t])).content t =
      ((after ops).content t).map fun u => { u with isAlive := false }
  /-- `MarkDead` of an unknown tag does nothing. -/
  markDead_unknown : ∀ t, (after ops).getUnit t = none →
    after (ops ++ [.markDead t]) = after ops

/-- Every history of the pool keeps its pointers valid, stable and apart. -/
theorem pool_history (ops : List PoolOp) : History ops where
  inBounds before t rest _ := by
    rw [after, pool.final_concat]
    exact (wf_after before).createUnit_inBounds t
  stable before t rest h _ := by
    subst h
    have hcons : before ++ PoolOp.createUnit t :: rest =
        (before ++ [.createUnit t]) ++ rest := by simp
    rw [hcons, after, pool.final_append]
    apply getUnit_final
    rw [pool.final_concat]
    exact getUnit_createUnit_self _ t
  unknown t h := getUnit_of_not_created ops h
  apart t t' i := (wf_after ops).inj
  frame before op rest _ t h := by
    rw [after, pool.final_concat]
    exact (wf_after before).content_step op h
  existing t := getExistingUnit_after t ops
  markDead_known t i hi := by
    rw [after, pool.final_concat]
    unfold content
    show (((after ops).markDead t).getUnit t).bind ((after ops).markDead t).unitPool.read? = _
    rw [getUnit_markDead, hi]
    exact read_markDead_self hi
  markDead_unknown t h := by
    rw [after, pool.final_concat]
    exact markDead_of_unknown h

/-- A tag that dies and comes back owns the slot it had before. -/
example :
    let ops := [PoolOp.createUnit 7, .createUnit 8, .markDead 7, .clearExisting, .createUnit 7]
    (after ops).getExistingUnit 7 = some ⟨0, 0⟩ ∧ (after ops).getExistingUnit 8 = none := by
  decide

end Sc2Api.UnitPool
