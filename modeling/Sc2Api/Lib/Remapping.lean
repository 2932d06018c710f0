import Sc2Api.Lib.Lists
import Sc2Api.Lib.Machine

/-!
# Lists that are mapped again as they grow

A list grows by batches, some of which begin it anew, and with every batch a function is
applied to all of it, not to the new items alone. Every batch comes with what its list
should then be, as a function of the items that came. `remapper_outputs_iff` says when the
list is that nevertheless, and `remapper_outputs_const_iff` when it always is the image of
the items under one function.
-/

namespace Sc2Api.Lib

universe u

variable {α : Type u}

/-- Items that come together; a `fresh` batch begins the list anew. With the batch, an item
of the list should be its image under `goal`. -/
structure Batch (α : Type u) where
  fresh : Bool
  items : List α
  goal : α → α

namespace Batch

/-- What was there, with a batch. -/
def onto (kept : List α) (b : Batch α) : List α := (if b.fresh then [] else kept) ++ b.items

/-- The items since the last fresh batch. -/
def current (bs : List (Batch α)) : List α := bs.foldl onto []

/-- What a list should be after each of the batches. -/
def Reaches (bs : List (Batch α)) (kept : List α) (lists : List (List α)) : Prop :=
  ∀ k b, bs[k]? = some b → lists[k]? = some (((bs.take (k + 1)).foldl onto kept).map b.goal)

end Batch

/-- Keeps what comes in, and maps all of it with every batch. -/
def remapper (g : α → α) : Machine (List α) (Batch α) (List α) where
  step kept b := ((Batch.onto kept b).map g, (Batch.onto kept b).map g)

variable {g h h' : α → α}

namespace Batch

/-- One batch takes the items from `h` to `h'` exactly when the new ones agree with `h'`
and the kept ones move on to it. -/
theorem map_onto_iff {kept : List α} {b : Batch α} :
    (onto (kept.map h) b).map g = (onto kept b).map h' ↔
      (∀ x ∈ b.items, g x = h' x) ∧ (b.fresh = false → ∀ x ∈ kept, g (h x) = h' x) := by
  unfold onto
  cases hfresh : b.fresh with
  | true => simp
  | false =>
    simp only [Bool.false_eq_true, if_false, List.map_append, List.map_map, true_imp_iff]
    constructor
    · intro heq
      obtain ⟨hkept, hitems⟩ := List.append_inj heq (by simp)
      exact ⟨List.map_inj_left.1 hitems, List.map_inj_left.1 hkept⟩
    · rintro ⟨hitems, hkept⟩
      have hkept' : kept.map (g ∘ h) = kept.map h' := List.map_inj_left.2 hkept
      rw [List.map_inj_left.2 hitems, hkept']

/-- What meets a batch that does not begin anew came with a batch that another one follows
without a break, or was there before. -/
theorem forall_foldl_onto_iff (P : α → Prop) (kept : List α) (bs : List (Batch α)) :
    (∀ k b, bs[k]? = some b → b.fresh = false → ∀ x ∈ (bs.take k).foldl onto kept, P x) ↔
      (∀ b, bs[0]? = some b → b.fresh = false → ∀ x ∈ kept, P x) ∧
      ∀ k b, bs[k]? = some b → ∀ b', bs[k + 1]? = some b' → b'.fresh = false →
        ∀ x ∈ b.items, P x := by
  induction bs generalizing kept with
  | nil => simp
  | cons b bs ih =>
    rw [forall_getElem?_cons, forall_getElem?_cons]
    have htail := ih (onto kept b)
    simp only [List.take_succ_cons, List.foldl_cons, List.take_zero, List.foldl_nil,
      List.getElem?_cons_zero, List.getElem?_cons_succ, Option.some.injEq, forall_eq'] at htail ⊢
    rw [htail]
    constructor
    · rintro ⟨hhead, hnext, hrest⟩
      exact ⟨hhead, fun b' hb' hfresh x hx => hnext b' hb' hfresh x
        (List.mem_append_right _ hx), hrest⟩
    · rintro ⟨hhead, hnext, hrest⟩
      refine ⟨hhead, fun b' hb' hfresh x hx => ?_, hrest⟩
      rcases List.mem_append.1 hx with hx | hx
      · split at hx
        · cases hx
        · exact hhead (Bool.eq_false_iff.2 ‹_›) x hx
      · exact hnext b' hb' hfresh x hx

end Batch

/-- What was there before a fresh batch is of no account. -/
theorem remapper_outputs_of_fresh {kept : List α} {bs : List (Batch α)}
    (hfresh : ∀ b ∈ bs.head?, b.fresh = true) :
    (remapper g).outputs kept bs = (remapper g).outputs [] bs := by
  cases bs with
  | nil => rfl
  | cons b bs =>
    have honto : Batch.onto kept b = Batch.onto [] b := by
      simp [Batch.onto, hfresh b rfl]
    have hstep : (remapper g).step kept b = (remapper g).step [] b :=
      congrArg (fun l => (l.map g, l.map g)) honto
    rw [Machine.outputs_cons, Machine.outputs_cons, hstep]

/-- The list after every batch, from the image of some list on. -/
theorem remapper_outputs_iff_from (kept : List α) (bs : List (Batch α)) :
    Batch.Reaches bs kept ((remapper g).outputs (kept.map h) bs) ↔
      (∀ b, bs[0]? = some b → b.fresh = false → ∀ x ∈ kept, g (h x) = b.goal x) ∧
      (∀ b ∈ bs, ∀ x ∈ b.items, g x = b.goal x) ∧
      ∀ k b, bs[k]? = some b → ∀ b', bs[k + 1]? = some b' → b'.fresh = false →
        ∀ x ∈ (bs.take (k + 1)).foldl Batch.onto kept, g (b.goal x) = b'.goal x := by
  induction bs generalizing kept h with
  | nil => simp [Batch.Reaches]
  | cons b bs ih =>
    have hstep : ((remapper g).step (kept.map h) b).1 = (Batch.onto (kept.map h) b).map g := rfl
    have hout : ((remapper g).step (kept.map h) b).2 = (Batch.onto (kept.map h) b).map g := rfl
    have htail := ih (Batch.onto kept b) (h := b.goal)
    unfold Batch.Reaches at htail ⊢
    rw [forall_getElem?_cons, forall_getElem?_cons]
    simp only [Machine.outputs_cons, hstep, hout, List.getElem?_cons_zero,
      List.getElem?_cons_succ, List.take_succ_cons, List.take_zero, List.foldl_cons,
      List.foldl_nil, Option.some.injEq, List.forall_mem_cons, forall_eq']
    rw [Batch.map_onto_iff, and_assoc, and_left_comm, and_assoc]
    constructor
    · rintro ⟨hkept, hitems, hrest⟩
      rw [Batch.map_onto_iff.2 ⟨hitems, hkept⟩] at hrest
      obtain ⟨hnext, hitems', hrest⟩ := htail.1 hrest
      exact ⟨hkept, hitems, hitems', hnext, hrest⟩
    · rintro ⟨hkept, hitems, hitems', hnext, hrest⟩
      rw [Batch.map_onto_iff.2 ⟨hitems, hkept⟩]
      exact ⟨hkept, hitems, htail.2 ⟨hnext, hitems', hrest⟩⟩

/-- The list is after every batch what it should be exactly when `g` takes what comes in to
the goal, and what is there from one goal to the next. -/
theorem remapper_outputs_iff {bs : List (Batch α)} :
    Batch.Reaches bs [] ((remapper g).outputs [] bs) ↔
      (∀ b ∈ bs, ∀ x ∈ b.items, g x = b.goal x) ∧
      ∀ k b, bs[k]? = some b → ∀ b', bs[k + 1]? = some b' → b'.fresh = false →
        ∀ x ∈ Batch.current (bs.take (k + 1)), g (b.goal x) = b'.goal x := by
  have hfrom := remapper_outputs_iff_from (g := g) (h := g) [] bs
  rw [List.map_nil] at hfrom
  rw [hfrom]
  simp [Batch.current]

/-- With one goal throughout, only items that another batch follows without a break are
mapped again. -/
theorem remapper_outputs_const_iff {bs : List (Batch α)} (hgoal : ∀ b ∈ bs, b.goal = h) :
    Batch.Reaches bs [] ((remapper g).outputs [] bs) ↔
      (∀ b ∈ bs, ∀ x ∈ b.items, g x = h x) ∧
      ∀ k b, bs[k]? = some b → ∀ b', bs[k + 1]? = some b' → b'.fresh = false →
        ∀ x ∈ b.items, g (h x) = h x := by
  have hagain := Batch.forall_foldl_onto_iff (fun x => g (h x) = h x) [] bs
  simp only [List.not_mem_nil, false_imp_iff, implies_true, true_and] at hagain
  rw [remapper_outputs_iff, ← hagain]
  refine and_congr (forall₂_congr fun b hb => by rw [hgoal b hb]) ?_
  constructor
  · intro hmoves k b' hb' hfresh x hx
    cases k with
    | zero => cases hx
    | succ k =>
      obtain ⟨b, hb⟩ : ∃ b, bs[k]? = some b :=
        ⟨_, List.getElem?_eq_getElem (by have := (List.getElem?_eq_some_iff.1 hb').1; omega)⟩
      have hmove := hmoves k b hb b' hb' hfresh x hx
      rwa [hgoal b (List.mem_of_getElem? hb), hgoal b' (List.mem_of_getElem? hb')] at hmove
  · intro hmoves k b hb b' hb' hfresh x hx
    rw [hgoal b (List.mem_of_getElem? hb), hgoal b' (List.mem_of_getElem? hb')]
    exact hmoves (k + 1) b' hb' hfresh x hx

end Sc2Api.Lib
