import Mathlib.Algebra.GroupWithZero.Nat
import Mathlib.Data.List.Destutter
import Mathlib.Data.List.Induction
import Mathlib.Data.List.Perm.Basic

/-!
# Lists

Facts about lists that runs and enumerations use: splitting a list at its last
entry or its first, changing and counting by position, collecting over a filter, sums of
at most one, pulling a rearrangement back along a map, what is left without repetitions, what
comes after a certain entry or last, and mapping in a state.
-/

namespace Sc2Api.Lib

universe u

variable {α β : Type u}

/-- A split of a list with a last entry splits at that entry or before it. -/
theorem concat_eq_append_cons {l before after : List α} {a b : α} :
    l ++ [a] = before ++ b :: after ↔
      (before = l ∧ b = a ∧ after = []) ∨
        ∃ after', after = after' ++ [a] ∧ l = before ++ b :: after' := by
  constructor
  · intro h
    rcases List.eq_nil_or_concat after with rfl | ⟨after', c, rfl⟩
    · obtain ⟨hbefore, hlast⟩ := List.append_inj' h rfl
      exact Or.inl ⟨hbefore.symm, (List.singleton_inj.1 hlast).symm, rfl⟩
    · rw [List.concat_eq_append, ← List.cons_append, ← List.append_assoc] at h
      obtain ⟨hl, hlast⟩ := List.append_inj' h rfl
      obtain rfl := List.singleton_inj.1 hlast
      exact Or.inr ⟨after', List.concat_eq_append, hl⟩
  · rintro (⟨rfl, rfl, rfl⟩ | ⟨after', rfl, rfl⟩)
    · rfl
    · rw [List.append_assoc, List.cons_append]

/-- A fact about the first entry and one about the others are one about all of them. -/
theorem forall_getElem?_cons {P : Nat → α → Prop} {x : α} {l : List α} :
    (∀ k y, (x :: l)[k]? = some y → P k y) ↔ P 0 x ∧ ∀ k y, l[k]? = some y → P (k + 1) y := by
  refine ⟨fun h => ⟨h 0 x rfl, fun k y hk => h (k + 1) y hk⟩, ?_⟩
  rintro ⟨hhead, htail⟩ k y hk
  cases k with
  | zero =>
    obtain rfl : x = y := by simpa using hk
    exact hhead
  | succ k => exact htail k y hk

/-- Changing one entry of a list that is built by position. -/
theorem modify_mapIdx {f : Nat → α → β} {g : β → β} {l : List α} {k : Nat} :
    (l.mapIdx f).modify k g = l.mapIdx fun i x => if k = i then g (f i x) else f i x := by
  refine List.ext_getElem? fun i => ?_
  rw [List.getElem?_modify, List.getElem?_mapIdx, List.getElem?_mapIdx]
  cases l[i]? with
  | none => rfl
  | some x => rfl

/-- What holds of all entries still does when one is replaced by another that has it. -/
theorem forall_mem_replace {P : α → Prop} {before after : List α} {x x' : α}
    (h : ∀ y ∈ before ++ x :: after, P y) (hx : P x') : ∀ y ∈ before ++ x' :: after, P y := by
  rw [List.forall_mem_append, List.forall_mem_cons] at h ⊢
  exact ⟨h.1, hx, h.2.2⟩

/-- What holds of all entries still does with another at the end that has it. -/
theorem forall_mem_concat {P : α → Prop} {l : List α} {x : α} (h : ∀ y ∈ l, P y) (hx : P x) :
    ∀ y ∈ l ++ [x], P y :=
  List.forall_mem_append.2 ⟨h, List.forall_mem_singleton.2 hx⟩

/-- Changing the entry behind a part of the list. -/
theorem modify_append_cons (f : α → α) (before : List α) (x : α) (after : List α) :
    (before ++ x :: after).modify before.length f = before ++ f x :: after := by
  induction before with
  | nil => rfl
  | cons y before ih =>
    rw [List.cons_append, List.length_cons, List.modify_succ_cons, ih, List.cons_append]

/-- What holds at one position only is counted there or not at all. -/
theorem countP_of_position {p : α → Bool} {l : List α} {i : Nat} {x : α} (hx : l[i]? = some x)
    (honly : ∀ k y, l[k]? = some y → p y = true → k = i) :
    l.countP p = if p x then 1 else 0 := by
  induction l generalizing i with
  | nil => simp at hx
  | cons y l ih =>
    rw [List.countP_cons]
    cases i with
    | zero =>
      obtain rfl : y = x := by simpa using hx
      have hrest : l.countP p = 0 := by
        refine List.countP_eq_zero.2 fun z hz hpz => ?_
        obtain ⟨k, hk⟩ := List.getElem?_of_mem hz
        exact absurd (honly (k + 1) z hk hpz) (Nat.succ_ne_zero k)
      rw [hrest, Nat.zero_add]
    | succ i =>
      have hy : ¬p y = true := fun hp => absurd (honly 0 y rfl hp) (Nat.succ_ne_zero i).symm
      rw [if_neg hy, Nat.add_zero]
      exact ih hx fun k z hk hpz => Nat.succ.inj (honly (k + 1) z hk hpz)

/-- Filtering first is skipping the others while collecting. -/
theorem flatMap_filter (p : α → Bool) (f : α → List β) (l : List α) :
    (l.filter p).flatMap f = l.flatMap fun x => if p x then f x else [] := by
  induction l with
  | nil => rfl
  | cons x l ih =>
    rw [List.filter_cons, List.flatMap_cons]
    split
    · rw [List.flatMap_cons, ih]
    · rw [ih, List.nil_append]

/-- Decoding what an encoding makes of the entries, when it decodes each on its own. -/
theorem filterMap_flatMap_eq {γ : Type u} {encode : α → List β} {decode : β → Option γ}
    {value : α → Option γ} (h : ∀ x, (encode x).filterMap decode = (value x).toList)
    (l : List α) : (l.flatMap encode).filterMap decode = l.filterMap value := by
  induction l with
  | nil => rfl
  | cons x l ih =>
    rw [List.flatMap_cons, List.filterMap_append, h, ih, List.filterMap_cons]
    cases value x <;> rfl

/-- Collecting one entry at most from each is filtering. -/
theorem flatMap_eq_filterMap {f : α → List β} {value : α → Option β}
    (h : ∀ x, f x = (value x).toList) (l : List α) : l.flatMap f = l.filterMap value := by
  induction l with
  | nil => rfl
  | cons x l ih =>
    rw [List.flatMap_cons, h, ih, List.filterMap_cons]
    cases value x <;> rfl

/-- Two filters that keep the same entries give the same list when they agree on each. -/
theorem filterMap_eq_filterMap_iff {f g : α → Option β} (h : ∀ x, (f x).isSome = (g x).isSome)
    {l : List α} : l.filterMap f = l.filterMap g ↔ ∀ x ∈ l, f x = g x := by
  induction l with
  | nil => simp
  | cons x l ih =>
    rw [List.filterMap_cons, List.filterMap_cons, List.forall_mem_cons, ← ih]
    have hx := h x
    cases hf : f x with
    | none =>
      rw [hf, Option.isSome_none, Eq.comm, Option.isSome_eq_false_iff, Option.isNone_iff_eq_none]
        at hx
      simp [hx]
    | some y =>
      rw [hf, Option.isSome_some, Eq.comm, Option.isSome_iff_exists] at hx
      obtain ⟨z, hz⟩ := hx
      simp [hz]

/-- A sum of which at most one term is there, and is one. -/
theorem sum_map_le_one {f : α → Nat} {l : List α} (hone : ∀ x ∈ l, f x ≤ 1)
    (hpair : l.Pairwise fun x y => f x = 0 ∨ f y = 0) : (l.map f).sum ≤ 1 := by
  induction hpair with
  | nil => exact Nat.zero_le 1
  | @cons x l hx _ ih =>
    rw [List.map_cons, List.sum_cons]
    have hhead : f x ≤ 1 := hone x List.mem_cons_self
    have htail : (l.map f).sum ≤ 1 := ih fun y hy => hone y (List.mem_cons_of_mem x hy)
    by_cases hzero : f x = 0
    · omega
    · have hrest : (l.map f).sum = 0 := by
        refine List.sum_eq_zero_iff_forall_eq_nat.2 fun n hn => ?_
        obtain ⟨y, hy, rfl⟩ := List.mem_map.1 hn
        exact (hx y hy).resolve_left hzero
      omega

/-- A rearrangement of the images comes from one of the elements. -/
theorem exists_perm_map {f : α → β} {l : List α} {l' : List β} (h : l'.Perm (l.map f)) :
    ∃ m : List α, m.Perm l ∧ m.map f = l' := by
  induction l' generalizing l with
  | nil =>
    have hl : l.map f = [] := List.nil_perm.1 h
    rw [List.map_eq_nil_iff] at hl
    exact ⟨[], by rw [hl], rfl⟩
  | cons y l' ih =>
    have hy : y ∈ l.map f := h.subset List.mem_cons_self
    obtain ⟨x, hx, rfl⟩ := List.mem_map.1 hy
    obtain ⟨l₁, l₂, rfl⟩ := List.append_of_mem hx
    rw [List.map_append, List.map_cons] at h
    have hrest : l'.Perm ((l₁ ++ l₂).map f) := by
      rw [List.map_append]
      exact (h.trans List.perm_middle).cons_inv
    obtain ⟨m, hm, rfl⟩ := ih hrest
    exact ⟨x :: m, (hm.cons x).trans List.perm_middle.symm, rfl⟩

/-- An entry is dropped as a repetition only where its value is that of one that stays. -/
theorem exists_mem_destutter' {γ : Type} [DecidableEq γ] (f : α → γ) (a : α) (l : List α) :
    ∀ b ∈ a :: l, ∃ c ∈ l.destutter' (fun x y => f x ≠ f y) a, f c = f b := by
  induction l generalizing a with
  | nil =>
    intro b hb
    exact ⟨b, hb, rfl⟩
  | cons x l ih =>
    intro b hb
    by_cases h : f a ≠ f x
    · rw [List.destutter'_cons_pos l h]
      rcases List.mem_cons.1 hb with rfl | hb
      · exact ⟨b, List.mem_cons_self, rfl⟩
      · obtain ⟨c, hc, hcb⟩ := ih x b hb
        exact ⟨c, List.mem_cons_of_mem a hc, hcb⟩
    · rw [List.destutter'_cons_neg l h]
      rcases List.mem_cons.1 hb with rfl | hb
      · exact ih b b List.mem_cons_self
      · rcases List.mem_cons.1 hb with rfl | hb
        -- `a` stands for the repetition behind it
        · obtain ⟨c, hc, hca⟩ := ih a a List.mem_cons_self
          exact ⟨c, hc, hca.trans (not_not.1 h)⟩
        · exact ih a b (List.mem_cons_of_mem a hb)

theorem exists_mem_destutter {γ : Type} [DecidableEq γ] (f : α → γ) {l : List α} {b : α}
    (h : b ∈ l) : ∃ c ∈ l.destutter (fun x y => f x ≠ f y), f c = f b := by
  cases l with
  | nil => exact absurd h List.not_mem_nil
  | cons a l => exact exists_mem_destutter' f a l b h

/-! ## What comes after a certain entry, and what comes last -/

/-- The entries after the last one that satisfies `p`. -/
def since (p : α → Bool) (l : List α) : List α :=
  l.foldl (fun after x => if p x then [] else after ++ [x]) []

@[simp] theorem since_nil (p : α → Bool) : since p [] = [] := rfl

theorem since_concat_of_pos {p : α → Bool} {x : α} (h : p x = true) (l : List α) :
    since p (l ++ [x]) = [] := by
  unfold since
  rw [List.foldl_append]
  simp [h]

theorem since_concat_of_neg {p : α → Bool} {x : α} (h : ¬p x = true) (l : List α) :
    since p (l ++ [x]) = since p l ++ [x] := by
  unfold since
  rw [List.foldl_append]
  simp [h]

theorem since_suffix (p : α → Bool) (l : List α) : since p l <:+ l := by
  induction l using List.reverseRecOn with
  | nil => exact List.suffix_rfl
  | append_singleton l x ih =>
    by_cases h : p x = true
    · rw [since_concat_of_pos h]
      exact List.nil_suffix
    · rw [since_concat_of_neg h]
      exact List.suffix_append_self_iff.2 ih

/-- The last value that the entries of a list have. -/
def lastValue (value : α → Option β) (l : List α) : Option β := (l.filterMap value).getLast?

theorem lastValue_append (value : α → Option β) (l l' : List α) :
    lastValue value (l ++ l') = (lastValue value l').or (lastValue value l) := by
  unfold lastValue
  rw [List.filterMap_append, List.getLast?_append]

theorem lastValue_concat (value : α → Option β) (l : List α) (x : α) :
    lastValue value (l ++ [x]) = (value x).or (lastValue value l) := by
  rw [lastValue_append]
  unfold lastValue
  rw [List.filterMap_cons]
  cases value x <;> rfl

theorem lastValue_eq_none_iff {value : α → Option β} {l : List α} :
    lastValue value l = none ↔ ∀ x ∈ l, value x = none := by
  unfold lastValue
  rw [List.getLast?_eq_none_iff, List.filterMap_eq_nil_iff]

theorem lastValue_isSome_iff {value : α → Option β} {l : List α} :
    (lastValue value l).isSome ↔ ∃ x ∈ l, (value x).isSome := by
  rw [Option.isSome_iff_ne_none, ne_eq, lastValue_eq_none_iff]
  simp only [not_forall, exists_prop, Option.isSome_iff_ne_none]

/-- The last value of a list is the last of its end, if there is one in its end. -/
theorem lastValue_eq_iff_of_suffix {value : α → Option β} {l l' : List α} (h : l' <:+ l) :
    lastValue value l = lastValue value l' ↔
      ((∃ x ∈ l, (value x).isSome) → ∃ x ∈ l', (value x).isSome) := by
  rw [← lastValue_isSome_iff, ← lastValue_isSome_iff]
  constructor
  · intro heq hsome
    rwa [← heq]
  · intro himp
    obtain ⟨start, rfl⟩ := h
    rw [lastValue_append] at himp ⊢
    cases hlast : lastValue value l' with
    | some v => rfl
    | none =>
      rw [hlast, Option.none_or] at himp
      rw [Option.none_or]
      exact Option.not_isSome_iff_eq_none.1 fun hsome => Bool.false_ne_true (himp hsome)

theorem eq_of_toList_perm {a b : Option α} (h : a.toList.Perm b.toList) : a = b := by
  cases b with
  | none => exact Option.toList_eq_nil_iff.1 (List.perm_nil.1 h)
  | some y => exact Option.toList_eq_singleton_iff.1 (List.perm_singleton.1 h)

/-! ## Lists mapped in a state -/

section Stateful

variable {σ γ δ : Type} {f : γ → StateM σ δ}

theorem run_mapM_cons (x : γ) (l : List γ) (s : σ) :
    ((x :: l).mapM f).run s =
      (((f x).run s).1 :: ((l.mapM f).run ((f x).run s).2).1,
        ((l.mapM f).run ((f x).run s).2).2) := by
  rw [List.mapM_cons]
  rfl

/-- An invariant of the state holds behind a monadic map. -/
theorem invariant_mapM_run {I : σ → Prop} (hf : ∀ x s, I s → I ((f x).run s).2) (l : List γ)
    {s : σ} (h : I s) : I ((l.mapM f).run s).2 := by
  induction l generalizing s with
  | nil => exact h
  | cons x l ih =>
    rw [run_mapM_cons]
    exact ih (hf x s h)

/-- Results made of entries one after the other, each in the state that the ones before it
leave. -/
inductive InTurn (f : γ → StateM σ δ) : σ → List γ → List δ → σ → Prop
  | nil (s : σ) : InTurn f s [] [] s
  | cons {s t u : σ} {x : γ} {y : δ} {l : List γ} {ys : List δ} (head : (f x).run s = (y, t))
      (tail : InTurn f t l ys u) : InTurn f s (x :: l) (y :: ys) u

theorem InTurn.length_eq {s t : σ} {l : List γ} {ys : List δ} (h : InTurn f s l ys t) :
    l.length = ys.length := by
  induction h with
  | nil => rfl
  | cons _ _ ih => rw [List.length_cons, List.length_cons, ih]

/-- A monadic map makes its results in turn. -/
theorem inTurn_run_mapM (l : List γ) (s : σ) :
    InTurn f s l ((l.mapM f).run s).1 ((l.mapM f).run s).2 := by
  induction l generalizing s with
  | nil => exact .nil s
  | cons x l ih =>
    rw [run_mapM_cons]
    exact .cons rfl (ih _)

end Stateful

end Sc2Api.Lib
