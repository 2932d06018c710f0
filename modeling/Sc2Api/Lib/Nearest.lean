import Mathlib.Data.List.Perm.Basic
import Mathlib.Data.List.Range
import Mathlib.Order.Lattice
import Sc2Api.Lib.Lists

/-!
# Nearest entries

A scan of a list that keeps the first entry of the least value below a bound, a scan of a sorted
list from its end, and the greedy grouping of a list: each entry joins the group whose centre is
nearest to it at that time, if that is near enough, and opens a new group otherwise.
-/

namespace Sc2Api.Lib

universe u v w

/-! ## Scans -/

section Scan

variable {α : Type u} {𝕜 : Type v} [LinearOrder 𝕜] (value : α → 𝕜)

/-- The loop `if (value(x) < least) { least = value(x); entry = &x; }`. -/
def leastBelow (bound : 𝕜) (l : List α) : 𝕜 × Option α :=
  l.foldl (fun best x => if value x < best.1 then (value x, some x) else best) (bound, none)

/-- `x` is the first entry of the list that has the least value, which is below the bound. -/
structure FirstLeast (bound : 𝕜) (before : List α) (x : α) (after : List α) : Prop where
  lt_bound : value x < bound
  lt_before : ∀ y ∈ before, value x < value y
  le_after : ∀ y ∈ after, value x ≤ value y

variable {value} {bound : 𝕜} {l : List α}

theorem leastBelow_concat (x : α) :
    leastBelow value bound (l ++ [x]) =
      if value x < (leastBelow value bound l).1 then (value x, some x)
      else leastBelow value bound l := by
  unfold leastBelow
  rw [List.foldl_append]
  rfl

/-- Nothing is below the bound, or the scan ends with the first entry of the least value. -/
theorem leastBelow_cases (value : α → 𝕜) (bound : 𝕜) (l : List α) :
    (leastBelow value bound l = (bound, none) ∧ ∀ y ∈ l, bound ≤ value y) ∨
      ∃ before x after, l = before ++ x :: after ∧ FirstLeast value bound before x after ∧
        leastBelow value bound l = (value x, some x) := by
  induction l using List.reverseRecOn with
  | nil => exact Or.inl ⟨rfl, fun y hy => absurd hy List.not_mem_nil⟩
  | append_singleton l z ih =>
    rw [leastBelow_concat]
    obtain ⟨hscan, hall⟩ | ⟨before, x, after, rfl, hleast, hscan⟩ := ih
    · rw [hscan]
      rcases lt_or_ge (value z) bound with hz | hz
      · refine Or.inr ⟨l, z, [], rfl, ⟨hz, ?_, nofun⟩, if_pos hz⟩
        exact fun y hy => hz.trans_le (hall y hy)
      · exact Or.inl ⟨if_neg hz.not_gt, forall_mem_concat hall hz⟩
    · rw [hscan]
      rcases lt_or_ge (value z) (value x) with hz | hz
      · refine Or.inr ⟨_, z, [], rfl, ⟨hz.trans hleast.lt_bound, ?_, nofun⟩, if_pos hz⟩
        intro y hy
        rcases List.mem_append.1 hy with hy | hy
        · exact hz.trans (hleast.lt_before y hy)
        · rcases List.mem_cons.1 hy with rfl | hy
          · exact hz
          · exact hz.trans_le (hleast.le_after y hy)
      · refine Or.inr ⟨before, x, after ++ [z], ?_, ⟨hleast.lt_bound, hleast.lt_before, ?_⟩,
          if_neg hz.not_gt⟩
        · rw [List.append_assoc, List.cons_append]
        · exact forall_mem_concat hleast.le_after hz

/-- The scan over the entries with their positions. -/
theorem leastBelow_zipIdx_cases (value : α → 𝕜) (bound : 𝕜) (l : List α) :
    (leastBelow (fun entry => value entry.1) bound l.zipIdx = (bound, none) ∧
        ∀ y ∈ l, bound ≤ value y) ∨
      ∃ before x after, l = before ++ x :: after ∧ FirstLeast value bound before x after ∧
        leastBelow (fun entry => value entry.1) bound l.zipIdx =
          (value x, some (x, before.length)) := by
  have hmem {k : Nat} {l : List α} {y : α} (hy : y ∈ l) : ∃ i, (y, i) ∈ l.zipIdx k := by
    rw [← List.zipIdx_map_fst k l] at hy
    obtain ⟨⟨_, i⟩, hi, rfl⟩ := List.mem_map.1 hy
    exact ⟨i, hi⟩
  obtain ⟨hscan, hall⟩ | ⟨before', ⟨x, i⟩, after', hsplit, hleast, hscan⟩ :=
    leastBelow_cases (fun entry : α × Nat => value entry.1) bound l.zipIdx
  · refine Or.inl ⟨hscan, fun y hy => ?_⟩
    obtain ⟨i, hi⟩ := hmem hy
    exact hall (y, i) hi
  · obtain ⟨before, rest, rfl, rfl, hrest⟩ := List.zipIdx_eq_append_iff.1 hsplit
    obtain ⟨_, after, rfl, hx, rfl⟩ := List.zipIdx_eq_cons_iff.1 hrest.symm
    obtain ⟨rfl, rfl⟩ := Prod.mk.inj hx
    refine Or.inr ⟨before, x, after, rfl, ⟨hleast.lt_bound, ?_, ?_⟩, ?_⟩
    · intro y hy
      obtain ⟨i, hi⟩ := hmem hy
      exact hleast.lt_before (y, i) hi
    · intro y hy
      obtain ⟨i, hi⟩ := hmem hy
      exact hleast.le_after (y, i) hi
    · rw [hscan, Nat.zero_add]

theorem FirstLeast.le {before after : List α} {x : α} (h : FirstLeast value bound before x after)
    {y : α} (hy : y ∈ before ++ x :: after) : value x ≤ value y := by
  rcases List.mem_append.1 hy with hy | hy
  · exact (h.lt_before y hy).le
  · rcases List.mem_cons.1 hy with rfl | hy
    · exact le_rfl
    · exact h.le_after y hy

/-- The scan finds nothing, or an entry of the list that has the least value. -/
theorem leastBelow_spec (value : α → 𝕜) (bound : 𝕜) (l : List α) :
    (leastBelow value bound l = (bound, none) ∧ ∀ y ∈ l, bound ≤ value y) ∨
      ∃ x ∈ l, leastBelow value bound l = (value x, some x) ∧ value x < bound ∧
        ∀ y ∈ l, value x ≤ value y := by
  obtain hnone | ⟨before, x, after, rfl, hleast, hscan⟩ := leastBelow_cases value bound l
  · exact Or.inl hnone
  · refine Or.inr ⟨x, List.mem_append_right _ List.mem_cons_self, hscan, hleast.lt_bound, ?_⟩
    exact fun y hy => hleast.le hy

end Scan

/-! ## Sorted lists -/

section Sorted

variable {α : Type u} [LinearOrder α] {p : α → Bool} {l : List α}

/-- From its end a sorted list is searched for the greatest entry. -/
theorem greatest_of_find? {x : α}
    (h : (l.mergeSort fun a b => decide (a ≤ b)).reverse.find? p = some x) :
    x ∈ l ∧ p x = true ∧ ∀ y ∈ l, p y = true → y ≤ x := by
  obtain ⟨hx, before, after, hsplit, hbefore⟩ := List.find?_eq_some_iff_append.1 h
  have hmem {y : α} : y ∈ l ↔ y ∈ before ++ x :: after := by
    rw [← hsplit, List.mem_reverse, List.mem_mergeSort]
  have hsorted : (l.mergeSort fun a b => decide (a ≤ b)).Pairwise (· ≤ ·) := by
    have hle : (l.mergeSort fun a b => decide (a ≤ b)).Pairwise
        fun a b => decide (a ≤ b) = true := List.pairwise_mergeSort
      (fun a b c hab hbc => decide_eq_true ((of_decide_eq_true hab).trans (of_decide_eq_true hbc)))
      (fun a b => by simpa using le_total a b) l
    exact hle.imp of_decide_eq_true
  have hreverse := List.pairwise_reverse.2 hsorted
  rw [hsplit] at hreverse
  refine ⟨hmem.2 (List.mem_append_right _ List.mem_cons_self), hx, fun y hy hpy => ?_⟩
  rcases List.mem_append.1 (hmem.1 hy) with hy | hy
  · have := hbefore y hy
    rw [hpy] at this
    cases this
  · rcases List.mem_cons.1 hy with rfl | hy
    · exact le_rfl
    · exact List.rel_of_pairwise_cons (List.pairwise_append.1 hreverse).2.1 hy

end Sorted

/-! ## Groups -/

section Groups

variable {α : Type u}

/-- The groups are the entries at certain positions: every position is in one group, the
positions of a group ascend and so do those of the first entries. -/
structure Partitioned (l : List α) (groups : List (List α)) (positions : List (List Nat)) :
    Prop where
  perm : positions.flatten.Perm (List.range l.length)
  nonempty : ∀ part ∈ positions, part ≠ []
  ascending : ∀ part ∈ positions, part.Pairwise (· < ·)
  heads : (positions.filterMap List.head?).Pairwise (· < ·)
  groups : groups = positions.map fun part => part.filterMap (l[·]?)

/-- Groups as they come about when each entry in turn joins the nearest one, if it is near. -/
inductive Greedy {P : Type v} {𝕜 : Type w} [LinearOrder 𝕜] (centre : List α → P)
    (dist : α → P → 𝕜) (near : 𝕜 → Prop) : List α → List (List α) → Prop
  | nil : Greedy centre dist near [] []
  | join {l before group after x} (earlier : Greedy centre dist near l (before ++ group :: after))
      (isNear : near (dist x (centre group)))
      (lt_before : ∀ other ∈ before, dist x (centre group) < dist x (centre other))
      (le_after : ∀ other ∈ after, dist x (centre group) ≤ dist x (centre other)) :
      Greedy centre dist near (l ++ [x]) (before ++ (group ++ [x]) :: after)
  | start {l groups x} (earlier : Greedy centre dist near l groups)
      (none_near : ∀ other ∈ groups, ¬near (dist x (centre other))) :
      Greedy centre dist near (l ++ [x]) (groups ++ [[x]])

variable {l : List α} {groups : List (List α)} {positions : List (List Nat)}

theorem Partitioned.lt_length (h : Partitioned l groups positions) {part : List Nat}
    (hpart : part ∈ positions) {i : Nat} (hi : i ∈ part) : i < l.length :=
  List.mem_range.1 (h.perm.subset (List.mem_flatten.2 ⟨part, hpart, hi⟩))

/-- A longer list has the same entries at the positions of the shorter one. -/
theorem Partitioned.filterMap_concat (h : Partitioned l groups positions) (x : α)
    {part : List Nat} (hpart : part ∈ positions) :
    part.filterMap ((l ++ [x])[·]?) = part.filterMap (l[·]?) :=
  List.filterMap_congr fun _ hi => List.getElem?_append_left (h.lt_length hpart hi)

theorem Partitioned.nil : Partitioned ([] : List α) [] [] :=
  ⟨List.Perm.nil, nofun, nofun, List.Pairwise.nil, rfl⟩

/-- The new entry at the end of a group. -/
theorem Partitioned.join {before after : List (List Nat)} {part : List Nat}
    (h : Partitioned l groups (before ++ part :: after)) (x : α) :
    Partitioned (l ++ [x])
      (before.map (·.filterMap (l[·]?)) ++ (part.filterMap (l[·]?) ++ [x]) ::
        after.map (·.filterMap (l[·]?)))
      (before ++ (part ++ [l.length]) :: after) where
  perm := by
    rw [List.length_append, List.length_singleton, List.range_succ]
    refine List.Perm.trans ?_ (h.perm.append_right [l.length])
    rw [List.flatten_append, List.flatten_append, List.flatten_cons, List.flatten_cons,
      List.append_assoc, List.append_assoc, List.append_assoc]
    exact (List.perm_append_comm.append_left part).append_left before.flatten
  nonempty := forall_mem_replace h.nonempty
    (List.append_ne_nil_of_right_ne_nil _ (List.cons_ne_nil _ _))
  ascending := by
    have hpart : part ∈ before ++ part :: after := List.mem_append_right _ List.mem_cons_self
    refine forall_mem_replace h.ascending (List.pairwise_append.2
      ⟨h.ascending part hpart, List.pairwise_singleton _ _, ?_⟩)
    intro i hi j hj
    rw [List.mem_singleton.1 hj]
    exact h.lt_length hpart hi
  heads := by
    have hne : part ≠ [] := h.nonempty part (List.mem_append_right _ List.mem_cons_self)
    have hhead : (part ++ [l.length]).head? = part.head? := List.head?_append_of_ne_nil part hne
    have hheads := h.heads
    rw [List.filterMap_append, List.filterMap_cons] at hheads ⊢
    rwa [hhead]
  groups := by
    have hpart : part ∈ before ++ part :: after := List.mem_append_right _ List.mem_cons_self
    have hnew : [l.length].filterMap ((l ++ [x])[·]?) = [x] := by
      rw [List.filterMap_cons, List.getElem?_concat_length]
      rfl
    rw [List.map_append, List.map_cons, List.filterMap_append, hnew, h.filterMap_concat x hpart]
    congr 1
    · refine (List.map_congr_left fun part' hpart' => ?_).symm
      exact h.filterMap_concat x (List.mem_append_left _ hpart')
    · refine congrArg _ (List.map_congr_left fun part' hpart' => ?_).symm
      exact h.filterMap_concat x (List.mem_append_right _ (List.mem_cons_of_mem _ hpart'))

/-- The new entry in a group of its own. -/
theorem Partitioned.start (h : Partitioned l groups positions) (x : α) :
    Partitioned (l ++ [x]) (groups ++ [[x]]) (positions ++ [[l.length]]) where
  perm := by
    rw [List.length_append, List.length_singleton, List.range_succ, List.flatten_append]
    exact h.perm.append_right [l.length]
  nonempty := forall_mem_concat h.nonempty (List.cons_ne_nil _ _)
  ascending := forall_mem_concat h.ascending (List.pairwise_singleton _ _)
  heads := by
    rw [List.filterMap_append]
    refine List.pairwise_append.2 ⟨h.heads, List.pairwise_singleton _ _, ?_⟩
    intro i hi j hj
    obtain ⟨part, hpart, hhead⟩ := List.mem_filterMap.1 hi
    rw [List.mem_singleton.1 hj]
    exact h.lt_length hpart (List.mem_of_mem_head? hhead)
  groups := by
    have hnew : [l.length].filterMap ((l ++ [x])[·]?) = [x] := by
      rw [List.filterMap_cons, List.getElem?_concat_length]
      rfl
    rw [List.map_append, List.map_singleton, hnew, h.groups]
    congr 1
    exact (List.map_congr_left fun part hpart => h.filterMap_concat x hpart).symm

theorem Greedy.partitioned {P : Type v} {𝕜 : Type w} [LinearOrder 𝕜] {centre : List α → P}
    {dist : α → P → 𝕜} {near : 𝕜 → Prop} (h : Greedy centre dist near l groups) :
    ∃ positions, Partitioned l groups positions := by
  induction h with
  | nil => exact ⟨[], .nil⟩
  | @join l before group after x _ _ _ _ ih =>
    obtain ⟨positions, hpart⟩ := ih
    obtain ⟨before', rest, rfl, rfl, hrest⟩ := List.map_eq_append_iff.1 hpart.groups.symm
    obtain ⟨part, after', rfl, rfl, rfl⟩ := List.map_eq_cons_iff.1 hrest
    exact ⟨_, hpart.join x⟩
  | start _ _ ih =>
    obtain ⟨positions, hpart⟩ := ih
    exact ⟨_, hpart.start _⟩

/-- Where nothing is ever near, every entry is in a group of its own. -/
theorem Greedy.eq_singletons {P : Type v} {𝕜 : Type w} [LinearOrder 𝕜] {centre : List α → P}
    {dist : α → P → 𝕜} {near : 𝕜 → Prop} (h : Greedy centre dist near l groups)
    (hfar : ∀ x p, ¬near (dist x p)) : groups = l.map fun x => [x] := by
  induction h with
  | nil => rfl
  | join _ isNear _ _ _ => exact absurd isNear (hfar _ _)
  | start _ _ ih => rw [List.map_append, List.map_singleton, ih]

end Groups

end Sc2Api.Lib
