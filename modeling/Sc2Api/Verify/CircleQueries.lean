import Mathlib.Algebra.Order.Floor.Semiring
import Mathlib.Algebra.Order.Field.Basic
import Mathlib.Tactic.Linarith
import Sc2Api.Lib.Lists
import Sc2Api.Search

/-!
# Queries on a circle

`CalculateQueries` takes a sample at each multiple of the step size below 360 degrees, and
appends a query for those in another cell than the sample before. The sample before may not be
the last one that was appended, but it is in the same cell: what is appended are the samples
without the repetitions of a cell.
-/

namespace Sc2Api.Search

open Lib

variable (cos sin : CFloat → CFloat) (radius stepSize : CFloat) (center : Point2D)

def placementQuery (point : Point2D) : PlacementQuery :=
  { ability := buildCommandCenter, targetPos := point }

/-- The queries for a number of samples from `loc` on. -/
def sampleQueries : Nat → CFloat → Point2D → List PlacementQuery
  | 0, _, _ => []
  | samples + 1, loc, previousGrid =>
    let point := circlePoint cos sin radius center loc
    if previousGrid ≠ gridCell point then
      placementQuery point :: sampleQueries samples (loc + stepSize) (gridCell point)
    else sampleQueries samples (loc + stepSize) (gridCell point)

/-- The number of samples below 360 degrees. -/
def sampleCount : Nat := ⌈360 / stepSize⌉₊

/-- The queries that `CalculateQueries` makes where there are none yet. -/
def circleQueries : List PlacementQuery :=
  ((calculateQueries cos sin (sampleCount stepSize + 1) radius stepSize center []).map
    (·.1)).getD []

variable {cos sin radius stepSize center}

/-! ## The turns of the loop -/

theorem below_succ {k : Nat} {loc : CFloat} (h : ∀ j < k + 1, loc + j * stepSize < 360) :
    ∀ j < k, loc + stepSize + j * stepSize < 360 := by
  intro j hj
  have := h (j + 1) (Nat.succ_lt_succ hj)
  push_cast at this
  linarith

/-- The loop ends after the samples below 360 degrees. -/
theorem queriesLoop_eq {k turns : Nat} {loc : CFloat} (previousGrid : Point2D)
    (queries : List PlacementQuery) (validQueries : Nat)
    (hbelow : ∀ j < k, loc + j * stepSize < 360) (habove : 360 ≤ loc + k * stepSize)
    (hturns : k < turns) :
    queriesLoop cos sin radius stepSize center turns loc previousGrid queries validQueries =
      some (queries ++ sampleQueries cos sin radius stepSize center k loc previousGrid,
        validQueries +
          (sampleQueries cos sin radius stepSize center k loc previousGrid).length) := by
  induction k generalizing turns loc previousGrid queries validQueries with
  | zero =>
    obtain ⟨turns, rfl⟩ := Nat.exists_eq_add_one_of_ne_zero hturns.ne'
    have hloc : ¬loc < 360 := by
      rw [Nat.cast_zero, zero_mul, add_zero] at habove
      exact habove.not_gt
    rw [queriesLoop, if_neg hloc, sampleQueries, List.append_nil]
    rfl
  | succ k ih =>
    obtain ⟨turns, rfl⟩ := Nat.exists_eq_add_one_of_ne_zero (Nat.ne_zero_of_lt hturns)
    have hloc : loc < 360 := by simpa using hbelow 0 (Nat.succ_pos k)
    have habove' : 360 ≤ loc + stepSize + k * stepSize := by
      push_cast at habove
      linarith
    have hrest (queries validQueries) := ih (gridCell (circlePoint cos sin radius center loc))
      queries validQueries (below_succ hbelow) habove' (Nat.lt_of_succ_lt_succ hturns)
    rw [queriesLoop, if_pos hloc, sampleQueries]
    dsimp only
    by_cases hgrid : previousGrid ≠ gridCell (circlePoint cos sin radius center loc)
    · rw [if_pos hgrid, if_pos hgrid, hrest, List.append_assoc, List.singleton_append,
        List.length_cons, Nat.add_right_comm, Nat.add_assoc]
      rfl
    · rw [if_neg hgrid, if_neg hgrid, hrest]

/-- It does not end while there are samples left. -/
theorem queriesLoop_eq_none {k turns : Nat} {loc : CFloat} (previousGrid : Point2D)
    (queries : List PlacementQuery) (validQueries : Nat)
    (hbelow : ∀ j < k, loc + j * stepSize < 360) (hturns : turns ≤ k) :
    queriesLoop cos sin radius stepSize center turns loc previousGrid queries validQueries =
      none := by
  induction turns generalizing k loc previousGrid queries validQueries with
  | zero => rfl
  | succ turns ih =>
    obtain ⟨k, rfl⟩ := Nat.exists_eq_add_one_of_ne_zero (Nat.ne_zero_of_lt hturns)
    have hloc : loc < 360 := by simpa using hbelow 0 (Nat.succ_pos k)
    have hrest (queries validQueries) := ih (gridCell (circlePoint cos sin radius center loc))
      queries validQueries (below_succ hbelow) (Nat.le_of_succ_le_succ hturns)
    rw [queriesLoop, if_pos hloc]
    dsimp only
    split
    · exact hrest _ _
    · exact hrest _ _

theorem lt_of_lt_sampleCount (hstep : 0 < stepSize) :
    ∀ j < sampleCount stepSize, (0 : CFloat) + j * stepSize < 360 := by
  intro j hj
  rw [zero_add]
  exact (lt_div_iff₀ hstep).1 (Nat.lt_ceil.1 hj)

theorem le_sampleCount_mul (hstep : 0 < stepSize) :
    (360 : CFloat) ≤ 0 + sampleCount stepSize * stepSize := by
  rw [zero_add]
  exact (div_le_iff₀ hstep).1 (Nat.le_ceil _)

theorem circleQueries_eq_sampleQueries (hstep : 0 < stepSize) :
    circleQueries cos sin radius stepSize center =
      sampleQueries cos sin radius stepSize center (sampleCount stepSize) 0
        ⟨floatMax, floatMax⟩ := by
  unfold circleQueries calculateQueries
  rw [queriesLoop_eq _ _ _ (lt_of_lt_sampleCount hstep) (le_sampleCount_mul hstep)
    (Nat.lt_succ_self _)]
  rfl

/-- With a positive step size the queries are appended in the turns for all samples. -/
theorem calculateQueries_eq (hstep : 0 < stepSize) {turns : Nat}
    (hturns : sampleCount stepSize < turns) (queries : List PlacementQuery) :
    calculateQueries cos sin turns radius stepSize center queries =
      some (queries ++ circleQueries cos sin radius stepSize center,
        (circleQueries cos sin radius stepSize center).length) := by
  rw [circleQueries_eq_sampleQueries hstep]
  unfold calculateQueries
  rw [queriesLoop_eq _ _ _ (lt_of_lt_sampleCount hstep) (le_sampleCount_mul hstep) hturns,
    Nat.zero_add]

theorem calculateQueries_eq_none_iff (hstep : 0 < stepSize) {turns : Nat}
    {queries : List PlacementQuery} :
    calculateQueries cos sin turns radius stepSize center queries = none ↔
      turns ≤ sampleCount stepSize := by
  constructor
  · intro h
    by_contra hturns
    rw [calculateQueries_eq hstep (Nat.lt_of_not_le hturns)] at h
    exact Option.some_ne_none _ h
  · exact queriesLoop_eq_none _ _ _ (lt_of_lt_sampleCount hstep)

/-! ## The samples -/

variable (cos sin radius stepSize center)

/-- A number of points on the circle, one step apart from `loc` on. -/
def samplesFrom (loc : CFloat) (count : Nat) : List Point2D :=
  (List.range count).map fun j : Nat => circlePoint cos sin radius center (loc + j * stepSize)

/-- The points below 360 degrees. -/
def samples : List Point2D :=
  samplesFrom cos sin radius stepSize center 0 (sampleCount stepSize)

/-- The sampled points without those in the cell of the one before. -/
def distinctSamples : List Point2D :=
  (samples cos sin radius stepSize center).destutter fun p q => gridCell p ≠ gridCell q

variable {cos sin radius stepSize center}

theorem samplesFrom_succ (loc : CFloat) (count : Nat) :
    samplesFrom cos sin radius stepSize center loc (count + 1) =
      circlePoint cos sin radius center loc ::
        samplesFrom cos sin radius stepSize center (loc + stepSize) count := by
  unfold samplesFrom
  rw [List.range_succ_eq_map, List.map_cons, List.map_map, Nat.cast_zero, zero_mul, add_zero]
  congr 1
  refine List.map_congr_left fun j _ => ?_
  have hloc : loc + (j.succ : CFloat) * stepSize = loc + stepSize + j * stepSize := by
    push_cast
    ring
  exact congrArg (circlePoint cos sin radius center) hloc

/-- The loop keeps the cell of the last point that stays. -/
theorem cons_sampleQueries (count : Nat) (loc : CFloat) (p : Point2D) :
    placementQuery p :: sampleQueries cos sin radius stepSize center count loc (gridCell p) =
      ((samplesFrom cos sin radius stepSize center loc count).destutter'
        (fun p q => gridCell p ≠ gridCell q) p).map placementQuery := by
  induction count generalizing loc p with
  | zero => rfl
  | succ count ih =>
    rw [samplesFrom_succ, sampleQueries, List.destutter'_cons]
    by_cases hgrid : gridCell p ≠ gridCell (circlePoint cos sin radius center loc)
    · rw [if_pos hgrid, if_pos hgrid, List.map_cons, ih]
    · rw [if_neg hgrid, if_neg hgrid, ← not_not.1 hgrid, ih]

/-- From a cell that is none of the first sample, the queries are those for the samples without
repetitions. -/
theorem circleQueries_eq (hstep : 0 < stepSize)
    (hsentinel : gridCell (circlePoint cos sin radius center 0) ≠ ⟨floatMax, floatMax⟩) :
    circleQueries cos sin radius stepSize center =
      (distinctSamples cos sin radius stepSize center).map placementQuery := by
  rw [circleQueries_eq_sampleQueries hstep]
  unfold distinctSamples samples
  cases sampleCount stepSize with
  | zero => rfl
  | succ count =>
    rw [samplesFrom_succ, List.destutter_cons', ← cons_sampleQueries, sampleQueries,
      if_pos hsentinel.symm]

/-- The samples are as many as there are steps below 360 degrees, and the loop ends after them.
It appends the queries for a part of them where no two neighbours are in one cell, and in which
every cell of a sample is, and returns their number. -/
theorem calculateQueries_samples (hstep : 0 < stepSize)
    (hsentinel : gridCell (circlePoint cos sin radius center 0) ≠ ⟨floatMax, floatMax⟩) :
    (samples cos sin radius stepSize center).length = ⌈360 / stepSize⌉₊ ∧
    (∀ turns queries, calculateQueries cos sin turns radius stepSize center queries = none ↔
      turns ≤ ⌈360 / stepSize⌉₊) ∧
    ∃ points : List Point2D,
      (∀ turns queries, ⌈360 / stepSize⌉₊ < turns →
        calculateQueries cos sin turns radius stepSize center queries =
          some (queries ++ points.map placementQuery, points.length)) ∧
      points.Sublist (samples cos sin radius stepSize center) ∧
      points.IsChain (fun p q => gridCell p ≠ gridCell q) ∧
      ∀ p ∈ samples cos sin radius stepSize center, ∃ q ∈ points, gridCell q = gridCell p := by
  refine ⟨by simp [samples, samplesFrom, sampleCount],
    fun _ _ => calculateQueries_eq_none_iff hstep,
    distinctSamples cos sin radius stepSize center, ?_, ?_, ?_, ?_⟩
  · intro turns queries hturns
    rw [calculateQueries_eq hstep hturns, circleQueries_eq hstep hsentinel, List.length_map]
  · exact List.destutter_sublist _ _
  · exact List.isChain_destutter _ _
  · intro p hp
    exact exists_mem_destutter gridCell hp

/-- Three samples in two cells, the last two in one. -/
theorem calculateQueries_samples_three :
    (∀ turns queries, calculateQueries (fun angle => if angle = 0 then 1 else 0) (fun _ => 0) turns
      1 120 {} queries = none ↔ turns ≤ 3) ∧
    ∃ points : List Point2D,
      (∀ turns queries, 3 < turns →
        calculateQueries (fun angle => if angle = 0 then 1 else 0) (fun _ => 0) turns 1 120 {}
          queries = some (queries ++ points.map placementQuery, points.length)) ∧
      points.IsChain fun p q => gridCell p ≠ gridCell q := by
  have hcount : ⌈(360 : CFloat) / 120⌉₊ = 3 := by norm_num
  obtain ⟨-, hnone, points, hpoints, -, hchain, -⟩ :=
    @calculateQueries_samples (fun angle => if angle = 0 then 1 else 0) (fun _ => 0) 1 120 {}
      (by norm_num) (by decide +kernel)
  rw [hcount] at hnone hpoints
  exact ⟨hnone, points, hpoints, hchain⟩

end Sc2Api.Search
