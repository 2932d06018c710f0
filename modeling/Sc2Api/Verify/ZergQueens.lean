import Sc2Api.Lib.Dealing
import Sc2Api.Verify.ZergBot

/-!
# Queens and hatcheries

The complete hatcheries are dealt to the queens in rounds. Behind each round the queen that is
next is passed over: with one complete hatchery every other queen never injects.
-/

namespace Sc2Api

open Lib Program BotM MultiplayerBot

namespace ZergMultiplayerBot

variable {v : BotView} {s : BotState ZergMultiplayerBot} {queens hatcheries : List Unit}

/-- The hatchery can be injected. -/
def isComplete (hatchery : Unit) : Bool := hatchery.buildProgress = 1

/-- What a queen is told at a hatchery, if she is ready. -/
def injection (pair : Unit × Unit) : Option ActionCall :=
  if pair.1.energy ≥ 25 ∧ pair.1.orders.isEmpty then
    some (.unitCommandTarget (some pair.1.tag) .effectInjectLarva (some pair.2.tag) false)
  else none

theorem injectOne_skip {i : Nat} {hatchery : Unit}
    (h : hatchery.buildProgress ≠ 1 ∨ ¬i < queens.length) :
    injectOne queens i hatchery v s = .ok (i, s, []) := by
  unfold injectOne
  rw [if_pos h]
  rfl

theorem injectOne_give {i : Nat} {hatchery : Unit} (hcomplete : hatchery.buildProgress = 1)
    (hi : i < queens.length) :
    injectOne queens i hatchery v s =
      .ok (i + 1, s, (injection (queens[i], hatchery)).toList) := by
  have hqueen : at_ queens i v s = .ok (queens[i], s, []) := by
    unfold at_ elementAt
    rw [List.getElem?_eq_getElem hi]
    rfl
  have hgo : ¬(hatchery.buildProgress ≠ 1 ∨ ¬i < queens.length) :=
    not_or.2 ⟨not_not.2 hcomplete, not_not.2 hi⟩
  unfold injectOne
  rw [if_neg hgo]
  refine bind_of_ok hqueen ?_
  unfold injection
  by_cases hready : queens[i].energy ≥ 25 ∧ queens[i].orders.isEmpty = true
  · unfold when
    rw [if_pos hready, if_pos hready]
    rfl
  · unfold when
    rw [if_neg hready, if_neg hready]
    rfl

/-- The inner loop deals one round. -/
theorem injectEach_eq {i : Nat} (hi : i ≤ queens.length) :
    injectEach queens i hatcheries v s = .ok
      (min (i + (hatcheries.filter isComplete).length) queens.length, s,
        ((queens.drop i).zip (hatcheries.filter isComplete)).filterMap injection) := by
  induction hatcheries generalizing i with
  | nil =>
    have hend : injectEach queens i [] v s = .ok (i, s, []) := rfl
    refine hend.trans ?_
    rw [List.filter_nil, List.zip_nil_right, List.length_nil, Nat.add_zero, Nat.min_eq_left hi]
    rfl
  | cons hatchery hatcheries ih =>
    cases hcomplete : isComplete hatchery with
    | false =>
      have hskip : hatchery.buildProgress ≠ 1 := of_decide_eq_false hcomplete
      refine (bind_of_ok (injectOne_skip (.inl hskip)) (ih hi)).trans ?_
      rw [List.filter_cons_of_neg (Bool.eq_false_iff.1 hcomplete)]
      rfl
    | true =>
      rw [List.filter_cons_of_pos hcomplete]
      rcases Nat.lt_or_ge i queens.length with hlt | hge
      · refine (bind_of_ok (injectOne_give (of_decide_eq_true hcomplete) hlt) (ih hlt)).trans ?_
        have hone (pair : Unit × Unit) (pairs : List (Unit × Unit)) :
            (pair :: pairs).filterMap injection =
              (injection pair).toList ++ pairs.filterMap injection := by
          rw [List.filterMap_cons]
          cases injection pair <;> rfl
        rw [List.drop_eq_getElem_cons hlt, List.zip_cons_cons, hone, List.length_cons,
          Nat.add_right_comm i 1, Nat.add_assoc i]
      · refine (bind_of_ok (injectOne_skip (.inr hge.not_gt)) (ih hi)).trans ?_
        rw [List.drop_eq_nil_of_le hge, List.zip_nil_left, List.zip_nil_left,
          Nat.min_eq_right (by omega), Nat.min_eq_right (by omega)]
        rfl

/-- The outer loop deals what is left of the queens, if it may go on for long enough. -/
theorem injectFrom_eq {fuel i : Nat} (hfuel : queens.length ≤ i + fuel) :
    injectFrom queens hatcheries fuel i v s = .ok (⟨⟩, s,
      (deal (hatcheries.filter isComplete) (queens.drop i)
        (hatcheries.filter isComplete)).filterMap injection) := by
  induction fuel generalizing i with
  | zero =>
    have hnone : queens.drop i = [] := List.drop_eq_nil_of_le hfuel
    rw [hnone]
    rfl
  | succ fuel ih =>
    rcases Nat.lt_or_ge i queens.length with hlt | hge
    · have hround : injectFrom queens hatcheries (fuel + 1) i = (do
          let i ← injectEach queens i hatcheries
          injectFrom queens hatcheries fuel (i + 1)) := if_pos hlt
      have hnext : queens.drop (min (i + (hatcheries.filter isComplete).length)
            queens.length + 1) =
          (queens.drop i).drop ((hatcheries.filter isComplete).length + 1) := by
        rw [List.drop_drop]
        rcases Nat.le_total (i + (hatcheries.filter isComplete).length) queens.length with
          hle | hle
        · rw [Nat.min_eq_left hle, Nat.add_assoc]
        · rw [List.drop_eq_nil_of_le (by omega), List.drop_eq_nil_of_le (by omega)]
      have hfuel' : queens.length ≤ min (i + (hatcheries.filter isComplete).length)
          queens.length + 1 + fuel := by omega
      have hrest := ih hfuel'
      rw [hround]
      refine (bind_of_ok (injectEach_eq hlt.le) hrest).trans ?_
      rw [hnext, deal_eq_append _ (queens.drop i), List.filterMap_append]
    · have hend : injectFrom queens hatcheries (fuel + 1) i = pure ⟨⟩ := if_neg hge.not_gt
      rw [hend, List.drop_eq_nil_of_le hge]
      rfl

/-- The orders for the queens: of `n` complete hatcheries the queen `i` is given the one at the
position `i % (n + 1)`, and none where this is `n`. -/
def injections (queens hatcheries : List Unit) : List ActionCall :=
  (queens.zipIdx.filterMap (dealt (hatcheries.filter isComplete))).filterMap injection

/-- `TryInjectLarva` gives these orders and does nothing else. -/
theorem tryInjectLarva_eq (v : BotView) (s : BotState ZergMultiplayerBot) :
    tryInjectLarva v s = .ok (⟨⟩, s,
      injections (v.getUnits .self (isUnit .zergQueen)) (v.getUnits .self isTownHall)) := by
  have hrest : ∀ queens hatcheries : List Unit,
      (if queens.isEmpty = true ∨ hatcheries.isEmpty = true then pure ⟨⟩
        else injectFrom queens hatcheries queens.length 0 : ZergM PUnit) v s =
        .ok (⟨⟩, s, injections queens hatcheries) := by
    intro queens hatcheries
    by_cases hnone : queens.isEmpty = true ∨ hatcheries.isEmpty = true
    · have hnothing : injections queens hatcheries = [] := by
        unfold injections
        rcases hnone with hnone | hnone
        · rw [List.isEmpty_iff.1 hnone]
          rfl
        · have hempty : queens.zipIdx.filterMap (dealt ([] : List Unit)) = [] :=
            List.filterMap_eq_nil_iff.2 fun _ _ => rfl
          rw [List.isEmpty_iff.1 hnone, List.filter_nil, hempty]
          rfl
      rw [if_pos hnone, hnothing]
      rfl
    · have hdeals : injections queens hatcheries = (deal (hatcheries.filter isComplete)
          (queens.drop 0) (hatcheries.filter isComplete)).filterMap injection := by
        rw [List.drop_zero, deal_eq_filterMap]
        rfl
      rw [if_neg hnone, hdeals]
      exact injectFrom_eq (Nat.zero_add _).ge
  have hqueens : (getUnits .self (isUnit .zergQueen) : ZergM _) v s =
      .ok (v.getUnits .self (isUnit .zergQueen), s, []) := rfl
  have hhatcheries : (getUnits .self isTownHall : ZergM _) v s =
      .ok (v.getUnits .self isTownHall, s, []) := rfl
  exact bind_of_ok hqueens (bind_of_ok hhatcheries (hrest _ _))

end ZergMultiplayerBot

end Sc2Api
