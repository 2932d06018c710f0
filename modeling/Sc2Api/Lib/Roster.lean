import Mathlib.Data.List.Basic

/-!
# Rosters

Who is present after a history of arrivals and departures. An arrival stays until a
departure of its name that no earlier arrival took: `present` reads this off the whole
history, and `note` keeps a list up to date, change by change.
-/

namespace Sc2Api.Lib

universe u

inductive Change (α : Type u)
  | arrival (name : α)
  | departure (name : α)
  deriving DecidableEq, Repr

namespace Roster

variable {α : Type u} [DecidableEq α]

/-- Who has arrived and not departed, in the order of arrival. -/
def present : List (Change α) → List α
  | [] => []
  | .departure _ :: changes => present changes
  | .arrival a :: changes =>
    if .departure a ∈ changes then present (changes.erase (.departure a))
    else a :: present changes
termination_by changes => changes.length
decreasing_by
  all_goals grind [List.length_erase_le]

/-- A roster that is kept: arrivals go to its end, a departure strikes the first of its name. -/
def note (names : List α) : Change α → List α
  | .arrival a => names ++ [a]
  | .departure a => names.erase a

section Present

variable (names : List α) (changes : List (Change α)) (a : α)

@[simp] theorem present_nil : present ([] : List (Change α)) = [] := by
  rw [present]

@[simp] theorem present_departure : present (.departure a :: changes) = present changes := by
  rw [present]

theorem present_of_departs (h : .departure a ∈ changes) :
    present (.arrival a :: changes) = present (changes.erase (.departure a)) := by
  rw [present, if_pos h]

theorem present_of_stays (h : .departure a ∉ changes) :
    present (.arrival a :: changes) = a :: present changes := by
  rw [present, if_neg h]

theorem present_arrivals : present (names.map Change.arrival) = names := by
  induction names with
  | nil => exact present_nil
  | cons a names ih =>
    rw [List.map_cons, present_of_stays _ _ (by simp), ih]

theorem erase_arrivals :
    (names.map Change.arrival ++ changes).erase (.departure a) =
      names.map Change.arrival ++ changes.erase (.departure a) :=
  List.erase_append_right _ (by simp)

end Present

/-- Those present before a departure lose the first of its name. -/
theorem present_arrivals_departure (names : List α) (a : α) (changes : List (Change α)) :
    present (names.map .arrival ++ .departure a :: changes) =
      present ((names.erase a).map .arrival ++ changes) := by
  induction names generalizing changes with
  | nil => exact present_departure changes a
  | cons b names ih =>
    by_cases hb : b = a
    · subst hb
      rw [List.map_cons, List.cons_append, present_of_departs _ _ (by simp), erase_arrivals,
        List.erase_cons_head, List.erase_cons_head]
    · have hne : Change.departure a ≠ Change.departure b := fun h =>
        hb (Change.departure.inj h).symm
      rw [List.erase_cons_tail (by simpa using hb), List.map_cons, List.map_cons,
        List.cons_append, List.cons_append]
      by_cases hleaves : Change.departure b ∈ changes
      · rw [present_of_departs _ _ (by simp [hleaves]), present_of_departs _ _ (by simp [hleaves]),
          erase_arrivals, erase_arrivals, List.erase_cons_tail (by simpa using hne), ih]
      · rw [present_of_stays _ _ (by simp [hleaves, hb]),
          present_of_stays _ _ (by simp [hleaves]), ih]

theorem foldl_note_eq (names : List α) (changes : List (Change α)) :
    changes.foldl note names = present (names.map .arrival ++ changes) := by
  induction changes generalizing names with
  | nil => rw [List.append_nil, present_arrivals, List.foldl_nil]
  | cons change changes ih =>
    rw [List.foldl_cons, ih]
    cases change with
    | arrival a => rw [note, List.map_append, List.append_assoc]; rfl
    | departure a => exact (present_arrivals_departure names a changes).symm

/-- A roster that is kept lists those present. -/
theorem foldl_note (changes : List (Change α)) : changes.foldl note [] = present changes :=
  foldl_note_eq [] changes

end Roster

end Sc2Api.Lib
