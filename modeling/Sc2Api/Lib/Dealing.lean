import Mathlib.Data.List.Basic

/-!
# Dealing in rounds

The entries of a list are given those of another, which starts anew when it is used up. The
entry that finds it used up gets nothing.
-/

namespace Sc2Api.Lib

universe u v

variable {α : Type u} {β : Type v}

/-- The rest of the round that is going on comes first, and then rounds of all there is. -/
def deal (all : List β) : List α → List β → List (α × β)
  | [], _ => []
  | _ :: as, [] => deal all as all
  | a :: as, b :: bs => (a, b) :: deal all as bs

/-- One round, and what is dealt from the entry after the next on. -/
theorem deal_eq_append (all : List β) (as : List α) (bs : List β) :
    deal all as bs = as.zip bs ++ deal all (as.drop (bs.length + 1)) all := by
  induction as generalizing bs with
  | nil => rfl
  | cons a as ih =>
    cases bs with
    | nil => rfl
    | cons b bs =>
      rw [deal, ih bs]
      rfl

/-- What the entry at this position gets. -/
def dealt (all : List β) (entry : α × Nat) : Option (α × β) :=
  all[entry.2 % (all.length + 1)]?.map fun b => (entry.1, b)

theorem deal_eq_filterMap (all : List β) (as : List α) :
    deal all as all = as.zipIdx.filterMap (dealt all) := by
  suffices h : ∀ k, deal all as (all.drop (k % (all.length + 1))) =
      (as.zipIdx k).filterMap (dealt all) from h 0
  intro k
  induction as generalizing k with
  | nil => rfl
  | cons a as ih =>
    have hlt : k % (all.length + 1) < all.length + 1 := Nat.mod_lt k (Nat.succ_pos _)
    rw [List.zipIdx_cons]
    cases hrest : all.drop (k % (all.length + 1)) with
    | nil =>
      -- the round is over, and the next one starts with the next entry
      have hlast : k % (all.length + 1) = all.length := by
        have hle := List.drop_eq_nil_iff.1 hrest
        omega
      have hnext : (k + 1) % (all.length + 1) = 0 := by
        rw [← Nat.mod_add_mod, hlast, Nat.mod_self]
      have hnothing : dealt all (a, k) = none := by
        unfold dealt
        rw [hlast, List.getElem?_eq_none (Nat.le_refl _), Option.map_none]
      rw [List.filterMap_cons_none hnothing, ← ih (k + 1), hnext]
      rfl
    | cons b bs =>
      have hget : all[k % (all.length + 1)]? = some b := by
        have hhead := congrArg List.head? hrest
        rwa [List.head?_drop] at hhead
      have hbefore : k % (all.length + 1) < all.length := (List.getElem?_eq_some_iff.1 hget).1
      have hnext : (k + 1) % (all.length + 1) = k % (all.length + 1) + 1 := by
        rw [← Nat.mod_add_mod, Nat.mod_eq_of_lt (by omega)]
      have hgiven : dealt all (a, k) = some (a, b) := by
        unfold dealt
        rw [hget, Option.map_some]
      have hbs : all.drop (k % (all.length + 1) + 1) = bs := by
        rw [← List.drop_drop, hrest]
        rfl
      rw [List.filterMap_cons_some hgiven, ← ih (k + 1), hnext, hbs]
      rfl

end Sc2Api.Lib
