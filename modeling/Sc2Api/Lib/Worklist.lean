import Mathlib.Data.List.Basic
import Mathlib.Tactic.Common

/-!
# Working a list off from its end

Attempts at the entries of a list that is used from its end, where an attempt removes
its entry or leaves it for another one. `Consumes n as m` says that the attempts `as`
take a list of length `n` to one of length `m`. An entry is known by its position.
-/

namespace Sc2Api.Lib

universe u

section

variable {α : Type u} (entry : α → Nat) (removes : α → Bool)

inductive Consumes : Nat → List α → Nat → Prop
  | nil (n : Nat) : Consumes n [] n
  | keep {n m : Nat} {a : α} {as : List α} (hentry : entry a = n) (hkeeps : removes a = false)
      (rest : Consumes (n + 1) as m) : Consumes (n + 1) (a :: as) m
  | remove {n m : Nat} {a : α} {as : List α} (hentry : entry a = n) (hremoves : removes a = true)
      (rest : Consumes n as m) : Consumes (n + 1) (a :: as) m

end

namespace Consumes

variable {α : Type u} {entry : α → Nat} {removes : α → Bool} {n m k : Nat} {as bs : List α}

theorem append (h : Consumes entry removes n as m) (h' : Consumes entry removes m bs k) :
    Consumes entry removes n (as ++ bs) k := by
  induction h with
  | nil n => exact h'
  | keep hentry hkeeps _ ih => exact .keep hentry hkeeps (ih h')
  | remove hentry hremoves _ ih => exact .remove hentry hremoves (ih h')

theorem le (h : Consumes entry removes n as m) : m ≤ n := by
  induction h with
  | nil n => exact Nat.le_refl n
  | keep _ _ _ ih => exact ih
  | remove _ _ _ ih => exact Nat.le_succ_of_le ih

theorem entry_lt (h : Consumes entry removes n as m) {a : α} (ha : a ∈ as) : entry a < n := by
  induction h with
  | nil n => cases ha
  | keep hentry _ _ ih =>
    rcases List.mem_cons.1 ha with rfl | ha
    · omega
    · exact ih ha
  | remove hentry _ _ ih =>
    rcases List.mem_cons.1 ha with rfl | ha
    · omega
    · exact Nat.lt_succ_of_lt (ih ha)

/-- Every entry that is gone was removed once, and no other one was. -/
theorem countP_removes (h : Consumes entry removes n as m) (k : Nat) :
    as.countP (fun a => entry a = k ∧ removes a = true) = if m ≤ k ∧ k < n then 1 else 0 := by
  induction h with
  | nil n =>
    rw [if_neg (by omega)]
    rfl
  | keep hentry hkeeps _ ih =>
    rw [List.countP_cons_of_neg (by simp [hkeeps]), ih]
  | @remove n m a as hentry hremoves rest ih =>
    have hle := rest.le
    by_cases hk : k = n
    · rw [List.countP_cons_of_pos (by simp [hentry, hk, hremoves]), ih]
      rw [if_neg (by omega), if_pos (by omega)]
    · rw [List.countP_cons_of_neg (by simp [hentry, Ne.symm hk]), ih]
      by_cases hin : m ≤ k ∧ k < n
      · rw [if_pos hin, if_pos (by omega)]
      · rw [if_neg hin, if_neg (by omega)]

end Consumes

end Sc2Api.Lib
