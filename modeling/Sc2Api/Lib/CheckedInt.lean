import Mathlib.Algebra.Order.Floor.Ring
import Mathlib.Data.Rat.Floor
import Mathlib.Tactic.Linarith
import Sc2Api.Lib.Failures

/-!
# Checked integers

The arithmetic of a 32-bit `int` that must not overflow: every result is `checked`, and what
does not fit is an error. A fraction becomes an integer by `truncate`, towards zero.
-/

namespace Sc2Api.Lib

/-! ## Results -/

def FitsInt (n : Int) : Prop := -2 ^ 31 ≤ n ∧ n < 2 ^ 31

instance : DecidablePred FitsInt := fun _ => inferInstanceAs (Decidable (_ ∧ _))

/-- The `int` with this value. -/
def checked {ε : Type} (overflow : ε) (n : Int) : Except ε Int32 :=
  if FitsInt n then .ok (Int32.ofInt n) else .error overflow

section Checked

variable {ε : Type} {overflow : ε} {n : Int} {i : Int32}

theorem checked_of_fits (h : FitsInt n) : checked overflow n = .ok (Int32.ofInt n) := if_pos h

theorem checked_of_not_fits (h : ¬FitsInt n) : checked overflow n = .error overflow := if_neg h

theorem FitsInt.toInt_ofInt (h : FitsInt n) : (Int32.ofInt n).toInt = n :=
  Int32.toInt_ofInt_of_le h.1 h.2

theorem fitsInt_toInt (i : Int32) : FitsInt i.toInt := ⟨i.le_toInt, i.toInt_lt⟩

theorem checked_eq_ok_iff : checked overflow n = .ok i ↔ i.toInt = n := by
  constructor
  · intro h
    by_cases hfits : FitsInt n
    · rw [checked_of_fits hfits] at h
      cases h
      exact hfits.toInt_ofInt
    · rw [checked_of_not_fits hfits] at h
      cases h
  · rintro rfl
    rw [checked_of_fits (fitsInt_toInt i), Int32.ofInt_toInt]

/-- A result that fits is gone on with. -/
theorem checked_bind {α : Type} (h : FitsInt n) (f : Int32 → Except ε α) :
    checked overflow n >>= f = f (Int32.ofInt n) := by
  rw [checked_of_fits h]
  rfl

end Checked

/-! ## Fractions -/

def truncate (x : ℚ) : Int := if 0 ≤ x then ⌊x⌋ else ⌈x⌉

section Truncate

variable {x : ℚ} {n : Int}

theorem truncate_of_nonneg (h : 0 ≤ x) : truncate x = ⌊x⌋ := if_pos h

theorem truncate_of_neg (h : x < 0) : truncate x = ⌈x⌉ := if_neg h.not_ge

/-- Everything above `-1` is truncated into the integers from zero on. -/
theorem truncate_nonneg_iff : 0 ≤ truncate x ↔ -1 < x := by
  rcases le_or_gt 0 x with h | h
  · rw [truncate_of_nonneg h]
    exact iff_of_true (Int.floor_nonneg.2 h) (by linarith)
  · rw [truncate_of_neg h, ← Int.sub_one_lt_iff, Int.lt_ceil]
    norm_num

theorem truncate_lt_iff (hn : 0 < n) : truncate x < n ↔ x < n := by
  rcases le_or_gt 0 x with h | h
  · rw [truncate_of_nonneg h, Int.floor_lt]
  · rw [truncate_of_neg h]
    have hceil : ⌈x⌉ ≤ 0 := Int.ceil_le.2 (by exact_mod_cast h.le)
    have hn' : (0 : ℚ) < n := by exact_mod_cast hn
    exact iff_of_true (by omega) (by linarith)

theorem truncate_between_iff : (0 ≤ truncate x ∧ truncate x < n) ↔ 0 < n ∧ -1 < x ∧ x < n := by
  constructor
  · rintro ⟨hnonneg, hlt⟩
    have hn : 0 < n := hnonneg.trans_lt hlt
    exact ⟨hn, truncate_nonneg_iff.1 hnonneg, (truncate_lt_iff hn).1 hlt⟩
  · rintro ⟨hn, hx, hx'⟩
    exact ⟨truncate_nonneg_iff.2 hx, (truncate_lt_iff hn).2 hx'⟩

theorem fitsInt_truncate (h : -2 ^ 31 - 1 < x) (h' : x < 2 ^ 31) : FitsInt (truncate x) := by
  refine ⟨?_, (truncate_lt_iff (by norm_num)).2 (by exact_mod_cast h')⟩
  rcases le_or_gt 0 x with hx | hx
  · exact le_trans (by norm_num) (truncate_nonneg_iff.2 (by linarith))
  · rw [truncate_of_neg hx, ← Int.sub_one_lt_iff, Int.lt_ceil]
    exact lt_of_eq_of_lt (by norm_num) h

end Truncate

end Sc2Api.Lib
