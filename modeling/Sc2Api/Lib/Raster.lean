import Mathlib.Data.List.OfFn
import Mathlib.Data.Set.Function
import Mathlib.Logic.Equiv.Fin.Basic
import Mathlib.Tactic.Linarith

/-!
# Images in rows

The cells of an image are counted from its lower left corner, and stored in rows, the upper
one first. `position` is where a cell stands, and `cellAt` reads what `store` has put there.
-/

namespace Sc2Api.Lib.Raster

universe u

variable {α : Type u}

/-! ## Positions -/

def cells (width height : Int) : Set (Int × Int) :=
  {cell | (0 ≤ cell.1 ∧ cell.1 < width) ∧ 0 ≤ cell.2 ∧ cell.2 < height}

instance (width height : Int) : DecidablePred (· ∈ cells width height) :=
  fun _ => inferInstanceAs (Decidable ((_ ∧ _) ∧ _ ∧ _))

def indices (size : Int) : Set Int := {index | 0 ≤ index ∧ index < size}

def position (width height : Int) (cell : Int × Int) : Int :=
  cell.1 + (height - 1 - cell.2) * width

section Positions

variable {width height : Int} {cell cell' : Int × Int}

theorem mapsTo_position :
    Set.MapsTo (position width height) (cells width height) (indices (width * height)) := by
  rintro ⟨x, y⟩ ⟨⟨hx, hx'⟩, hy, hy'⟩
  dsimp only at hx hx' hy hy'
  have hrow : 0 ≤ (height - 1 - y) * width := by
    apply Int.mul_nonneg <;> omega
  have hrows : (height - 1 - y) * width + width ≤ width * height := by
    nlinarith
  constructor <;> dsimp only [position] <;> omega

/-- The column of a cell is the remainder of its position, and its row the quotient. -/
theorem emod_position (h : cell ∈ cells width height) :
    position width height cell % width = cell.1 := by
  unfold position
  rw [Int.add_mul_emod_self_right]
  exact Int.emod_eq_of_lt h.1.1 h.1.2

theorem ediv_position (h : cell ∈ cells width height) :
    position width height cell / width = height - 1 - cell.2 := by
  have hwidth : width ≠ 0 := by
    have := h.1
    omega
  unfold position
  rw [Int.add_mul_ediv_right _ _ hwidth, Int.ediv_eq_zero_of_lt h.1.1 h.1.2, Int.zero_add]

theorem injOn_position : Set.InjOn (position width height) (cells width height) := by
  intro cell h cell' h' heq
  have hx : position width height cell % width = position width height cell' % width :=
    congrArg (· % width) heq
  have hy : position width height cell / width = position width height cell' / width :=
    congrArg (· / width) heq
  rw [emod_position h, emod_position h'] at hx
  rw [ediv_position h, ediv_position h'] at hy
  exact Prod.ext hx (by omega)

theorem surjOn_position (hwidth : 0 ≤ width) :
    Set.SurjOn (position width height) (cells width height) (indices (width * height)) := by
  rintro index ⟨hindex, hindex'⟩
  have hpos : 0 < width := by
    rcases hwidth.lt_or_eq with h | h
    · exact h
    · rw [← h, Int.zero_mul] at hindex'
      omega
  have hrow : index / width < height :=
    Int.ediv_lt_of_lt_mul hpos (by rwa [Int.mul_comm])
  have hrow' : 0 ≤ index / width := Int.ediv_nonneg hindex hwidth
  refine ⟨(index % width, height - 1 - index / width),
    ⟨⟨Int.emod_nonneg _ hpos.ne', Int.emod_lt_of_pos _ hpos⟩, ?_, ?_⟩, ?_⟩
  · dsimp only
    omega
  · dsimp only
    omega
  · have hdiv := Int.emod_add_mul_ediv index width
    dsimp only [position]
    rw [sub_sub_cancel, Int.mul_comm]
    exact hdiv

/-- Every cell has a position of its own, and every position is one of a cell. -/
theorem bijOn_position (hwidth : 0 ≤ width) :
    Set.BijOn (position width height) (cells width height) (indices (width * height)) :=
  ⟨mapsTo_position, injOn_position, surjOn_position hwidth⟩

end Positions

/-! ## Cells -/

/-- The cell `(x, y)` of an image, if there is one. -/
def cellAt (data : List α) (width height : Int) (x y : Int) : Option α :=
  if (x, y) ∈ cells width height then data[(position width height (x, y)).toNat]? else none

section Cells

variable {width height : Int} {x y : Int}

theorem cellAt_of_not_mem (data : List α) (h : (x, y) ∉ cells width height) :
    cellAt data width height x y = none := if_neg h

theorem cellAt_of_mem (data : List α) (h : (x, y) ∈ cells width height) :
    cellAt data width height x y = data[(position width height (x, y)).toNat]? := if_pos h

theorem exists_cellAt {data : List α} (hlength : (data.length : Int) = width * height)
    (h : (x, y) ∈ cells width height) : ∃ value, cellAt data width height x y = some value := by
  have hposition := mapsTo_position h
  rw [cellAt_of_mem data h]
  exact ⟨_, List.getElem?_eq_getElem (by have := hposition.1; have := hposition.2; omega)⟩

end Cells

/-! ## Storing -/

section Store

variable {width height : Nat}

/-- The bytes of an image given by its rows, of which the last is the upper one. -/
def store (image : Fin height → Fin width → α) : List α :=
  (List.ofFn fun row : Fin height => List.ofFn (image row.rev)).flatten

theorem store_eq_ofFn (image : Fin height → Fin width → α) :
    store image = List.ofFn fun i : Fin (height * width) => image i.divNat.rev i.modNat := by
  rw [List.ofFn_mul]
  unfold store
  congr 1
  refine List.ofFn_inj.2 (funext fun row => List.ofFn_inj.2 (funext fun column => ?_))
  have hindex : ∀ h, (⟨row * width + column, h⟩ : Fin (height * width)) =
      finProdFinEquiv (row, column) := fun h =>
    Fin.ext ((Nat.add_comm _ _).trans (congrArg (column.val + ·) (Nat.mul_comm _ _)))
  rw [hindex]
  exact congrArg (fun cell => image cell.1.rev cell.2)
    (finProdFinEquiv.symm_apply_apply (row, column)).symm

theorem length_store (image : Fin height → Fin width → α) :
    (store image).length = width * height := by
  rw [store_eq_ofFn, List.length_ofFn, Nat.mul_comm]

/-- A cell of a stored image has the value that the image has there. -/
theorem cellAt_store (image : Fin height → Fin width → α) (x : Fin width) (y : Fin height) :
    cellAt (store image) width height x y = some (image y x) := by
  have hcell : ((x : Int), (y : Int)) ∈ cells width height := by
    refine ⟨⟨?_, ?_⟩, ?_, ?_⟩ <;> dsimp only <;> omega
  have hposition : (position width height (x, y)).toNat = finProdFinEquiv (y.rev, x) := by
    have hrev : ((y.rev : Nat) : Int) = height - 1 - y := by
      rw [Fin.val_rev]
      omega
    have hindex : (finProdFinEquiv (y.rev, x)).val = x.val + width * y.rev.val := rfl
    apply Int.ofNat_inj.1
    rw [Int.toNat_of_nonneg (mapsTo_position hcell).1, hindex, Int.natCast_add, Int.natCast_mul,
      hrev, Int.mul_comm]
    rfl
  rw [cellAt_of_mem _ hcell, store_eq_ofFn, hposition, List.getElem?_ofFn, dif_pos (Fin.isLt _)]
  have hcells := finProdFinEquiv.symm_apply_apply (y.rev, x)
  have hvalue := congrArg (fun cell => some (image cell.1.rev cell.2)) hcells
  dsimp only at hvalue
  rwa [Fin.rev_rev] at hvalue

end Store

end Sc2Api.Lib.Raster
