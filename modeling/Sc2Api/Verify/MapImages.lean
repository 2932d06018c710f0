import Sc2Api.Lib.Raster
import Sc2Api.MapImages
import Mathlib.Tactic.Common

/-!
# The samples of a map

The index that is computed for a cell is its position in an image stored from its upper row
down, and a point of the map is sampled at its cell. Truncation takes the points just below
and left of the map for points of its border.
-/

namespace Sc2Api

open Lib

/-! ## The index -/

section Index

variable {x y width height : Int32}

/-- The cell of a pair of `int`s. -/
def cell (x y : Int32) : Int × Int := (x.toInt, y.toInt)

/-- An index that is computed is the position. -/
theorem toInt_of_imageIndex {index : Int32} (h : imageIndex x y width height = .ok index) :
    index.toInt = Raster.position width.toInt height.toInt (cell x y) := by
  obtain ⟨top, htop, h⟩ := bind_eq_ok_iff.1 h
  obtain ⟨row, hrow, h⟩ := bind_eq_ok_iff.1 h
  obtain ⟨start, hstart, h⟩ := bind_eq_ok_iff.1 h
  rw [checked_eq_ok_iff.1 h, checked_eq_ok_iff.1 hstart, checked_eq_ok_iff.1 hrow,
    checked_eq_ok_iff.1 htop]
  rfl

/-- The index of a cell is computed without overflow if its position fits. -/
theorem imageIndex_eq (hcell : cell x y ∈ Raster.cells width.toInt height.toInt)
    (hposition : Raster.position width.toInt height.toInt (cell x y) < 2 ^ 31) :
    imageIndex x y width height =
      .ok (Int32.ofInt (Raster.position width.toInt height.toInt (cell x y))) := by
  obtain ⟨⟨hx, hx'⟩, hy, hy'⟩ := hcell
  dsimp only [cell] at hx hx' hy hy'
  have hheight := height.toInt_lt
  have hstart : 0 ≤ (height.toInt - 1 - y.toInt) * width.toInt := by
    apply Int.mul_nonneg <;> omega
  have hfits : FitsInt (Raster.position width.toInt height.toInt (cell x y)) :=
    ⟨by dsimp only [Raster.position, cell]; omega, hposition⟩
  have hfitsTop : FitsInt (height.toInt - 1) := ⟨by omega, by omega⟩
  have hfitsRow : FitsInt (height.toInt - 1 - y.toInt) := ⟨by omega, by omega⟩
  have hfitsStart : FitsInt ((height.toInt - 1 - y.toInt) * width.toInt) := by
    dsimp only [Raster.position, cell] at hposition
    exact ⟨by omega, by omega⟩
  unfold imageIndex
  rw [checked_bind hfitsTop, hfitsTop.toInt_ofInt, checked_bind hfitsRow, hfitsRow.toInt_ofInt,
    checked_bind hfitsStart, hfitsStart.toInt_ofInt]
  exact checked_of_fits hfits

end Index

/-! ## Positions -/

section Positions

variable {data : List UInt8} {width height : Int32}

theorem length_of_nonneg (hlength : data.length = width.toNatClampNeg * height.toNatClampNeg)
    (hwidth : 0 ≤ width.toInt) (hheight : 0 ≤ height.toInt) :
    (data.length : Int) = width.toInt * height.toInt := by
  rw [hlength, Nat.cast_mul, ← Int32.toNat_toInt, ← Int32.toNat_toInt,
    Int.toNat_of_nonneg hwidth, Int.toNat_of_nonneg hheight]

theorem length_of_mem_cells {c : Int × Int}
    (hlength : data.length = width.toNatClampNeg * height.toNatClampNeg)
    (h : c ∈ Raster.cells width.toInt height.toInt) :
    (data.length : Int) = width.toInt * height.toInt :=
  length_of_nonneg hlength (h.1.1.trans h.1.2.le) (h.2.1.trans h.2.2.le)

/-- A byte is one of an image with sides. -/
theorem sides_of_length_pos (hlength : data.length = width.toNatClampNeg * height.toNatClampNeg)
    (h : 0 < data.length) : 0 < width.toInt ∧ 0 < height.toInt := by
  rw [hlength] at h
  have hwidth := Nat.pos_of_mul_pos_right h
  have hheight := Nat.pos_of_mul_pos_left h
  rw [← Int32.toNat_toInt] at hwidth hheight
  omega

/-- The cells of an image, as the pairs of `int`s that its index is computed for. -/
def imageCells (width height : Int32) : Set (Int32 × Int32) :=
  {c | cell c.1 c.2 ∈ Raster.cells width.toInt height.toInt}

theorem mem_imageCells {x y : Int32} : (x, y) ∈ imageCells width height ↔
    cell x y ∈ Raster.cells width.toInt height.toInt := Iff.rfl

/-- The indices of the bytes of a string. -/
def byteIndices (data : List UInt8) : Set (Except Undefined Int32) :=
  {index | ∃ i : Int32, index = .ok i ∧ 0 ≤ i.toInt ∧ i.toInt < data.length}

theorem mapsTo_imageIndex
    (hlength : data.length = width.toNatClampNeg * height.toNatClampNeg)
    (hbound : data.length ≤ 2 ^ 31) :
    Set.MapsTo (fun c : Int32 × Int32 => imageIndex c.1 c.2 width height)
      (imageCells width height) (byteIndices data) := by
  intro c hc
  have hindex := Raster.mapsTo_position hc
  rw [← length_of_mem_cells hlength hc] at hindex
  obtain ⟨hnonneg, hlt⟩ := hindex
  have heq := imageIndex_eq hc (by omega)
  refine ⟨_, heq, ?_⟩
  rw [toInt_of_imageIndex heq]
  exact ⟨hnonneg, hlt⟩

theorem injOn_imageIndex
    (hlength : data.length = width.toNatClampNeg * height.toNatClampNeg)
    (hbound : data.length ≤ 2 ^ 31) :
    Set.InjOn (fun c : Int32 × Int32 => imageIndex c.1 c.2 width height)
      (imageCells width height) := by
  intro c hc c' hc' heq
  obtain ⟨i, hi, -⟩ := mapsTo_imageIndex hlength hbound hc
  have hi' : imageIndex c'.1 c'.2 width height = .ok i := heq.symm.trans hi
  have hcell := Raster.injOn_position hc hc'
    ((toInt_of_imageIndex hi).symm.trans (toInt_of_imageIndex hi'))
  exact Prod.ext (Int32.toInt_inj.1 (congrArg (·.1) hcell))
    (Int32.toInt_inj.1 (congrArg (·.2) hcell))

theorem surjOn_imageIndex
    (hlength : data.length = width.toNatClampNeg * height.toNatClampNeg) :
    Set.SurjOn (fun c : Int32 × Int32 => imageIndex c.1 c.2 width height)
      (imageCells width height) (byteIndices data) := by
  rintro _ ⟨i, rfl, hi, hi'⟩
  obtain ⟨hwidth, hheight⟩ := sides_of_length_pos hlength (by omega)
  rw [length_of_nonneg hlength hwidth.le hheight.le] at hi'
  obtain ⟨⟨x, y⟩, hmem, hposition⟩ := (Raster.bijOn_position hwidth.le).surjOn ⟨hi, hi'⟩
  have hcell : cell (Int32.ofInt x) (Int32.ofInt y) = (x, y) := by
    obtain ⟨⟨hx, hx'⟩, hy, hy'⟩ := hmem
    have hwidth' := width.toInt_lt
    have hheight' := height.toInt_lt
    dsimp only at hx hx' hy hy'
    exact Prod.ext (FitsInt.toInt_ofInt ⟨by omega, by omega⟩)
      (FitsInt.toInt_ofInt ⟨by omega, by omega⟩)
  refine ⟨(Int32.ofInt x, Int32.ofInt y), ?_, ?_⟩
  · rwa [mem_imageCells, hcell]
  · dsimp only
    rw [imageIndex_eq (by rwa [hcell]) (by rw [hcell, hposition]; exact i.toInt_lt), hcell,
      hposition, Int32.ofInt_toInt]

/-- The indices of the cells are those of the bytes, one for each cell, as long as an `int`
counts the bytes. -/
theorem bijOn_imageIndex_iff
    (hlength : data.length = width.toNatClampNeg * height.toNatClampNeg) :
    Set.BijOn (fun c : Int32 × Int32 => imageIndex c.1 c.2 width height)
      (imageCells width height) (byteIndices data) ↔ data.length ≤ 2 ^ 31 := by
  constructor
  · intro h
    rcases Nat.eq_zero_or_pos data.length with hzero | hpos
    · omega
    -- The last byte is the one of the lower right cell.
    obtain ⟨hwidth, hheight⟩ := sides_of_length_pos hlength hpos
    have hmul := length_of_nonneg hlength hwidth.le hheight.le
    have hright : FitsInt (width.toInt - 1) := ⟨by omega, by have := width.toInt_lt; omega⟩
    have hcell : cell (Int32.ofInt (width.toInt - 1)) 0 = (width.toInt - 1, 0) :=
      Prod.ext hright.toInt_ofInt rfl
    have hmem : (Int32.ofInt (width.toInt - 1), (0 : Int32)) ∈ imageCells width height := by
      rw [mem_imageCells, hcell]
      exact ⟨⟨by dsimp only; omega, by dsimp only; omega⟩, le_refl _, hheight⟩
    obtain ⟨i, hi, -⟩ := h.mapsTo hmem
    have hlast := toInt_of_imageIndex hi
    have hi' := i.toInt_lt
    rw [hcell] at hlast
    dsimp only [Raster.position] at hlast
    have hlast' : width.toInt - 1 + (height.toInt - 1 - 0) * width.toInt = data.length - 1 := by
      rw [hmul]
      ring
    omega
  · intro hbound
    exact ⟨mapsTo_imageIndex hlength hbound, injOn_imageIndex hlength hbound,
      surjOn_imageIndex hlength⟩

end Positions

/-! ## Samples -/

/-- The coordinates can be converted to `int`. -/
structure Convertible (point : Point2D) : Prop where
  x : -2 ^ 31 - 1 < point.x ∧ point.x < 2 ^ 31
  y : -2 ^ 31 - 1 < point.y ∧ point.y < 2 ^ 31

/-- The point is one of a map of this size. -/
def OnMap (width height : Int32) (point : Point2D) : Prop :=
  (0 ≤ point.x ∧ point.x < width.toInt) ∧ 0 ≤ point.y ∧ point.y < height.toInt

/-- The point is less than one below or left of the map, and truncated into it. -/
def BelowEdge (width height : Int32) (point : Point2D) : Prop :=
  (0 < width.toInt ∧ -1 < point.x ∧ point.x < width.toInt) ∧
    (0 < height.toInt ∧ -1 < point.y ∧ point.y < height.toInt) ∧ (point.x < 0 ∨ point.y < 0)

section Samples

variable {data : List UInt8} {width height : Int32} {point : Point2D}

theorem byteAt_of_getElem? {index : Int32} {byte : UInt8} (h : 0 ≤ index.toInt)
    (hbyte : data[index.toInt.toNat]? = some byte) : byteAt data index = .ok byte := by
  have hlt := (List.getElem?_eq_some_iff.1 hbyte).1
  unfold byteAt
  rw [if_neg (by rw [Int32.lt_iff_toInt_lt]; exact not_lt.2 h), List.getElem?_append_left hlt,
    hbyte]

/-- What is sampled is the cell of the truncated coordinates. -/
theorem sampleImageData_eq (hpoint : Convertible point)
    (hlength : data.length = width.toNatClampNeg * height.toNatClampNeg)
    (hbound : data.length ≤ 2 ^ 31) :
    sampleImageData data width height point =
      .ok (Raster.cellAt data width.toInt height.toInt (truncate point.x) (truncate point.y)) := by
  have hx := fitsInt_truncate hpoint.x.1 hpoint.x.2
  have hy := fitsInt_truncate hpoint.y.1 hpoint.y.2
  have hcell : cell (Int32.ofInt (truncate point.x)) (Int32.ofInt (truncate point.y)) =
      (truncate point.x, truncate point.y) := Prod.ext hx.toInt_ofInt hy.toInt_ofInt
  unfold sampleImageData intOfFloat
  rw [checked_bind hx, checked_bind hy]
  simp only [ge_iff_le, Int32.lt_iff_toInt_lt, Int32.le_iff_toInt_le, hx.toInt_ofInt,
    hy.toInt_ofInt, Int32.toInt_zero]
  by_cases hmem : (truncate point.x, truncate point.y) ∈ Raster.cells width.toInt height.toInt
  · have hindices := mapsTo_imageIndex hlength hbound (mem_imageCells.2 (hcell.symm ▸ hmem))
    obtain ⟨index, hindex, hnonneg, -⟩ := hindices
    obtain ⟨byte, hbyte⟩ := Raster.exists_cellAt (length_of_mem_cells hlength hmem) hmem
    have hread : byteAt data index = .ok byte := by
      refine byteAt_of_getElem? hnonneg ?_
      rw [toInt_of_imageIndex hindex, hcell, ← Raster.cellAt_of_mem data hmem, hbyte]
    obtain ⟨⟨hx, hx'⟩, hy, hy'⟩ := hmem
    dsimp only at hx hx' hy hy' hindex
    rw [hbyte, if_neg (by omega), hindex]
    dsimp only [bind, Except.bind]
    rw [hread]
    rfl
  · have houtside : truncate point.x < 0 ∨ width.toInt ≤ truncate point.x ∨
        truncate point.y < 0 ∨ height.toInt ≤ truncate point.y := by
      by_contra hinside
      refine hmem ⟨⟨?_, ?_⟩, ?_, ?_⟩ <;> dsimp only <;> omega
    rw [Raster.cellAt_of_not_mem _ hmem, if_pos houtside]
    rfl

/-- An image stored from its upper row down gives back its values. -/
theorem sampleImageData_store
    (image : Fin height.toNatClampNeg → Fin width.toNatClampNeg → UInt8)
    (hbound : width.toNatClampNeg * height.toNatClampNeg ≤ 2 ^ 31) (hpoint : Convertible point)
    {x : Fin width.toNatClampNeg} {y : Fin height.toNatClampNeg}
    (hx : ⌊point.x⌋ = x) (hy : ⌊point.y⌋ = y) :
    sampleImageData (Raster.store image) width height point = .ok (some (image y x)) := by
  have hwidth : (width.toNatClampNeg : Int) = width.toInt := by
    have hpos := x.isLt
    have hclamp := width.toNat_toInt
    omega
  have hheight : (height.toNatClampNeg : Int) = height.toInt := by
    have hpos := y.isLt
    have hclamp := height.toNat_toInt
    omega
  have hx' : truncate point.x = x := by
    rw [truncate_of_nonneg (Int.floor_nonneg.1 (by omega)), hx]
  have hy' : truncate point.y = y := by
    rw [truncate_of_nonneg (Int.floor_nonneg.1 (by omega)), hy]
  rw [sampleImageData_eq hpoint (Raster.length_store image)
    ((Raster.length_store image).trans_le hbound), hx', hy', ← hwidth, ← hheight,
    Raster.cellAt_store]

/-! ## Points and cells -/

theorem mem_cells_floor_iff : (⌊point.x⌋, ⌊point.y⌋) ∈ Raster.cells width.toInt height.toInt ↔
    OnMap width height point :=
  and_congr (and_congr Int.floor_nonneg Int.floor_lt) (and_congr Int.floor_nonneg Int.floor_lt)

/-- A point that is truncated into the map is one of it, or below its edge. -/
theorem mem_cells_truncate_iff :
    (truncate point.x, truncate point.y) ∈ Raster.cells width.toInt height.toInt ↔
      OnMap width height point ∨ BelowEdge width height point := by
  refine (and_congr truncate_between_iff truncate_between_iff).trans ?_
  constructor
  · rintro ⟨hx, hy⟩
    by_cases hbelow : point.x < 0 ∨ point.y < 0
    · exact .inr ⟨hx, hy, hbelow⟩
    · rw [not_or, not_lt, not_lt] at hbelow
      exact .inl ⟨⟨hbelow.1, hx.2.2⟩, hbelow.2, hy.2.2⟩
  · rintro (⟨hx, hy⟩ | ⟨hx, hy, -⟩)
    · exact ⟨⟨by exact_mod_cast hx.1.trans_lt hx.2, by linarith [hx.1], hx.2⟩,
        by exact_mod_cast hy.1.trans_lt hy.2, by linarith [hy.1], hy.2⟩
    · exact ⟨hx, hy⟩

theorem truncate_of_onMap (h : OnMap width height point) :
    truncate point.x = ⌊point.x⌋ ∧ truncate point.y = ⌊point.y⌋ :=
  ⟨truncate_of_nonneg h.1.1, truncate_of_nonneg h.2.1⟩

theorem BelowEdge.not_onMap (h : BelowEdge width height point) : ¬OnMap width height point :=
  fun hmap => h.2.2.elim (not_lt.2 hmap.1.1) (not_lt.2 hmap.2.1)

/-- The cell of the truncated coordinates is that of the point, but below the edge. -/
theorem cellAt_truncate_iff
    (hlength : data.length = width.toNatClampNeg * height.toNatClampNeg) :
    Raster.cellAt data width.toInt height.toInt (truncate point.x) (truncate point.y) =
        Raster.cellAt data width.toInt height.toInt ⌊point.x⌋ ⌊point.y⌋ ↔
      ¬BelowEdge width height point := by
  constructor
  · intro heq hbelow
    have hmem := mem_cells_truncate_iff.2 (.inr hbelow)
    obtain ⟨byte, hbyte⟩ := Raster.exists_cellAt (length_of_mem_cells hlength hmem) hmem
    rw [hbyte, Raster.cellAt_of_not_mem _ (mt mem_cells_floor_iff.1 hbelow.not_onMap)] at heq
    cases heq
  · intro hbelow
    by_cases hmap : OnMap width height point
    · rw [(truncate_of_onMap hmap).1, (truncate_of_onMap hmap).2]
    · have hmem : (truncate point.x, truncate point.y) ∉
          Raster.cells width.toInt height.toInt := fun hmem =>
        (mem_cells_truncate_iff.1 hmem).elim hmap hbelow
      rw [Raster.cellAt_of_not_mem _ hmem,
        Raster.cellAt_of_not_mem _ (mt mem_cells_floor_iff.1 hmap)]

end Samples

/-! ## Questions -/

def Proto.ImageData.Holds (image : Proto.ImageData) (data : List UInt8) (width height : Int32) :
    Prop :=
  image.data.getD [] = data ∧ (image.size.getD {}).x.getD 0 = width ∧
    (image.size.getD {}).y.getD 0 = height

def ImageData.Holds (image : ImageData) (data : List UInt8) (width height : Int32) : Prop :=
  image.data = data ∧ image.width = width ∧ image.height = height

/-- The answers for a point that is sampled outside an image, wherever the image is held. -/
structure AnswersOutside (data : List UInt8) (width height : Int32) (point : Point2D) :
    Prop where
  hasCreep : ∀ observation mapState, mapState? observation = some mapState →
    (mapState.creep.getD {}).Holds data width height →
      hasCreep observation point = .ok false
  getVisibility : ∀ observation mapState, mapState? observation = some mapState →
    (mapState.visibility.getD {}).Holds data width height →
      getVisibility observation point = .ok .fullHidden
  isPathable : ∀ (g : GameClient) answer,
    (g.getGameInfo answer).1.pathingGrid.Holds data width height →
      (g.isPathable answer point).1 = .ok false
  isPlacable : ∀ (g : GameClient) answer,
    (g.getGameInfo answer).1.placementGrid.Holds data width height →
      (g.isPlacable answer point).1 = .ok false
  terrainHeight : ∀ (g : GameClient) answer,
    (g.getGameInfo answer).1.terrainHeight.Holds data width height →
      (g.terrainHeight answer point).1 = .ok 0

theorem AnswersOutside.of_sample {data : List UInt8} {width height : Int32} {point : Point2D}
    (h : sampleImageData data width height point = .ok none) :
    AnswersOutside data width height point := by
  have hproto : ∀ image : Proto.ImageData, image.Holds data width height →
      image.sample point = .ok none := by
    rintro image ⟨rfl, rfl, rfl⟩
    exact h
  have himage : ∀ image : ImageData, image.Holds data width height →
      image.sample point = .ok none := by
    rintro image ⟨rfl, rfl, rfl⟩
    exact h
  refine ⟨?_, ?_, ?_, ?_, ?_⟩
  · intro observation mapState hmapState hholds
    unfold Sc2Api.hasCreep
    rw [hmapState]
    dsimp only
    rw [hproto _ hholds]
    rfl
  · intro observation mapState hmapState hholds
    unfold Sc2Api.getVisibility
    rw [hmapState]
    dsimp only
    rw [hproto _ hholds]
    rfl
  · intro g answer hholds
    unfold GameClient.isPathable
    dsimp only
    rw [himage _ hholds]
    rfl
  · intro g answer hholds
    unfold GameClient.isPlacable
    dsimp only
    rw [himage _ hholds]
    rfl
  · intro g answer hholds
    unfold GameClient.terrainHeight
    dsimp only
    rw [himage _ hholds]
    rfl

/-- What sampling an image at a point should be: the byte of the point's cell or a failure, by
indices that are one for each cell, and the answers of a point outside. -/
structure Sampled (data : List UInt8) (width height : Int32) (point : Point2D) : Prop where
  succeeds : (∃ byte, sampleImageData data width height point = .ok (some byte)) ↔
    OnMap width height point
  sample : sampleImageData data width height point =
    .ok (Raster.cellAt data width.toInt height.toInt ⌊point.x⌋ ⌊point.y⌋)
  indices : Set.BijOn (fun c : Int32 × Int32 => imageIndex c.1 c.2 width height)
    (imageCells width height) (byteIndices data)
  outside : ¬OnMap width height point → AnswersOutside data width height point

theorem sampled_iff (data : List UInt8) (width height : Int32) (point : Point2D)
    (hlength : data.length = width.toNatClampNeg * height.toNatClampNeg)
    (hpoint : Convertible point) :
    Sampled data width height point ↔
      ¬BelowEdge width height point ∧ data.length ≤ 2 ^ 31 := by
  constructor
  · intro h
    have hbound := (bijOn_imageIndex_iff hlength).1 h.indices
    have hsample := h.sample
    rw [sampleImageData_eq hpoint hlength hbound] at hsample
    exact ⟨(cellAt_truncate_iff hlength).1 (Except.ok.inj hsample), hbound⟩
  · rintro ⟨hbelow, hbound⟩
    have hsample : sampleImageData data width height point =
        .ok (Raster.cellAt data width.toInt height.toInt ⌊point.x⌋ ⌊point.y⌋) := by
      rw [sampleImageData_eq hpoint hlength hbound, (cellAt_truncate_iff hlength).2 hbelow]
    have houtside : ¬OnMap width height point →
        sampleImageData data width height point = .ok none := fun hmap => by
      rw [hsample, Raster.cellAt_of_not_mem _ (mt mem_cells_floor_iff.1 hmap)]
    refine ⟨⟨fun ⟨byte, hbyte⟩ => ?_, fun hmap => ?_⟩, hsample,
      (bijOn_imageIndex_iff hlength).2 hbound, fun hmap => .of_sample (houtside hmap)⟩
    · by_contra hmap
      rw [houtside hmap] at hbyte
      cases hbyte
    · have hmem := mem_cells_floor_iff.2 hmap
      obtain ⟨byte, hbyte⟩ := Raster.exists_cellAt (length_of_mem_cells hlength hmem) hmem
      exact ⟨byte, by rw [hsample, hbyte]⟩

theorem sampled_at_lower_left : Sampled [1, 2, 3, 4, 5, 6] 3 2 ⟨1 / 2, 1 / 2⟩ :=
  (sampled_iff _ _ _ _ (by decide) ⟨by norm_num, by norm_num⟩).2
    ⟨fun h => absurd h.2.2 (by norm_num), by decide⟩

/-- A point to the left of the map is sampled in its first column. -/
theorem sampled_left_of_map : ¬Sampled [1, 2, 3, 4, 5, 6] 3 2 ⟨-1 / 2, 1 / 2⟩ :=
  fun h => absurd h.sample (by decide +kernel)

end Sc2Api
