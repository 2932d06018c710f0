import Sc2Api.Lib.Raster
import Sc2Api.RenderedFrames
import Mathlib.Tactic.Common

/-!
# Converting rendered images

An image is converted with success when its bytes are those of its pixels, as long as the
products of its sizes are `int`s and no two negative sizes make up for each other.
-/

namespace Sc2Api

open Lib

/-! ## Images -/

namespace Proto.ImageData

variable (image : Proto.ImageData)

def width : Int := ((image.size.getD {}).x.getD 0).toInt

def height : Int := ((image.size.getD {}).y.getD 0).toInt

def depth : Int := (image.bitsPerPixel.getD 0).toInt

/-- The number of bits that the sizes tell, as an integer. -/
def bits : Int := image.width * image.height * image.depth

/-- The sizes are positive and tell the number of bytes. -/
def Consistent : Prop :=
  0 < image.width ∧ 0 < image.height ∧ 0 < image.depth ∧
    8 * ((image.data.getD []).length : Int) = image.bits

instance : Decidable image.Consistent := inferInstanceAs (Decidable (_ ∧ _ ∧ _ ∧ _))

/-- The products are `int`s, and sizes of which some are negative do not tell the number of
bytes. -/
structure Multiplies : Prop where
  area : FitsInt (image.width * image.height)
  bits : FitsInt image.bits
  signs : image.width < 0 ∨ image.height < 0 ∨ image.depth < 0 → 0 < image.bits →
    8 * ((image.data.getD []).length : Int) ≠ image.bits

end Proto.ImageData

/-- Every pixel has its bits among the bytes. -/
structure ImageData.Indexable (data : ImageData) : Prop where
  width : 0 < data.width.toInt
  height : 0 < data.height.toInt
  bitsPerPixel : 0 < data.bitsPerPixel.toInt
  pixels : ∀ cell ∈ Raster.cells data.width.toInt data.height.toInt,
    0 ≤ Raster.position data.width.toInt data.height.toInt cell * data.bitsPerPixel.toInt ∧
      (Raster.position data.width.toInt data.height.toInt cell + 1) * data.bitsPerPixel.toInt ≤
        8 * data.data.length

section Images

variable {image : Proto.ImageData}

theorem indexable_convertImageData (h : image.Consistent) : (convertImageData image).Indexable := by
  obtain ⟨hwidth, hheight, hdepth, hbits⟩ := h
  refine ⟨hwidth, hheight, hdepth, fun cell hcell => ?_⟩
  obtain ⟨hposition, hposition'⟩ := Raster.mapsTo_position hcell
  constructor
  · exact Int.mul_nonneg hposition hdepth.le
  · calc (Raster.position image.width image.height cell + 1) * image.depth
        ≤ image.width * image.height * image.depth :=
          Int.mul_le_mul_of_nonneg_right hposition' hdepth.le
      _ = 8 * (image.data.getD []).length := hbits.symm

/-- Positive bits come of positive sizes, but for two negative ones. -/
theorem consistent_iff (hsigns : image.width < 0 ∨ image.height < 0 ∨ image.depth < 0 →
      0 < image.bits → 8 * ((image.data.getD []).length : Int) ≠ image.bits) :
    0 < image.bits ∧ 8 * ((image.data.getD []).length : Int) = image.bits ↔
      image.Consistent := by
  constructor
  · rintro ⟨hpos, hlength⟩
    have hnonneg : ¬(image.width < 0 ∨ image.height < 0 ∨ image.depth < 0) := fun hnegative =>
      hsigns hnegative hpos hlength
    have hne := hpos.ne'
    unfold Proto.ImageData.bits at hne
    rw [Int.mul_ne_zero_iff, Int.mul_ne_zero_iff] at hne
    exact ⟨by omega, by omega, by omega, hlength⟩
  · rintro ⟨hwidth, hheight, hdepth, hlength⟩
    exact ⟨Int.mul_pos (Int.mul_pos hwidth hheight) hdepth, hlength⟩

theorem convertImage_of_fits (harea : FitsInt (image.width * image.height))
    (hbits : FitsInt image.bits) :
    convertImage image =
      .ok (decide (0 < image.bits ∧ 8 * ((image.data.getD []).length : Int) = image.bits),
        convertImageData image) := by
  have harea' : FitsInt ((convertImageData image).width.toInt *
      (convertImageData image).height.toInt) := harea
  have hbits' : FitsInt ((convertImageData image).width.toInt *
      (convertImageData image).height.toInt * (convertImageData image).bitsPerPixel.toInt) := hbits
  unfold convertImage
  dsimp only
  rw [checked_bind harea', harea'.toInt_ofInt, checked_bind hbits', hbits'.toInt_ofInt]
  refine congrArg (fun converted => Except.ok (converted, convertImageData image))
    (decide_eq_decide.2 (and_congr_right fun hpos => ?_))
  change (image.data.getD []).length * 8 = image.bits.toNat ↔ _
  change 0 < image.bits at hpos
  omega

theorem fits_of_convertImage {result : Bool × ImageData} (h : convertImage image = .ok result) :
    FitsInt (image.width * image.height) ∧ FitsInt image.bits := by
  obtain ⟨area, harea, h⟩ := bind_eq_ok_iff.1 h
  obtain ⟨bits, hbits, -⟩ := bind_eq_ok_iff.1 h
  have harea : area.toInt = image.width * image.height := checked_eq_ok_iff.1 harea
  have hbits : bits.toInt = area.toInt * image.depth := checked_eq_ok_iff.1 hbits
  have hbits' : bits.toInt = image.bits := by
    rw [hbits, harea]
    rfl
  exact ⟨harea ▸ fitsInt_toInt area, hbits' ▸ fitsInt_toInt bits⟩

/-- The success of the conversion tells that the sizes are those of the bytes. -/
theorem convertImage_eq_iff :
    convertImage image = .ok (decide image.Consistent, convertImageData image) ↔
      image.Multiplies := by
  constructor
  · intro h
    obtain ⟨harea, hbits⟩ := fits_of_convertImage h
    refine ⟨harea, hbits, fun hnegative hpos hlength => ?_⟩
    rw [convertImage_of_fits harea hbits, decide_eq_true ⟨hpos, hlength⟩] at h
    have hconsistent : image.Consistent :=
      of_decide_eq_true (congrArg (·.1) (Except.ok.inj h)).symm
    obtain ⟨hwidth, hheight, hdepth, -⟩ := hconsistent
    omega
  · intro h
    rw [convertImage_of_fits h.area h.bits, decide_eq_decide.2 (consistent_iff h.signs)]

end Images

/-! ## Frames -/

/-- An image is converted with success exactly if its sizes are those of its bytes, and then
has all its pixels, as the map and as the minimap of a frame too. -/
structure Proto.ImageData.Converts (image : Proto.ImageData) : Prop where
  converts : convertImage image = .ok (decide image.Consistent, convertImageData image)
  map : ∀ observationRender earlier render, observationRender.map = some image →
    convertRenderedFrame (some observationRender) earlier = .ok (true, render) →
      render.map.Indexable
  minimap : ∀ observationRender earlier render, observationRender.minimap = some image →
    convertRenderedFrame (some observationRender) earlier = .ok (true, render) →
      render.minimap.Indexable

/-- A frame is converted with success if its map and its minimap are. -/
theorem images_of_convertRenderedFrame {observationRender : Proto.ObservationRender}
    {earlier render : RenderedFrame}
    (h : convertRenderedFrame (some observationRender) earlier = .ok (true, render)) :
    (∀ map, observationRender.map = some map → convertImage map = .ok (true, render.map)) ∧
      ∀ minimap, observationRender.minimap = some minimap →
        convertImage minimap = .ok (true, render.minimap) := by
  unfold convertRenderedFrame at h
  dsimp only at h
  cases hmap : observationRender.map with
  | none =>
    rw [hmap] at h
    cases h
  | some map =>
    rw [hmap] at h
    obtain ⟨⟨converted, data⟩, hdata, h⟩ := bind_eq_ok_iff.1 h
    cases converted with
    | false => cases h
    | true =>
      cases hminimap : observationRender.minimap with
      | none =>
        rw [hminimap] at h
        cases h
      | some minimap =>
        rw [hminimap] at h
        obtain ⟨⟨converted', data'⟩, hdata', h⟩ := bind_eq_ok_iff.1 h
        cases converted' with
        | false => cases h
        | true =>
          cases h
          exact ⟨fun _ heq => Option.some.inj heq ▸ hdata, fun _ heq =>
            Option.some.inj heq ▸ hdata'⟩

theorem Proto.ImageData.converts_iff (image : Proto.ImageData) :
    image.Converts ↔ image.Multiplies := by
  refine ⟨fun h => convertImage_eq_iff.1 h.converts, fun h => ?_⟩
  have hconverts := convertImage_eq_iff.2 h
  have hindexable : ∀ data, convertImage image = .ok (true, data) → data.Indexable := by
    intro data hdata
    rw [hconverts] at hdata
    obtain ⟨hconsistent, rfl⟩ := Prod.ext_iff.1 (Except.ok.inj hdata)
    exact indexable_convertImageData (of_decide_eq_true hconsistent)
  refine ⟨hconverts, ?_, ?_⟩
  · intro observationRender earlier render hmap hrender
    exact hindexable _ ((images_of_convertRenderedFrame hrender).1 image hmap)
  · intro observationRender earlier render hminimap hrender
    exact hindexable _ ((images_of_convertRenderedFrame hrender).2 image hminimap)

/-- The width and the height are negative, and their product is the number of bits. -/
theorem Proto.ImageData.negative_sizes_convert :
    ¬Proto.ImageData.Converts
      { size := some ⟨some (-1), some (-8)⟩, bitsPerPixel := some 1, data := some [0] } :=
  fun h => absurd h.converts (by decide +kernel)

end Sc2Api
