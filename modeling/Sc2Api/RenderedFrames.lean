import Sc2Api.MapImages

/-!
# Rendered frames

`Convert(image, data)` with its result, which `GetGameInfo` does not look at, and the
conversion of the rendered map and minimap, which does.
-/

namespace Sc2Api

open Lib

structure Proto.ObservationRender where
  map : Option ImageData := none
  minimap : Option ImageData := none
  deriving DecidableEq, Repr

structure RenderedFrame where
  map : ImageData := {}
  minimap : ImageData := {}
  deriving DecidableEq, Repr

/-- The two products are those of `int`s. The size of a string and its eightfold are counted
without wrapping. -/
def convertImage (image : Proto.ImageData) : Except Undefined (Bool × ImageData) := do
  let data := convertImageData image
  let area ← checked .overflow (data.width.toInt * data.height.toInt)
  let expectedSizeBits ← checked .overflow (area.toInt * data.bitsPerPixel.toInt)
  return (decide (0 < expectedSizeBits.toInt ∧
    data.data.length * 8 = expectedSizeBits.toInt.toNat), data)

/-- `Convert(observation_ptr, render)`, with the `render_data` of an observation that has no
errors. -/
def convertRenderedFrame (observationRender : Option Proto.ObservationRender)
    (render : RenderedFrame) : Except Undefined (Bool × RenderedFrame) := do
  match observationRender with
  | none => return (false, render)
  | some observationRender =>
    match observationRender.map with
    | none => return (false, render)
    | some map =>
      let (converted, map) ← convertImage map
      let render := { render with map }
      if !converted then return (false, render)
      match observationRender.minimap with
      | none => return (false, render)
      | some minimap =>
        let (converted, minimap) ← convertImage minimap
        let render := { render with minimap }
        if !converted then return (false, render)
        return (true, render)

end Sc2Api
