import Sc2Api.Verify.ClientSteps

/-!
# Units do not remember their slots

The records of the pool are reused from observation to observation. A conversion
overwrites every member of the records of its units, so that they are the units of the
message whatever their slots held, and leaves all other records alone.
-/

namespace Sc2Api

open Lib UnitPool

/-! ## The lists a bot reads -/

namespace ObservationImp

/-- `GetUnits()`. -/
def getUnits (s : ObservationImp) (order : UnitPool.Order) : List PoolIndex :=
  s.unitPool.existingUnits order

def getUnit (s : ObservationImp) (tag : Tag) : Option PoolIndex := s.unitPool.getExistingUnit tag

end ObservationImp

/-! ## Conversion -/

variable {p : UnitPool} {loop : GameLoop} {raw : Proto.ObservationRaw}

/-- What is written to a record does not depend on what was there. -/
theorem convertUnit_eq (u : Proto.Unit) (loop : GameLoop) (old old' : Unit) :
    convertUnit u loop old = convertUnit u loop old' := rfl

/-- A conversion leaves the units that are not in the message alone. -/
theorem foldl_convertIntoPool_frame (h : p.Tagged) (loop : GameLoop) (units : List Proto.Unit)
    {t : Tag} (ht : t ∉ units.map (·.tagD)) :
    (units.foldl (convertIntoPool loop) p).getUnit t = p.getUnit t ∧
      (units.foldl (convertIntoPool loop) p).content t = p.content t := by
  induction units generalizing p with
  | nil => exact ⟨rfl, rfl⟩
  | cons u units ih =>
    rw [List.map_cons, List.mem_cons, not_or] at ht
    obtain ⟨hgetUnit, hcontent⟩ := ih (h.convertIntoPool loop u) ht.2
    have hstep := convertedInto h.toWF loop u
    refine ⟨hgetUnit.trans ?_, hcontent.trans (hstep.content_ne t ht.1)⟩
    rw [convertIntoPool_eq, getUnit_write, getUnit_createUnit_ne _ _ ht.1]

/-- Of the units known before or in a message, the pool shows those of the message, and
has changed no others. -/
structure Shows (s s' : ObservationImp) (raw : Proto.ObservationRaw) (loop : GameLoop) :
    Prop where
  /-- The existing units are the units of the message. -/
  existing : ∀ t, s'.getUnit t ≠ none ↔ t ∈ raw.units.map (·.tagD)
  /-- Their records are what the conversion makes of any record. -/
  record : ∀ u ∈ raw.units, ∀ old,
    s'.unitPool.existingUnit u.tagD = some (convertUnit u loop old)
  /-- They were seen just now, alive; nothing is supposed of a cloak not mentioned. -/
  seen : ∀ u ∈ raw.units, ∃ unit, s'.unitPool.existingUnit u.tagD = some unit ∧
    unit.isAlive = true ∧ unit.lastSeenGameLoop = loop ∧
    (u.cloak = none → unit.cloak = .unknown)
  /-- `GetUnits` lists each of them once, under its own tag. -/
  listed : ∀ order, (s'.getUnits order).Nodup ∧
    ((s'.getUnits order).map fun i => (s'.unitPool.deref i).tag).Perm (raw.units.map (·.tagD))
  /-- `GetUnit` returns the unit that is listed. -/
  found : ∀ order, ∀ i ∈ s'.getUnits order, s'.getUnit (s'.unitPool.deref i).tag = some i
  /-- The other known units keep their slots and their records. -/
  kept : ∀ t, s.unitPool.getUnit t ≠ none → t ∉ raw.units.map (·.tagD) →
    s'.unitPool.getUnit t = s.unitPool.getUnit t ∧
      s'.unitPool.content t = s.unitPool.content t

theorem shows_of_tagged {s : ObservationImp} (h : s.unitPool.Tagged) (loop : GameLoop)
    (hdistinct : (raw.units.map (·.tagD)).Nodup) :
    Shows s { s with unitPool := convertUnits raw s.unitPool.clearExisting loop } raw loop := by
  obtain ⟨htag, -, hexisting⟩ := convertUnits_spec h loop raw
  have hframe : ∀ t, t ∉ raw.units.map (·.tagD) →
      (convertUnits raw s.unitPool.clearExisting loop).getUnit t = s.unitPool.getUnit t ∧
        (convertUnits raw s.unitPool.clearExisting loop).content t = s.unitPool.content t :=
    fun t => foldl_convertIntoPool_frame h.clearExisting loop raw.units
  generalize convertUnits raw s.unitPool.clearExisting loop = p' at htag hexisting hframe ⊢
  have hrecord : ∀ u ∈ raw.units, p'.existingUnit u.tagD = some (convertUnit u loop default) := by
    intro u hu
    rw [hexisting, (Proto.lastWith_eq_some hdistinct).2 ⟨hu, rfl⟩]
    rfl
  have hmem : ∀ t, p'.getExistingUnit t ≠ none ↔ t ∈ raw.units.map (·.tagD) := by
    intro t
    rw [← Option.isSome_iff_ne_none, ← htag.existing_isSome, hexisting, Option.isSome_map,
      Proto.lastWith_isSome, List.mem_map]
  have htags : ∀ order, (p'.existingTags order).Perm (raw.units.map (·.tagD)) := by
    intro order
    refine (List.perm_ext_iff_of_nodup (existingTags_nodup _ order) hdistinct).2 fun t => ?_
    rw [mem_existingTags_iff, Option.isSome_iff_ne_none, hmem]
  refine ⟨hmem, fun u hu old => ?_, fun u hu => ⟨_, hrecord u hu, rfl, rfl, ?_⟩, fun order => ?_,
    ?_, fun t _ ht => hframe t ht⟩
  · rw [convertUnit_eq u loop old default]
    exact hrecord u hu
  · intro hcloak
    simp only [convertUnit, hcloak]
  · have hmap := htag.map_tag_existingUnits order
    refine ⟨?_, (List.Perm.of_eq hmap).trans (htags order)⟩
    have hnodup := existingTags_nodup p' order
    rw [← hmap] at hnodup
    exact hnodup.of_map _
  · intro order i hi
    obtain ⟨t, ht⟩ := mem_existingUnits hi
    show p'.getExistingUnit (p'.deref i).tag = some i
    rw [htag.deref_tag (htag.existing ht)]
    exact ht

/-- Whatever a client did before, the units it shows are those of the message it
converts, and the records of all others stay. -/
theorem converted_units_are_the_message (processInfo : Option ProcessInfo)
    (calls : List (World × ClientCall)) (raw : Proto.ObservationRaw) (loop : GameLoop)
    (hdistinct : (raw.units.map (·.tagD)).Nodup) :
    let s := (clientMachine.final { processInfo } calls).imp.observationImp
    Shows s { s with unitPool := convertUnits raw s.unitPool.clearExisting loop } raw loop :=
  shows_of_tagged ((clientMachine_steps _ calls).tagged Tagged.empty) loop hdistinct

/-- A world that answers every request with an observation. -/
def Proto.Observation.world (o : Proto.Observation) : World where
  deliveries := .const { waiting := [.answer { observation := { observation := some o } }] }

/-- A unit whose slot held a full record. -/
theorem converted_units_of_used_slot :
    let s := (clientMachine.final {} [((Proto.Observation.full 1
      [{ tag := some 7, energy := some 50, buffIds := [3] }] [] []).world,
        .getObservation)]).imp.observationImp
    (s.unitPool.existingUnit 7).map (fun u => (u.energy, u.buffs)) = some (50, [3]) ∧
      Shows s { s with
        unitPool := convertUnits { units := [{ tag := some 7 }] } s.unitPool.clearExisting 2 }
        { units := [{ tag := some 7 }] } 2 :=
  ⟨by decide +kernel, converted_units_are_the_message none _ _ 2 (by decide)⟩

end Sc2Api
