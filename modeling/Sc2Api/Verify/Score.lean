import Sc2Api.ProtoToPods
import Mathlib.Tactic.Common

/-!
# Reading the score

A score `Matches` its message when every member has the value of the field of its name, and
zero for an absent one. Two members stand out: the vespene collected is never read, and the
damage taken only beside the minerals collected.
-/

namespace Sc2Api

/-! ## Scores and messages -/

def Proto.ScoreType.name : Proto.ScoreType → String
  | .curriculum => "Curriculum"
  | .melee => "Melee"

def ScoreType.name : ScoreType → String
  | .curriculum => "Curriculum"
  | .melee => "Melee"

/-- The record has the fields of the message, if there is one. -/
structure CategoryScoreDetails.Matches (data : Option Proto.CategoryScoreDetails)
    (record : CategoryScoreDetails) : Prop where
  none : record.none = (data.bind (·.none)).getD 0
  army : record.army = (data.bind (·.army)).getD 0
  economy : record.economy = (data.bind (·.economy)).getD 0
  technology : record.technology = (data.bind (·.technology)).getD 0
  upgrade : record.upgrade = (data.bind (·.upgrade)).getD 0

structure VitalScoreDetails.Matches (data : Option Proto.VitalScoreDetails)
    (record : VitalScoreDetails) : Prop where
  life : record.life = (data.bind (·.life)).getD 0
  shields : record.shields = (data.bind (·.shields)).getD 0
  energy : record.energy = (data.bind (·.energy)).getD 0

structure ScoreDetails.Matches (data : Proto.ScoreDetails) (details : ScoreDetails) :
    Prop where
  idleProductionTime : details.idleProductionTime = data.idleProductionTime.getD 0
  idleWorkerTime : details.idleWorkerTime = data.idleWorkerTime.getD 0
  totalValueUnits : details.totalValueUnits = data.totalValueUnits.getD 0
  totalValueStructures : details.totalValueStructures = data.totalValueStructures.getD 0
  killedValueUnits : details.killedValueUnits = data.killedValueUnits.getD 0
  killedValueStructures : details.killedValueStructures = data.killedValueStructures.getD 0
  collectedMinerals : details.collectedMinerals = data.collectedMinerals.getD 0
  collectedVespene : details.collectedVespene = data.collectedVespene.getD 0
  collectionRateMinerals : details.collectionRateMinerals = data.collectionRateMinerals.getD 0
  collectionRateVespene : details.collectionRateVespene = data.collectionRateVespene.getD 0
  spentMinerals : details.spentMinerals = data.spentMinerals.getD 0
  spentVespene : details.spentVespene = data.spentVespene.getD 0
  foodUsed : details.foodUsed.Matches data.foodUsed
  killedMinerals : details.killedMinerals.Matches data.killedMinerals
  killedVespene : details.killedVespene.Matches data.killedVespene
  lostMinerals : details.lostMinerals.Matches data.lostMinerals
  lostVespene : details.lostVespene.Matches data.lostVespene
  friendlyFireMinerals : details.friendlyFireMinerals.Matches data.friendlyFireMinerals
  friendlyFireVespene : details.friendlyFireVespene.Matches data.friendlyFireVespene
  usedMinerals : details.usedMinerals.Matches data.usedMinerals
  usedVespene : details.usedVespene.Matches data.usedVespene
  totalUsedMinerals : details.totalUsedMinerals.Matches data.totalUsedMinerals
  totalUsedVespene : details.totalUsedVespene.Matches data.totalUsedVespene
  totalDamageDealt : details.totalDamageDealt.Matches data.totalDamageDealt
  totalDamageTaken : details.totalDamageTaken.Matches data.totalDamageTaken
  totalHealed : details.totalHealed.Matches data.totalHealed

structure Score.Matches (data : Proto.Score) (entry : Score) : Prop where
  scoreType : entry.scoreType.name = (data.scoreType.getD .melee).name
  score : entry.score = ((data.score.getD 0).toInt : ℚ)
  scoreDetails : entry.scoreDetails.Matches (data.scoreDetails.getD {})

/-! ## What is read -/

theorem CategoryScoreDetails.Matches.getD (field : Option Proto.CategoryScoreDetails) :
    CategoryScoreDetails.Matches field ((field.map Sc2Api.convertCategory).getD {}) := by
  cases field <;> exact ⟨rfl, rfl, rfl, rfl, rfl⟩

theorem VitalScoreDetails.Matches.getD (field : Option Proto.VitalScoreDetails) :
    VitalScoreDetails.Matches field ((field.map Sc2Api.convertVital).getD {}) := by
  cases field <;> exact ⟨rfl, rfl, rfl⟩

theorem VitalScoreDetails.Matches.convertVital (field : Option Proto.VitalScoreDetails) :
    VitalScoreDetails.Matches field (Sc2Api.convertVital (field.getD {})) := by
  cases field <;> exact ⟨rfl, rfl, rfl⟩

/-- No vespene was collected, and no damage was taken unless the minerals collected are told. -/
structure Proto.ScoreDetails.NothingMissed (data : Proto.ScoreDetails) : Prop where
  collectedVespene : data.collectedVespene.getD 0 = 0
  totalDamageTaken : data.collectedMinerals = none →
    (data.totalDamageTaken.bind (·.life)).getD 0 = 0 ∧
      (data.totalDamageTaken.bind (·.shields)).getD 0 = 0 ∧
      (data.totalDamageTaken.bind (·.energy)).getD 0 = 0

theorem ScoreDetails.matches_convertScoreDetails_iff (data : Proto.ScoreDetails) :
    ScoreDetails.Matches data (convertScoreDetails data {}) ↔ data.NothingMissed := by
  constructor
  · intro h
    refine ⟨h.collectedVespene.symm, fun habsent => ?_⟩
    have htaken := h.totalDamageTaken
    simp only [convertScoreDetails, habsent, Option.isSome_none, Bool.false_eq_true,
      if_false] at htaken
    exact ⟨htaken.life.symm, htaken.shields.symm, htaken.energy.symm⟩
  · intro h
    have htaken : VitalScoreDetails.Matches data.totalDamageTaken
        (convertScoreDetails data {}).totalDamageTaken := by
      simp only [convertScoreDetails]
      cases hminerals : data.collectedMinerals with
      | some minerals => exact .convertVital _
      | none =>
        obtain ⟨hlife, hshields, henergy⟩ := h.totalDamageTaken hminerals
        exact ⟨hlife.symm, hshields.symm, henergy.symm⟩
    exact {
      idleProductionTime := rfl
      idleWorkerTime := rfl
      totalValueUnits := rfl
      totalValueStructures := rfl
      killedValueUnits := rfl
      killedValueStructures := rfl
      collectedMinerals := rfl
      collectedVespene := h.collectedVespene.symm
      collectionRateMinerals := rfl
      collectionRateVespene := rfl
      spentMinerals := rfl
      spentVespene := rfl
      foodUsed := .getD _
      killedMinerals := .getD _
      killedVespene := .getD _
      lostMinerals := .getD _
      lostVespene := .getD _
      friendlyFireMinerals := .getD _
      friendlyFireVespene := .getD _
      usedMinerals := .getD _
      usedVespene := .getD _
      totalUsedMinerals := .getD _
      totalUsedVespene := .getD _
      totalDamageDealt := .getD _
      totalDamageTaken := htaken
      totalHealed := .getD _ }

/-! ## Scores -/

section Scores

variable (observation : Proto.Observation) (data : Proto.Score)

theorem scoreDetails_convertScore :
    (convertScore { observation with score := some data }).2.scoreDetails =
      convertScoreDetails (data.scoreDetails.getD {}) {} := by
  simp only [convertScore]
  cases data.scoreDetails <;> rfl

/-- Whatever the object held, it matches the message if nothing of it is missed. -/
theorem Score.matches_convertScoreInto_iff (earlier : Score) :
    Score.Matches data (convertScoreInto earlier { observation with score := some data }).2 ↔
      (data.scoreDetails.getD {}).NothingMissed := by
  rw [convertScoreInto_eq, ← ScoreDetails.matches_convertScoreDetails_iff,
    ← scoreDetails_convertScore observation]
  refine ⟨Score.Matches.scoreDetails, fun h => ⟨?_, rfl, h⟩⟩
  simp only [convertScore]
  rcases data.scoreType with _ | _ | _ <;> rfl

end Scores

/-- The vespene collected stays at zero. -/
theorem Score.collected_vespene_missed :
    let details : Proto.ScoreDetails :=
      { collectedMinerals := some 300, collectedVespene := some 120 }
    ¬ Score.Matches { scoreDetails := some details }
      (convertScoreInto {} { score := some { scoreDetails := some details } }).2 := by
  intro details h
  exact absurd h.scoreDetails.collectedVespene (by decide +kernel)

end Sc2Api
