import Sc2Api.Lib.Reports
import Sc2Api.Verify.EventMembers
import Sc2Api.Verify.EventRefinement

/-!
# Observations that are only half taken in

`UpdateObservation` stops at the first part that is missing, and the events that
follow are the difference of whatever it updated. A difference that was told
before is then told again when it is still at hand and the game loop moved.
`never_repeats_iff` says exactly in which runs that happens.
-/

namespace Sc2Api

open Lib

/-! ## What an observation takes in and loses -/

namespace Proto.Observation

/-- The update reaches the units. -/
def TakesUnits (o : Observation) : Prop := o.score.isSome ∧ o.rawData.isSome

instance (o : Observation) : Decidable o.TakesUnits := inferInstanceAs (Decidable (_ ∧ _))

/-- The observation reports the unit dead, or is taken in and does not contain it. -/
def LosesUnit (o : Observation) (t : Tag) : Prop :=
  t ∈ o.deadUnits ∨ (o.TakesUnits ∧ ∀ u ∈ o.units, u.tagD ≠ t)

/-- The observation is taken in and does not contain the upgrade. -/
def LosesUpgrade (o : Observation) (x : UpgradeID) : Prop := o.Complete ∧ x ∉ o.upgradeIds

def unitPicture (o : Observation) (due : Prop) : Picture Tag where
  taken := o.TakesUnits
  shown t := (o.viewAt t).isSome
  reported t := ∃ now, o.viewAt t = some now ∧ now.alliance = .self
  removed t := t ∈ o.deadUnits
  due

def upgradePicture (o : Observation) (due : Prop) : Picture UpgradeID where
  taken := o.Complete
  shown x := x ∈ o.upgradeIds
  reported x := x ∈ o.upgradeIds
  removed _ := False
  due

theorem losesUnit_iff {o : Observation} {due : Prop} {t : Tag} :
    o.LosesUnit t ↔ (o.unitPicture due).Loses t := by
  unfold LosesUnit Picture.Loses unitPicture viewAt
  simp only [Option.isSome_map, lastWith_isSome, not_exists, not_and]

theorem losesUpgrade_iff {o : Observation} {due : Prop} {x : UpgradeID} :
    o.LosesUpgrade x ↔ (o.upgradePicture due).Loses x := by
  unfold LosesUpgrade Picture.Loses upgradePicture
  simp only [false_or]

end Proto.Observation

/-! ## The memory as snapshots -/

namespace EventState

variable {σ : EventState} {o : Proto.Observation}

def unitSnapshot (σ : EventState) : Snapshot Tag where
  now t := (σ.units t).isSome
  reported t := ∃ now, σ.units t = some now ∧ now.alliance = .self
  before t := (σ.before t).isSome

def upgradeSnapshot (σ : EventState) : Snapshot UpgradeID where
  now x := x ∈ σ.upgrades
  reported x := x ∈ σ.upgrades
  before x := x ∈ σ.upgradesPrevious

theorem dead_observe (σ : EventState) (o : Proto.Observation) :
    (σ.observe o).dead = o.deadUnits := by
  unfold observe
  cases o.score <;> cases o.rawData <;> cases o.upgradeIds? <;> rfl

/-- Only an observation whose score and raw data are present shifts the units. -/
theorem units_observe (σ : EventState) (o : Proto.Observation) :
    (σ.observe o).units = (if o.TakesUnits then o.viewAt else σ.units) ∧
      (σ.observe o).before = if o.TakesUnits then σ.units else σ.before := by
  by_cases h : o.TakesUnits
  · have hscore : o.score.isNone = false := Option.isNone_eq_false_iff.2 h.1
    have hraw : o.rawData.isNone = false := Option.isNone_eq_false_iff.2 h.2
    simp only [observe, hscore, hraw, Bool.false_eq_true, if_false, if_pos h]
    cases o.upgradeIds? <;> exact ⟨rfl, rfl⟩
  · rw [if_neg h, if_neg h]
    unfold observe
    cases hscore : o.score with
    | none => exact ⟨rfl, rfl⟩
    | some score =>
      cases hraw : o.rawData with
      | none => exact ⟨rfl, rfl⟩
      | some raw => exact absurd ⟨by rw [hscore]; rfl, by rw [hraw]; rfl⟩ h

/-- Only a complete observation shifts the upgrades. -/
theorem upgrades_observe (σ : EventState) (o : Proto.Observation) :
    (σ.observe o).upgrades = (if o.Complete then o.upgradeIds else σ.upgrades) ∧
      (σ.observe o).upgradesPrevious =
        if o.Complete then σ.upgrades else σ.upgradesPrevious := by
  by_cases h : o.Complete
  · rw [if_pos h, if_pos h, σ.observe_of_complete h]
    exact ⟨rfl, rfl⟩
  · rw [if_neg h, if_neg h]
    unfold observe
    cases hscore : o.score with
    | none => exact ⟨rfl, rfl⟩
    | some score =>
      cases hraw : o.rawData with
      | none => exact ⟨rfl, rfl⟩
      | some raw =>
        cases hids : o.upgradeIds? with
        | none => exact ⟨rfl, rfl⟩
        | some ids => exact absurd ⟨by rw [hscore]; rfl, by rw [hids]; rfl⟩ h

theorem unitSnapshot_observe (σ : EventState) (o : Proto.Observation) (due : Prop) :
    (σ.observe o).unitSnapshot = σ.unitSnapshot.take (o.unitPicture due) := by
  unfold unitSnapshot Snapshot.take Proto.Observation.unitPicture
  rw [(σ.units_observe o).1, (σ.units_observe o).2]
  by_cases h : o.TakesUnits <;> simp [h]

theorem upgradeSnapshot_observe (σ : EventState) (o : Proto.Observation) (due : Prop) :
    (σ.observe o).upgradeSnapshot = σ.upgradeSnapshot.take (o.upgradePicture due) := by
  unfold upgradeSnapshot Snapshot.take Proto.Observation.upgradePicture
  rw [(σ.upgrades_observe o).1, (σ.upgrades_observe o).2]
  by_cases h : o.Complete <;> simp [h]

/-- One frame moves the units as a reporter of differences does. -/
theorem Issues.unitSnapshot {σ' : EventState} {commands : List Tag} {log : List Callback}
    (h : (σ.observe o).Issues commands log σ') :
    σ'.unitSnapshot = σ.unitSnapshot.after (o.unitPicture (σ.observe o).Due) ∧
      ∀ t, .onUnitCreated t ∈ log ↔
        σ.unitSnapshot.Reports (o.unitPicture (σ.observe o).Due) t := by
  unfold Snapshot.after Snapshot.Reports
  rw [← unitSnapshot_observe]
  cases h with
  | delivered due order lists =>
    refine ⟨?_, fun t => ?_⟩
    · unfold EventState.unitSnapshot reap Proto.Observation.unitPicture
      rw [dead_observe]
      simp only [due, true_and, Snapshot.mk.injEq, and_true]
      refine ⟨funext fun t => ?_, funext fun t => ?_⟩ <;>
        by_cases ht : t ∈ o.deadUnits <;> simp [ht]
    · rw [created_mem_callbacks lists]
      unfold Snapshot.New EventState.unitSnapshot reap Proto.Observation.unitPicture
      rw [dead_observe]
      by_cases ht : t ∈ o.deadUnits
      · simp [ht]
      · simp [ht, due, ← and_assoc]
  | skipped notDue =>
    refine ⟨?_, fun t => ?_⟩
    · unfold EventState.unitSnapshot Proto.Observation.unitPicture
      simp [notDue]
    · simp [Proto.Observation.unitPicture, notDue]

/-- One frame moves the upgrades as a reporter of differences does. -/
theorem Issues.upgradeSnapshot {σ' : EventState} {commands : List Tag} {log : List Callback}
    (h : (σ.observe o).Issues commands log σ') :
    σ'.upgradeSnapshot = σ.upgradeSnapshot.after (o.upgradePicture (σ.observe o).Due) ∧
      ∀ x, .onUpgradeCompleted x ∈ log ↔
        σ.upgradeSnapshot.Reports (o.upgradePicture (σ.observe o).Due) x := by
  unfold Snapshot.after Snapshot.Reports
  rw [← upgradeSnapshot_observe]
  cases h with
  | delivered due order lists =>
    refine ⟨?_, fun x => ?_⟩
    · unfold EventState.upgradeSnapshot reap Proto.Observation.upgradePicture
      simp
    · rw [upgrade_mem_callbacks lists]
      unfold Snapshot.New EventState.upgradeSnapshot Proto.Observation.upgradePicture
      simp [due]
  | skipped notDue =>
    refine ⟨?_, fun x => ?_⟩
    · unfold EventState.upgradeSnapshot Proto.Observation.upgradePicture
      simp
    · simp [Proto.Observation.upgradePicture, notDue]

end EventState

/-! ## Runs under watch -/

/-- A client with what it told of the differences it has at hand: whether the unit
difference was told since the units were last taken in, the units reported dead
since it was, and the same for the upgrades. -/
structure Watched where
  client : ControlImp
  unitsTold : Bool := false
  unitsLost : List Tag := []
  upgradesTold : Bool := false

namespace Watched

def initial (answers : List (Option (List Proto.AbilityData))) : Watched where
  client := .withAnswers answers

def unitWatch (s : Watched) : Watch Tag := ⟨s.unitsTold, (· ∈ s.unitsLost)⟩

def upgradeWatch (s : Watched) : Watch UpgradeID := ⟨s.upgradesTold, fun _ => False⟩

/-- A delivery is due after the observation of a frame. -/
def dueAfter (s : Watched) (f : Frame) : Bool :=
  (s.client.eventState.observe f.observation).Due

def step (s : Watched) (f : Frame) : Watched × List Callback :=
  let r := frames.step s.client f
  let due := s.dueAfter f
  ({ client := r.1
     unitsTold := due || (s.unitsTold && !f.observation.TakesUnits)
     unitsLost := if due then [] else s.unitsLost ++ f.observation.deadUnits
     upgradesTold := due || (s.upgradesTold && !f.observation.Complete) }, r.2)

/-- The alternating run of `frames`, watched. -/
def machine : Machine Watched Frame (List Callback) := ⟨step⟩

/-- The frame does not tell a difference twice: its delivery is not due, or its parts
are present, or what is at hand was not told, or nothing of it is left to tell. -/
def Fresh (s : Watched) (f : Frame) : Prop :=
  let due := (s.client.eventState.observe f.observation).Due
  s.client.eventState.unitSnapshot.Fresh s.unitWatch (f.observation.unitPicture due) ∧
    s.client.eventState.upgradeSnapshot.Fresh s.upgradeWatch (f.observation.upgradePicture due)

theorem unitWatch_step (s : Watched) (f : Frame) :
    (s.step f).1.unitWatch = s.unitWatch.next
      (f.observation.unitPicture (s.client.eventState.observe f.observation).Due) := by
  unfold unitWatch step dueAfter Watch.next Proto.Observation.unitPicture
  by_cases hdue : (s.client.eventState.observe f.observation).Due <;> simp [hdue]

theorem upgradeWatch_step (s : Watched) (f : Frame) :
    (s.step f).1.upgradeWatch = s.upgradeWatch.next
      (f.observation.upgradePicture (s.client.eventState.observe f.observation).Due) := by
  unfold upgradeWatch step dueAfter Watch.next Proto.Observation.upgradePicture
  by_cases hdue : (s.client.eventState.observe f.observation).Due <;> simp [hdue]

/-- One frame keeps the ledger of the units, and creates none twice exactly when it is
fresh for them. -/
theorem unitLedger_step {s : Watched} {told : Tag → Prop} (hready : s.client.Ready)
    (h : Ledger s.client.eventState.unitSnapshot s.unitWatch told) (f : Frame) :
    Ledger (s.step f).1.client.eventState.unitSnapshot (s.step f).1.unitWatch
        (fun t => .onUnitCreated t ∈ (s.step f).2 ∨ (told t ∧ ¬f.observation.LosesUnit t)) ∧
      ((∀ t, .onUnitCreated t ∈ (s.step f).2 → told t → f.observation.LosesUnit t) ↔
        s.client.eventState.unitSnapshot.Fresh s.unitWatch (f.observation.unitPicture
          (s.client.eventState.observe f.observation).Due)) := by
  obtain ⟨hsnapshot, hcreated⟩ := (hready.frame f).2.unitSnapshot
  have hloses (t : Tag) : f.observation.LosesUnit t ↔
      (f.observation.unitPicture (s.client.eventState.observe f.observation).Due).Loses t :=
    Proto.Observation.losesUnit_iff
  have hcreated' : ∀ t, .onUnitCreated t ∈ (s.step f).2 ↔ _ := hcreated
  simp only [hcreated', hloses]
  refine ⟨?_, h.fresh_iff⟩
  rw [unitWatch_step]
  show Ledger (frames.step s.client f).1.eventState.unitSnapshot _ _
  rw [hsnapshot]
  refine h.step fun t ht => ?_
  rw [← EventState.unitSnapshot_observe] at ht ⊢
  obtain ⟨now, hnow, -⟩ := ht
  exact Option.isSome_iff_exists.2 ⟨now, hnow⟩

/-- One frame keeps the ledger of the upgrades, and completes none twice exactly when
it is fresh for them. -/
theorem upgradeLedger_step {s : Watched} {told : UpgradeID → Prop} (hready : s.client.Ready)
    (h : Ledger s.client.eventState.upgradeSnapshot s.upgradeWatch told) (f : Frame) :
    Ledger (s.step f).1.client.eventState.upgradeSnapshot (s.step f).1.upgradeWatch
        (fun x => .onUpgradeCompleted x ∈ (s.step f).2 ∨
          (told x ∧ ¬f.observation.LosesUpgrade x)) ∧
      ((∀ x, .onUpgradeCompleted x ∈ (s.step f).2 → told x → f.observation.LosesUpgrade x) ↔
        s.client.eventState.upgradeSnapshot.Fresh s.upgradeWatch (f.observation.upgradePicture
          (s.client.eventState.observe f.observation).Due)) := by
  obtain ⟨hsnapshot, hcompleted⟩ := (hready.frame f).2.upgradeSnapshot
  have hloses (x : UpgradeID) : f.observation.LosesUpgrade x ↔
      (f.observation.upgradePicture (s.client.eventState.observe f.observation).Due).Loses x :=
    Proto.Observation.losesUpgrade_iff
  have hcompleted' : ∀ x, .onUpgradeCompleted x ∈ (s.step f).2 ↔ _ := hcompleted
  simp only [hcompleted', hloses]
  refine ⟨?_, h.fresh_iff⟩
  rw [upgradeWatch_step]
  show Ledger (frames.step s.client f).1.eventState.upgradeSnapshot _ _
  rw [hsnapshot]
  refine h.step fun x hx => ?_
  rwa [← EventState.upgradeSnapshot_observe] at hx ⊢

/-- Watching changes nothing. -/
theorem machine_run (s : Watched) (fs : List Frame) :
    (machine.final s fs).client = frames.final s.client fs ∧
      machine.outputs s fs = frames.outputs s.client fs := by
  induction fs generalizing s with
  | nil => exact ⟨rfl, rfl⟩
  | cons f fs ih => exact ⟨(ih _).1, congrArg _ (ih _).2⟩

end Watched

/-! ## The theorem -/

section Runs

variable {answers : List (Option (List Proto.AbilityData))}

/-- The frames of a run with the callbacks they led to. -/
def trace (answers : List (Option (List Proto.AbilityData))) (fs : List Frame) :
    List (Frame × List Callback) :=
  fs.zip (frames.outputs (.withAnswers answers) fs)

theorem trace_concat (fs : List Frame) (f : Frame) :
    trace answers (fs ++ [f]) = trace answers fs ++
      [(f, (frames.step (frames.final (.withAnswers answers) fs) f).2)] := by
  unfold trace
  rw [frames.outputs_append, List.zip_append (frames.length_outputs _ _).symm]
  rfl

/-- No unit is created and no upgrade completed twice, unless an observation in
between did not contain it. -/
structure NeverRepeats (answers : List (Option (List Proto.AbilityData))) (fs : List Frame) :
    Prop where
  units : NoRepeat (fun d t => .onUnitCreated t ∈ d.2) (fun d t => d.1.observation.LosesUnit t)
    (trace answers fs)
  upgrades : NoRepeat (fun d x => .onUpgradeCompleted x ∈ d.2)
    (fun d x => d.1.observation.LosesUpgrade x) (trace answers fs)

/-- The ledgers of the units and of the upgrades are in order after a run, and the
run repeats nothing exactly when its frames were fresh. -/
structure RunLedger (answers : List (Option (List Proto.AbilityData))) (fs : List Frame) :
    Prop where
  ready : (Watched.machine.final (.initial answers) fs).client.Ready
  units : Ledger (Watched.machine.final (.initial answers) fs).client.eventState.unitSnapshot
    (Watched.machine.final (.initial answers) fs).unitWatch
    (Told (fun d t => .onUnitCreated t ∈ d.2) (fun d t => d.1.observation.LosesUnit t)
      (trace answers fs))
  upgrades : Ledger (Watched.machine.final (.initial answers) fs).client.eventState.upgradeSnapshot
    (Watched.machine.final (.initial answers) fs).upgradeWatch
    (Told (fun d x => .onUpgradeCompleted x ∈ d.2) (fun d x => d.1.observation.LosesUpgrade x)
      (trace answers fs))
  iff : NeverRepeats answers fs ↔ Watched.machine.Along Watched.Fresh (.initial answers) fs

theorem RunLedger.nil : RunLedger answers [] where
  ready := .initial answers
  units :=
    ⟨fun x hx => absurd hx (told_nil x), fun x hx => absurd hx (told_nil x),
      fun _ htold => absurd htold (by simp [Watched.unitWatch, Watched.initial])⟩
  upgrades :=
    ⟨fun x hx => absurd hx (told_nil x), fun x hx => absurd hx (told_nil x),
      fun _ htold => absurd htold (by simp [Watched.upgradeWatch, Watched.initial])⟩
  iff := ⟨fun _ => trivial, fun _ => ⟨noRepeat_nil, noRepeat_nil⟩⟩

theorem neverRepeats_concat {fs : List Frame} {f : Frame} {log : List Callback}
    (hlog : trace answers (fs ++ [f]) = trace answers fs ++ [(f, log)]) :
    NeverRepeats answers (fs ++ [f]) ↔
      NeverRepeats answers fs ∧
        (∀ t, .onUnitCreated t ∈ log →
          Told (fun d t => .onUnitCreated t ∈ d.2) (fun d t => d.1.observation.LosesUnit t)
            (trace answers fs) t → f.observation.LosesUnit t) ∧
        ∀ x, .onUpgradeCompleted x ∈ log →
          Told (fun d x => .onUpgradeCompleted x ∈ d.2)
            (fun d x => d.1.observation.LosesUpgrade x) (trace answers fs) x →
              f.observation.LosesUpgrade x := by
  constructor
  · rintro ⟨hunits, hupgrades⟩
    rw [hlog] at hunits hupgrades
    obtain ⟨hu, hu'⟩ := noRepeat_concat.1 hunits
    obtain ⟨hx, hx'⟩ := noRepeat_concat.1 hupgrades
    exact ⟨⟨hu, hx⟩, hu', hx'⟩
  · rintro ⟨⟨hu, hx⟩, hu', hx'⟩
    refine ⟨?_, ?_⟩
    · rw [hlog]
      exact noRepeat_concat.2 ⟨hu, hu'⟩
    · rw [hlog]
      exact noRepeat_concat.2 ⟨hx, hx'⟩

/-- One more frame keeps the ledgers. -/
theorem RunLedger.concat {fs : List Frame} (h : RunLedger answers fs) (f : Frame) :
    RunLedger answers (fs ++ [f]) := by
  have hlog : trace answers (fs ++ [f]) =
      trace answers fs ++ [(f, ((Watched.machine.final (.initial answers) fs).step f).2)] := by
    have hclient : (Watched.machine.final (.initial answers) fs).client =
        frames.final (.withAnswers answers) fs := (Watched.machine_run (.initial answers) fs).1
    rw [trace_concat, ← hclient]
    rfl
  have hfinal : Watched.machine.final (.initial answers) (fs ++ [f]) =
      ((Watched.machine.final (.initial answers) fs).step f).1 :=
    Watched.machine.final_concat (.initial answers) fs f
  obtain ⟨hunits, hunitsFresh⟩ := Watched.unitLedger_step h.ready h.units f
  obtain ⟨hupgrades, hupgradesFresh⟩ := Watched.upgradeLedger_step h.ready h.upgrades f
  refine ⟨?_, ?_, ?_, ?_⟩
  · rw [hfinal]
    exact (h.ready.frame f).1
  · rw [hfinal, hlog]
    exact hunits.congr fun t => told_concat
  · rw [hfinal, hlog]
    exact hupgrades.congr fun x => told_concat
  · rw [neverRepeats_concat hlog, Machine.along_append, h.iff, hunitsFresh, hupgradesFresh]
    simp [Watched.Fresh]

theorem runLedger (answers : List (Option (List Proto.AbilityData))) (fs : List Frame) :
    RunLedger answers fs := by
  induction fs using List.reverseRecOn with
  | nil => exact .nil
  | append_singleton fs f ih => exact ih.concat f

/-- For every sequence of observations with any parts missing, no event is repeated
exactly when every frame was fresh. -/
theorem never_repeats_iff (answers : List (Option (List Proto.AbilityData))) (fs : List Frame) :
    NeverRepeats answers fs ↔ Watched.machine.Along Watched.Fresh (.initial answers) fs :=
  (runLedger answers fs).iff

end Runs

/-- An observation without a score creates the unit of the one before it again. -/
theorem repeats_without_score : ¬∀ answers fs, NeverRepeats answers fs := by
  intro h
  let f : Frame := { observation := .full 1 [.idleOwn 7] [] [] }
  let g : Frame := { observation := { gameLoop := some 2 } }
  obtain ⟨c, hc, hlost⟩ := (h [] [f, g]).units [] (f, (frames.step (.withAnswers []) f).2) []
    (g, (frames.step (frames.step (.withAnswers []) f).1 g).2) [] rfl 7 (by decide +kernel)
    (by decide +kernel)
  obtain rfl := List.mem_singleton.1 hc
  rcases hlost with hdead | ⟨htakes, -⟩
  · exact absurd hdead (by decide)
  · exact absurd htakes (by decide)

end Sc2Api
