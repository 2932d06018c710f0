import Sc2Api.Lib.Lists
import Sc2Api.Verify.WrongVersions
import Mathlib.Algebra.Order.BigOperators.Group.List
import Mathlib.Data.List.Nodup
import Mathlib.Data.List.ProdSigma

/-!
# Relaunches over runs of updates

How often an observer is relaunched for one entry of the list of replays. An entry that
asks for another version stays on the list, so it is the relaunched client's ping that
decides whether it is asked for once more.
-/

namespace Sc2Api

open Lib

/-- What an update does about versions: its attempts at replays, the errors it then finds at
its observers, and the observers it relaunches. -/
structure RecoveryReport where
  attempts : List ReplayAttempt
  errors : List ClientError
  relaunches : List ObserverId
  deriving Repr

namespace RecoveryReport

/-- The observer was to be relaunched for the entry. -/
def Wanted (R : RecoveryReport) (i : ObserverId) (entry : Nat) : Prop :=
  ∃ a ∈ R.attempts, a.observer = i ∧ a.entry = entry ∧ a.outcome = .wrongVersion

instance (R : RecoveryReport) (i : ObserverId) (entry : Nat) : Decidable (R.Wanted i entry) :=
  inferInstanceAs (Decidable (∃ a ∈ R.attempts, _))

/-- How often the observer is relaunched for the entry. -/
def relaunchesFor (R : RecoveryReport) (i : ObserverId) (entry : Nat) : Nat :=
  if R.Wanted i entry then R.relaunches.count i else 0

/-- An observer that came to an entry of another version in the first report has the entry's
version when it comes to it again in the second one, or the version cannot be had. -/
def Settles (R S : RecoveryReport) : Prop :=
  ∀ a ∈ R.attempts, ∀ b ∈ S.attempts, a.ignored = false → ¬a.Settled →
    b.observer = a.observer → b.entry = a.entry → b.ignored = false → b.Settled

instance (R S : RecoveryReport) : Decidable (R.Settles S) :=
  inferInstanceAs (Decidable (∀ a ∈ R.attempts, ∀ b ∈ S.attempts, _))

variable {R : RecoveryReport} {i : ObserverId} {entry : Nat}

theorem relaunchesFor_ne_zero :
    R.relaunchesFor i entry ≠ 0 ↔ R.Wanted i entry ∧ i ∈ R.relaunches := by
  unfold relaunchesFor
  split
  next hwanted => simp [hwanted, List.count_eq_zero]
  next hwanted => simp [hwanted]

/-- The entry an observer is relaunched for, the first one if there are several. -/
def entryOf (R : RecoveryReport) (i : ObserverId) : Nat :=
  ((R.attempts.find? fun a => a.observer = i ∧ a.outcome = .wrongVersion).map (·.entry)).getD 0

def targets (R : RecoveryReport) : List (ObserverId × Nat) :=
  R.relaunches.map fun i => (i, R.entryOf i)

theorem wanted_entryOf (h : ∃ a ∈ R.attempts, a.observer = i ∧ a.outcome = .wrongVersion) :
    R.Wanted i (R.entryOf i) := by
  obtain ⟨a, ha, hobserver, houtcome⟩ := h
  unfold entryOf
  cases hfind : R.attempts.find? fun a => a.observer = i ∧ a.outcome = .wrongVersion with
  | none =>
    have hnone := List.find?_eq_none.1 hfind a ha
    exact absurd (decide_eq_true (And.intro hobserver houtcome)) hnone
  | some b =>
    have hb := List.find?_some hfind
    rw [decide_eq_true_iff] at hb
    exact ⟨b, List.mem_of_find?_eq_some hfind, hb.1, rfl, hb.2⟩

section

variable (herrors : ∀ i ∈ R.relaunches,
  ∃ a ∈ R.attempts, a.observer = i ∧ a.outcome = .wrongVersion)

include herrors

theorem wanted_of_mem_targets {target : ObserverId × Nat} (htarget : target ∈ R.targets) :
    R.Wanted target.1 target.2 := by
  obtain ⟨i, hi, rfl⟩ := List.mem_map.1 htarget
  exact wanted_entryOf (herrors i hi)

theorem count_targets_le (i : ObserverId) (entry : Nat) :
    R.targets.count (i, entry) ≤ R.relaunchesFor i entry := by
  by_cases hin : (i, entry) ∈ R.targets
  · have hwanted := wanted_of_mem_targets herrors hin
    rw [relaunchesFor, if_pos hwanted, targets, List.count, List.countP_map, List.count]
    refine List.countP_mono_left fun j _ hj => ?_
    simp only [Function.comp_apply, beq_iff_eq, Prod.mk.injEq] at hj
    exact beq_iff_eq.2 hj.1
  · rw [List.count_eq_zero.2 hin]
    exact Nat.zero_le _

end

end RecoveryReport

def CoordinatorImp.recoveryReport (c : CoordinatorImp) : RecoveryReport where
  attempts := c.replayAttempts
  errors := c.checkedAgents.foundErrors c.checkedAgents.replayObservers
  relaunches := c.checkedAgents.relaunches c.checkedAgents.replayObservers

/-- A coordinator that is updated again and again, with its reports. -/
def recoveryMachine : Machine CoordinatorImp Worlds RecoveryReport where
  step c worlds := ((c.inWorlds worlds).update.2, (c.inWorlds worlds).recoveryReport)

def recoveryReports (c : CoordinatorImp) (worlds : List Worlds) : List RecoveryReport :=
  recoveryMachine.outputs c worlds

/-- No observer is relaunched twice for an entry, nor more often than there are observers
and replays. -/
structure RelaunchesBounded (c : CoordinatorImp) (worlds : List Worlds) : Prop where
  once : ∀ i entry, ((recoveryReports c worlds).map (·.relaunchesFor i entry)).sum ≤ 1
  total : ((recoveryReports c worlds).map (·.relaunches.length)).sum ≤
    c.replayObservers.length * c.replaySettings.replayFile.length

/-- What a run needs of the games behind it: no client is outdated when it starts, the loop
over the errors finds wrong versions only, and an observer that comes back to an entry has
the version of the entry, if that can be had. -/
structure RelaunchesTake (c : CoordinatorImp) (worlds : List Worlds) : Prop where
  fresh : c.Fresh
  errors : ∀ R ∈ recoveryReports c worlds, ∀ error ∈ R.errors, error = .wrongGameVersion
  settles : (recoveryReports c worlds).Pairwise RecoveryReport.Settles

/-! ## Reports and attempts -/

variable {c : CoordinatorImp} {worlds : List Worlds}

theorem replayAttempts_eq : replayAttempts c worlds =
    (recoveryReports c worlds).flatMap (·.attempts) := by
  unfold replayAttempts recoveryReports
  induction worlds generalizing c with
  | nil => rfl
  | cons w worlds ih => exact congrArg ((c.inWorlds w).replayAttempts ++ ·) ih

theorem mem_replayAttempts {R : RecoveryReport} (hR : R ∈ recoveryReports c worlds)
    {a : ReplayAttempt} (ha : a ∈ R.attempts) : a ∈ replayAttempts c worlds := by
  rw [replayAttempts_eq]
  exact List.mem_flatMap.2 ⟨R, hR, ha⟩

theorem observer_of_mem_replayAttempts :
    ∀ a ∈ replayAttempts c worlds, a.observer ∈ c.replayObservers := by
  unfold replayAttempts
  induction worlds generalizing c with
  | nil => exact List.forall_mem_nil _
  | cons w worlds ih =>
    have hsame : (c.inWorlds w).update.2.replayObservers = c.replayObservers :=
      CoordinatorImp.uses_update.replayObservers
    rw [Machine.outputs_cons, List.flatten_cons]
    refine List.forall_mem_append.2 ⟨?_, fun a ha => hsame ▸ ih a ha⟩
    refine CoordinatorImp.forall_mem_replayAttempts fun i hi c' file => ?_
    rw [CoordinatorImp.observer_tryReplay]
    exact hi

/-! ## Relaunches and attempts -/

/-- A relaunch is for a replay of another version, if nothing else goes wrong. -/
theorem CoordinatorImp.relaunches_recoveryReport (hfresh : c.replayRecovery = true → c.Fresh)
    (herrors : ∀ error ∈ c.recoveryReport.errors, error = .wrongGameVersion) :
    c.recoveryReport.relaunches.Nodup ∧ ∀ i ∈ c.recoveryReport.relaunches,
      ∃ a ∈ c.recoveryReport.attempts, a.observer = i ∧ a.outcome = .wrongVersion := by
  have hblames : c.Blames c.replayAttempts c.checkedAgents := blames_checkedAgents
  unfold recoveryReport at herrors ⊢
  cases hrecovery : c.replayRecovery with
  | false =>
    rw [relaunches_off (hblames.replayRecovery.trans hrecovery)]
    exact ⟨List.nodup_nil, List.forall_mem_nil _⟩
  | true =>
    obtain ⟨hnodup, hout⟩ :=
      relaunches_spec (hblames.replayRecovery.trans hrecovery) _ herrors
    refine ⟨hnodup, fun i hi => (hblames.outdated i (hout i hi)).resolve_left ?_⟩
    exact hfresh hrecovery i (replayObservers_checkedAgents ▸ mem_of_mem_relaunches hi)

theorem relaunches_of_mem_reports (hfresh : c.replayRecovery = true → c.Fresh) :
    ∀ R ∈ recoveryReports c worlds, (∀ error ∈ R.errors, error = .wrongGameVersion) →
      R.relaunches.Nodup ∧ ∀ i ∈ R.relaunches,
        ∃ a ∈ R.attempts, a.observer = i ∧ a.outcome = .wrongVersion := by
  unfold recoveryReports
  induction worlds generalizing c with
  | nil => exact List.forall_mem_nil _
  | cons w worlds ih =>
    rw [Machine.outputs_cons]
    refine List.forall_mem_cons.2 ⟨?_, ?_⟩
    · exact CoordinatorImp.relaunches_recoveryReport (c := c.inWorlds w) hfresh
    · refine ih fun hrecovery => ?_
      exact CoordinatorImp.fresh_update (CoordinatorImp.replayRecovery_update.symm.trans hrecovery)

/-! ## The bound -/

/-- An entry for which an observer was relaunched is not what it is relaunched for later. -/
theorem not_wanted_again (h : RelaunchesTake c worlds) (i : ObserverId) (entry : Nat) :
    (recoveryReports c worlds).Pairwise fun R S =>
      R.relaunchesFor i entry = 0 ∨ S.relaunchesFor i entry = 0 := by
  refine h.settles.imp_of_mem fun {R S} hR hS hsettles => ?_
  by_contra hboth
  obtain ⟨hRfor, hSfor⟩ := not_or.1 hboth
  obtain ⟨⟨a, ha, rfl, rfl, haout⟩, -⟩ := RecoveryReport.relaunchesFor_ne_zero.1 hRfor
  obtain ⟨⟨b, hb, hobserver, hentry, hbout⟩, -⟩ := RecoveryReport.relaunchesFor_ne_zero.1 hSfor
  obtain ⟨hread, hother⟩ :=
    (decided_of_mem_replayAttempts a (mem_replayAttempts hR ha)).wrongVersion.1 haout
  obtain ⟨hread', hother'⟩ :=
    (decided_of_mem_replayAttempts b (mem_replayAttempts hS hb)).wrongVersion.1 hbout
  exact hother' (hsettles a ha b hb hread hother hobserver hentry hread')

section

variable (h : RelaunchesTake c worlds) {R : RecoveryReport} (hR : R ∈ recoveryReports c worlds)

include h hR

theorem RelaunchesTake.relaunches_nodup : R.relaunches.Nodup :=
  (relaunches_of_mem_reports (fun _ => h.fresh) R hR (h.errors R hR)).1

theorem RelaunchesTake.wanted : ∀ i ∈ R.relaunches,
    ∃ a ∈ R.attempts, a.observer = i ∧ a.outcome = .wrongVersion :=
  (relaunches_of_mem_reports (fun _ => h.fresh) R hR (h.errors R hR)).2

end

theorem relaunchesFor_sum_le (h : RelaunchesTake c worlds) (i : ObserverId) (entry : Nat) :
    ((recoveryReports c worlds).map (·.relaunchesFor i entry)).sum ≤ 1 := by
  refine sum_map_le_one (fun R hR => ?_) (not_wanted_again h i entry)
  have hcount := List.nodup_iff_count_le_one.1 (h.relaunches_nodup hR) i
  unfold RecoveryReport.relaunchesFor
  split
  · exact hcount
  · exact Nat.zero_le 1

/-- The relaunches of a run are told apart by the observer and the entry. -/
theorem targets_nodup (h : RelaunchesTake c worlds) :
    ((recoveryReports c worlds).flatMap (·.targets)).Nodup := by
  refine List.nodup_iff_count_le_one.2 fun ⟨i, entry⟩ => ?_
  calc ((recoveryReports c worlds).flatMap (·.targets)).count (i, entry)
      = ((recoveryReports c worlds).map fun R => R.targets.count (i, entry)).sum :=
        List.count_flatMap
    _ ≤ ((recoveryReports c worlds).map (·.relaunchesFor i entry)).sum :=
        List.sum_le_sum fun R hR => RecoveryReport.count_targets_le (h.wanted hR) i entry
    _ ≤ 1 := relaunchesFor_sum_le h i entry

theorem targets_subset (h : RelaunchesTake c worlds) :
    (recoveryReports c worlds).flatMap (·.targets) ⊆
      c.replayObservers ×ˢ List.range c.replaySettings.replayFile.length := by
  intro target htarget
  obtain ⟨R, hR, hin⟩ := List.mem_flatMap.1 htarget
  obtain ⟨a, ha, hobserver, hentry, -⟩ := RecoveryReport.wanted_of_mem_targets (h.wanted hR) hin
  have hmem := mem_replayAttempts hR ha
  rw [List.mem_product, ← hobserver, ← hentry, List.mem_range]
  exact ⟨observer_of_mem_replayAttempts a hmem, (uses_updates c worlds).consumes.entry_lt hmem⟩

/-- Where relaunched clients get the version they are relaunched for, relaunches are
bounded. -/
theorem relaunches_bounded (c : CoordinatorImp) (worlds : List Worlds)
    (h : RelaunchesTake c worlds) : RelaunchesBounded c worlds := by
  refine ⟨relaunchesFor_sum_le h, ?_⟩
  have hlength : ((recoveryReports c worlds).map (·.relaunches.length)).sum =
      ((recoveryReports c worlds).flatMap (·.targets)).length := by
    rw [List.length_flatMap]
    simp only [RecoveryReport.targets, List.length_map]
  rw [hlength, ← List.length_range (n := c.replaySettings.replayFile.length), ← List.length_product]
  exact (List.subperm_of_subset (targets_nodup h) (targets_subset h)).length_le

/-- What a process of a build answers, a replay info of another one included. -/
def versionDelivery (baseBuild : UInt32) : Delivery where
  waiting := [.answer {
    status := some .launched
    baseBuild
    replayInfo := { baseBuild := 70154 } }]

/-- The first process is of one build, the one that takes its place of another. -/
def twoVersionWorlds (first relaunched : UInt32) : Worlds where
  coordinator := { baseExes := .const (some "Base70154/SC2.exe") }
  observers _ :=
    { deliveries := .cons (versionDelivery first) (.const (versionDelivery relaunched)) }

/-- An observer that is relaunched into the version of the replay then plays it. -/
theorem relaunches_bounded_once :
    RelaunchesBounded (oneObserver ["a.SC2Replay"])
      [twoVersionWorlds 69232 70154, twoVersionWorlds 70154 70154] ∧
    (recoveryReports (oneObserver ["a.SC2Replay"])
      [twoVersionWorlds 69232 70154, twoVersionWorlds 70154 70154]).map
        (fun R => R.attempts.map (·.outcome)) = [[.wrongVersion], [.started]] := by
  refine ⟨relaunches_bounded _ _ ⟨?_, ?_, ?_⟩, ?_⟩ <;> decide +kernel

/-- One that is always relaunched into another version is relaunched in every update. -/
theorem relaunched_again :
    (recoveryReports (oneObserver ["a.SC2Replay"])
      (List.replicate 3 (twoVersionWorlds 69232 69232))).map (·.relaunchesFor 0 0) = [1, 1, 1] ∧
    ¬ RelaunchesBounded (oneObserver ["a.SC2Replay"])
      (List.replicate 3 (twoVersionWorlds 69232 69232)) := by
  have hreports : (recoveryReports (oneObserver ["a.SC2Replay"])
      (List.replicate 3 (twoVersionWorlds 69232 69232))).map (·.relaunchesFor 0 0) =
        [1, 1, 1] := by
    decide +kernel
  refine ⟨hreports, fun h => ?_⟩
  have honce := h.once 0 0
  rw [hreports] at honce
  exact absurd honce (by decide)

end Sc2Api
