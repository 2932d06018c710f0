import Sc2Api.CoordinatorRuns

/-!
# Errors at the end of an update

What `Update` makes of the errors of its clients. The loop over the observers keeps
one flag, which every observer with errors overwrites.
-/

namespace Sc2Api

namespace CoordinatorImp

/-- The turn of one observer in the loop over the errors: whether it was relaunched,
`none` if it has no errors. -/
def recoverObserver (c : CoordinatorImp) (i : ObserverId) : Option Bool × CoordinatorImp :=
  if (c.observerOf i).control.proto.clientErrors = [] then (none, c)
  else
    let c := c.onObserver i (·.callback .onError)
    if !c.replayRecovery then (some false, c)
    else
      let (connected, c) := c.relaunch i
      (some connected, c)

/-- For each observer that is found with errors, whether it was relaunched. -/
def recoveries (c : CoordinatorImp) : List ObserverId → List Bool
  | [] => []
  | i :: is => (c.recoverObserver i).1.toList ++ (c.recoverObserver i).2.recoveries is

/-- The coordinator when `Update` turns to the errors of its observers. -/
def checkedAgents (c : CoordinatorImp) : CoordinatorImp :=
  c.updateClients.failedAgents.foldl (fun c i => c.onAgent i (·.callback .onError))
    c.updateClients

def observerRecoveries (c : CoordinatorImp) : List Bool :=
  c.checkedAgents.recoveries c.checkedAgents.replayObservers

/-- An agent has an error, or an observer has one and was not relaunched. -/
def LeavesError (c : CoordinatorImp) : Prop :=
  c.updateClients.failedAgents ≠ [] ∨ false ∈ c.observerRecoveries

instance (c : CoordinatorImp) : Decidable c.LeavesError :=
  inferInstanceAs (Decidable (_ ∨ _))

variable {c : CoordinatorImp}

/-- What the turn of one observer does to the two flags. -/
def flagsAfter (flags : Bool × Bool) : Option Bool → Bool × Bool
  | none => flags
  | some true => (false, true)
  | some false => (true, flags.2)

theorem recoverObservers_cons (i : ObserverId) (is : List ObserverId) (flags : Bool × Bool) :
    c.recoverObservers (i :: is) flags =
      (c.recoverObserver i).2.recoverObservers is
        (flagsAfter flags (c.recoverObserver i).1) := by
  obtain ⟨errorOccurred, relaunched⟩ := flags
  unfold recoverObserver
  rw [recoverObservers]
  split
  · rfl
  · dsimp only
    split
    · rfl
    · cases hconnected : ((c.onObserver i (·.callback .onError)).relaunch i).1 <;> rfl

/-- The first flag is what the last observer with errors has left, the second one says
that some observer was relaunched. -/
theorem recoverObservers_flags (is : List ObserverId) (flags : Bool × Bool) :
    (c.recoverObservers is flags).1 =
      (((c.recoveries is).getLast?.map (!·)).getD flags.1,
        flags.2 || (c.recoveries is).any id) := by
  induction is generalizing c flags with
  | nil => simp [recoverObservers, recoveries]
  | cons i is ih =>
    rw [recoverObservers_cons, ih, recoveries]
    cases (c.recoverObserver i).1 with
    | none => rfl
    | some recovered =>
      rw [Option.toList_some, List.singleton_append, List.getLast?_cons, List.any_cons]
      cases recovered with
      | true =>
        cases ((c.recoverObserver i).2.recoveries is).getLast? <;> simp [flagsAfter]
      | false =>
        cases ((c.recoverObserver i).2.recoveries is).getLast? <;> simp [flagsAfter]

theorem update_fst : c.update.1 =
    if (c.observerRecoveries.getLast?.map (!·)).getD (decide (c.updateClients.failedAgents ≠ []))
    then false
    else !c.update.2.allGamesEnded || c.observerRecoveries.any id := by
  have hflags := recoverObservers_flags (c := c.checkedAgents) c.checkedAgents.replayObservers
    (decide (c.updateClients.failedAgents ≠ []), false)
  have herror := congrArg Prod.fst hflags
  have hrelaunched := congrArg Prod.snd hflags
  dsimp only at herror hrelaunched
  rw [Bool.false_or] at hrelaunched
  unfold observerRecoveries
  rw [← herror, ← hrelaunched]
  rfl

/-- Unless the last observer with errors is relaunched, an error ends the updates. -/
theorem update_fst_of_last (hlast : c.observerRecoveries.getLast? ≠ some true)
    (herror : c.LeavesError) : c.update.1 = false := by
  rw [update_fst]
  cases hrecoveries : c.observerRecoveries.getLast? with
  | none =>
    have hnone : c.observerRecoveries = [] := List.getLast?_eq_none_iff.1 hrecoveries
    rcases herror with hagents | hobservers
    · simp [hagents]
    · rw [hnone] at hobservers
      cases hobservers
  | some recovered =>
    cases recovered with
    | true => exact absurd hrecoveries hlast
    | false => rfl

/-- If it is relaunched, nothing ends them. -/
theorem update_fst_of_relaunched (hlast : c.observerRecoveries.getLast? = some true) :
    c.update.1 = true := by
  have hany : c.observerRecoveries.any id = true :=
    List.any_eq_true.2 ⟨true, List.mem_of_getLast? hlast, rfl⟩
  rw [update_fst, hlast, hany]
  simp

end CoordinatorImp

/-- The connections of both observers close; only the second can connect again. -/
def closingWorlds (closes : Bool) : Worlds where
  observers i := {
    polls := .const (if closes then [.closed] else [])
    connects := .const (!closes || i == 1)
    deliveries := .const { waiting := [.answer { status := some .launched }] } }

/-- Two observers that are loading a replay each. -/
def twoLoading : CoordinatorImp :=
  coordinatorMachine.final {} [(closingWorlds false, .addReplayObserver 0),
    (closingWorlds false, .addReplayObserver 1),
    (closingWorlds false, .setReplays ["a.SC2Replay", "b.SC2Replay"]),
    (closingWorlds false, .update)]

end Sc2Api
