import Sc2Api.CoordinatorRuns

/-!
# Attempts at replays

What `StartReplay` does to the list of replays, turn by turn: one `ReplayAttempt` for
every turn of its loop. The turns are those of `startReplayFrom`.
-/

namespace Sc2Api

structure ReplayVersion where
  baseBuild : UInt32 := 0
  dataVersion : String := ""
  deriving DecidableEq, Repr

/-- What became of an entry: `IgnoreReplay` rejected it, the observer is to be relaunched
for it, its request was sent, or could not be sent. -/
inductive ReplayOutcome
  | ignored
  | wrongVersion
  | started
  | failed
  deriving DecidableEq, Repr

namespace ReplayOutcome

/-- The entry leaves the list. -/
def removes : ReplayOutcome → Bool
  | wrongVersion => false
  | _ => true

/-- The observer goes on with the next entry. -/
def goesOn : ReplayOutcome → Bool
  | ignored | failed => true
  | _ => false

end ReplayOutcome

/-- A turn of the loop, with what it finds before anything is decided: `ignored` is the answer
of `IgnoreReplay`, given by an empty name as well, `replay` the version in the replay info,
`client` the one of the last ping, `found` whether there is an executable for `FindBaseExe` to
find, and `canLoad` whether the client could send a request. -/
structure ReplayAttempt where
  observer : ObserverId
  entry : Nat
  outcome : ReplayOutcome
  ignored : Bool
  replay : ReplayVersion
  client : ReplayVersion
  found : Bool
  canLoad : Bool
  deriving DecidableEq, Repr

namespace ReplayAttempt

def removes (a : ReplayAttempt) : Bool := a.outcome.removes

/-- The client has the version of the replay, or it cannot be had. -/
def Settled (a : ReplayAttempt) : Prop := a.replay = a.client ∨ a.found = false

instance (a : ReplayAttempt) : Decidable a.Settled := inferInstanceAs (Decidable (_ ∨ _))

/-- The turn comes to `LoadReplay`. -/
def ComesToLoad (a : ReplayAttempt) : Prop := a.ignored = false ∧ a.Settled

instance (a : ReplayAttempt) : Decidable a.ComesToLoad := inferInstanceAs (Decidable (_ ∧ _))

end ReplayAttempt

namespace CoordinatorImp

def popReplay (c : CoordinatorImp) : CoordinatorImp :=
  { c with replaySettings := ⟨c.replaySettings.replayFile.dropLast⟩ }

/-- An attempt, by an observer that has gathered the replay info of the last entry. -/
def attempt (c : CoordinatorImp) (i : ObserverId) (ignored : Bool) (outcome : ReplayOutcome) :
    ReplayAttempt :=
  let r := c.observerOf i
  { observer := i
    entry := c.replaySettings.replayFile.length - 1
    outcome
    ignored
    replay := ⟨r.replayInfo.baseBuild, r.replayInfo.dataVersion⟩
    client := ⟨r.control.proto.baseBuild, r.control.proto.dataVersion⟩
    found := c.world.baseExes.head.isSome
    canLoad := r.control.CanSend }

/-- One turn of the loop of `StartReplay`. -/
def tryReplay (c : CoordinatorImp) (i : ObserverId) (file : String) :
    ReplayAttempt × CoordinatorImp :=
  let ignored := file = "" || c.world.ignores.head
  let gathered := (c.shouldIgnore i file).2
  if (c.shouldIgnore i file).1 then (gathered.attempt i ignored .ignored, gathered.popReplay)
  else if (gathered.shouldRelaunch i).1 then
    (gathered.attempt i ignored .wrongVersion, (gathered.shouldRelaunch i).2)
  else
    let launched := ((gathered.shouldRelaunch i).2.observerOf i).loadReplay.1
    (gathered.attempt i ignored (if launched then .started else .failed),
      ((gathered.shouldRelaunch i).2.onObserver i (·.loadReplay.2)).popReplay)

/-- The turns of one observer, at most `n`. -/
def attemptsFrom (i : ObserverId) : Nat → CoordinatorImp → List ReplayAttempt
  | 0, _ => []
  | n + 1, c =>
    match c.replaySettings.replayFile.getLast? with
    | none => []
    | some file =>
      let (attempt, c) := c.tryReplay i file
      if attempt.outcome.goesOn then attempt :: attemptsFrom i n c else [attempt]

/-- The turns of `startReplayOn`. -/
def attemptsOf (c : CoordinatorImp) (i : ObserverId) : List ReplayAttempt :=
  if !(c.observerOf i).control.isReadyForCreateGame then []
  else
    let c := c.onControl (.observer i) (·.useGeneralizedAbility c.useGeneralizedAbilityId)
    attemptsFrom i c.replaySettings.replayFile.length c

/-- The turns of several observers, one observer after the other. -/
def attemptsOn : List ObserverId → CoordinatorImp → List ReplayAttempt
  | [], _ => []
  | i :: is, c => c.attemptsOf i ++ attemptsOn is (c.startReplayOn i)

/-- `StartReplay` up to its loop. -/
def launchForReplays (c : CoordinatorImp) : CoordinatorImp :=
  if !c.starcraftStarted then
    let (lastPort, c) := c.launchProcesses (c.replayObservers.map .observer)
    { c with lastPort }
  else c

/-- The turns of `startReplay`. -/
def startReplayAttempts (c : CoordinatorImp) : List ReplayAttempt :=
  if c.replaySettings.replayFile = [] then []
  else attemptsOn c.launchForReplays.replayObservers c.launchForReplays

/-- The turns of an update. -/
def replayAttempts (c : CoordinatorImp) : List ReplayAttempt :=
  let c := c.updateAgents.updateObservers
  if c.replayObservers ≠ [] ∧ c.anyObserverAvailable then c.startReplayAttempts else []

/-! ## The turns are those of the model -/

variable {c : CoordinatorImp}

/-- What a turn comes to. -/
theorem tryReplay_cases (i : ObserverId) (file : String) :
    let ignored := file = "" || c.world.ignores.head
    let gathered := (c.shouldIgnore i file).2
    let decided := (gathered.shouldRelaunch i).2
    ((c.shouldIgnore i file).1 = true ∧
      c.tryReplay i file = (gathered.attempt i ignored .ignored, gathered.popReplay)) ∨
    ((c.shouldIgnore i file).1 = false ∧ (gathered.shouldRelaunch i).1 = true ∧
      c.tryReplay i file = (gathered.attempt i ignored .wrongVersion, decided)) ∨
    ((c.shouldIgnore i file).1 = false ∧ (gathered.shouldRelaunch i).1 = false ∧
      ∃ outcome, (decided.observerOf i).loadReplay.1 = decide (outcome = .started) ∧
        (outcome = .started ∨ outcome = .failed) ∧ c.tryReplay i file =
          (gathered.attempt i ignored outcome,
            (decided.onObserver i (·.loadReplay.2)).popReplay)) := by
  dsimp only
  unfold tryReplay
  dsimp only
  cases (c.shouldIgnore i file).1 with
  | true => exact .inl ⟨rfl, rfl⟩
  | false =>
    cases ((c.shouldIgnore i file).2.shouldRelaunch i).1 with
    | true => exact .inr (.inl ⟨rfl, rfl, rfl⟩)
    | false =>
      refine .inr (.inr ⟨rfl, rfl, ?_⟩)
      cases (((c.shouldIgnore i file).2.shouldRelaunch i).2.observerOf i).loadReplay.1 with
      | true => exact ⟨.started, rfl, .inl rfl, rfl⟩
      | false => exact ⟨.failed, rfl, .inr rfl, rfl⟩

theorem startReplayFrom_succ (i : ObserverId) (n : Nat) : startReplayFrom i (n + 1) c =
    match c.replaySettings.replayFile.getLast? with
    | none => c
    | some file =>
      if (c.tryReplay i file).1.outcome.goesOn then startReplayFrom i n (c.tryReplay i file).2
      else (c.tryReplay i file).2 := by
  rw [startReplayFrom]
  cases c.replaySettings.replayFile.getLast? with
  | none => rfl
  | some file =>
    dsimp only
    rcases c.tryReplay_cases i file with
      ⟨hignored, htry⟩ | ⟨hignored, hversion, htry⟩ |
      ⟨hignored, hversion, outcome, hload, houtcome, htry⟩
    · rw [htry, if_pos hignored]
      rfl
    · rw [htry, if_neg (by simp [hignored]), if_pos hversion]
      rfl
    · rw [htry, if_neg (by simp [hignored]), if_neg (by simp [hversion]), hload]
      rcases houtcome with rfl | rfl <;> rfl

theorem startReplay_eq : c.startReplay =
    if c.replaySettings.replayFile = [] then c
    else { c.launchForReplays.replayObservers.foldl startReplayOn c.launchForReplays with
      starcraftStarted := true } := by
  unfold startReplay launchForReplays
  rfl

end CoordinatorImp

/-- A coordinator that is updated again and again, with its attempts at replays. -/
def replayMachine : Lib.Machine CoordinatorImp Worlds (List ReplayAttempt) where
  step c worlds := ((c.inWorlds worlds).update.2, (c.inWorlds worlds).replayAttempts)

end Sc2Api
