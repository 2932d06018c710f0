import Sc2Api.Verify.Fetching
import Sc2Api.Verify.Over
import Sc2Api.Verify.UpdateFrames

/-!
# What an update does to a replay observer

One pass over an observer that is on the list once: the observations it receives in it,
and the callbacks that are made on it.
-/

namespace Sc2Api

open Lib

/-! ## Observations received -/

/-- A response that brings an observation. -/
def Traffic.isObservation : Traffic → Bool
  | .received response =>
    response.case = .observation && response.answer.observation.observation.isSome
  | _ => false

def Line.observations (l : Line) : Nat := l.log.countP Traffic.isObservation

namespace ProtoInterface

variable (p : ProtoInterface)

theorem log_sendRequest (case : Proto.ResponseCase) (ignorePendingRequests : Bool) :
    ∃ traffic, (p.sendRequest case ignorePendingRequests).2.line.log = p.line.log ++ [traffic] ∧
      traffic.isObservation = false := by
  have hensure : p.ensureConnection.line.log = p.line.log := by
    rw [line_ensureConnection]
    split <;> rfl
  rcases p.sendRequest_cases case ignorePendingRequests with ⟨-, h⟩ | ⟨-, -, -, h⟩ | ⟨-, -, h⟩
  · rw [h]
    exact ⟨.refused case, congrArg (· ++ _) hensure, rfl⟩
  · rw [h]
    exact ⟨.refused case, congrArg (· ++ _) hensure, rfl⟩
  · rw [h]
    exact ⟨.sent _, congrArg (· ++ _) hensure, rfl⟩

theorem observations_sendRequest (case : Proto.ResponseCase) (ignorePendingRequests : Bool) :
    (p.sendRequest case ignorePendingRequests).2.line.observations = p.line.observations := by
  obtain ⟨traffic, hlog, hother⟩ := p.log_sendRequest case ignorePendingRequests
  unfold Line.observations
  rw [hlog, List.countP_append, List.countP_singleton, hother]
  rfl

theorem observations_waitForResponseInternal :
    p.waitForResponseInternal.2.line.observations = p.line.observations +
      match p.waitForResponseInternal.1 with
      | some response => if (Traffic.received response).isObservation then 1 else 0
      | none => 0 := by
  unfold Line.observations
  rcases p.waitForResponseInternal_cases with ⟨response, queue, -, hsome, hline⟩ | ⟨-, hnone, hline⟩
  · rw [hline, hsome]
    simp only [List.countP_append, List.countP_singleton]
    rfl
  · rw [hline, hnone]
    simp only [List.countP_append, List.countP_singleton]
    rfl

end ProtoInterface

namespace Control

variable {c c' : Control}

def observations (c : Control) : Nat := c.proto.line.observations

theorem observations_waitForResponse :
    c.proto.waitForResponseInternal.2.line.observations ≤ c.waitForResponse.2.observations := by
  have hping (n : Nat) (p : ProtoInterface) (hp : n ≤ p.line.observations) :
      n ≤ (p.sendRequest .ping true).2.line.observations := by
    rwa [p.observations_sendRequest]
  have hwait (n : Nat) (p : ProtoInterface) (hp : n ≤ p.line.observations) :
      n ≤ p.waitForResponseInternal.2.line.observations := by
    rw [p.observations_waitForResponseInternal]
    exact Nat.le_add_right_of_le hp
  unfold observations
  rcases c.waitForResponse_cases with ⟨response, -, -, hline, -⟩ | ⟨-, -, hdiagnosed⟩
  · rw [hline]
  · cases hdiagnosed with
    | crashed line app => exact (congrArg Line.observations line).ge
    | unsent before ping line app =>
      rw [line]
      exact hping _ _ (congrArg Line.observations before).ge
    | waited before ping line app =>
      rw [line]
      exact hwait _ _ (hping _ _ (congrArg Line.observations before).ge)

theorem le_observations_waitForResponse : c.observations ≤ c.waitForResponse.2.observations := by
  refine Nat.le_trans ?_ observations_waitForResponse
  rw [ProtoInterface.observations_waitForResponseInternal]
  exact Nat.le_add_right _ _

theorem Talks.observations_le (h : c.Talks c') : c.observations ≤ c'.observations :=
  h.preserves (P := fun l => c.observations ≤ l.observations)
    (fun p case _ hp => by rwa [p.observations_sendRequest])
    (fun p hp => by rwa [p.observations_sendRequest])
    (fun p hp => by
      rw [p.observations_waitForResponseInternal]
      exact Nat.le_add_right_of_le hp) (Nat.le_refl _)

/-- An observation that `GetObservation` gets to convert was received by it. -/
theorem observations_getObservation (h : c.reported.isSome) :
    c.observations < c.getObservation.2.observations := by
  unfold reported at h
  split at h
  · cases h
  next happ =>
    have hrest := (exchange_talks_getObservation (not_not.1 happ)).observations_le
    refine Nat.lt_of_lt_of_le ?_ hrest
    dsimp only at h
    split at h
    next hsucceeded =>
      obtain ⟨response, hresponse⟩ := Option.isSome_iff_exists.1 (isSome_of_succeeded hsucceeded)
      have hsent := sent_of_response c hresponse
      rw [sendRequest_waitForResponse, if_pos hsent] at h hresponse hsucceeded ⊢
      rw [hresponse] at h hsucceeded
      have hobserved : response.answer.observation.observation.isSome = true := by
        by_contra hnone
        rw [Option.map_some, Option.filter_some, if_neg hnone] at h
        cases h
      have hcase : response.case = .observation := (succeeded_iff.1 hsucceeded).2
      have hfirst : (c.sendRequest .observation).2.proto.waitForResponseInternal.1 =
          some response := (waitForResponse_fst _).symm.trans hresponse
      refine Nat.lt_of_lt_of_le ?_ observations_waitForResponse
      rw [ProtoInterface.observations_waitForResponseInternal, hfirst]
      have hsame : (c.sendRequest .observation).2.proto.line.observations = c.observations :=
        c.proto.observations_sendRequest .observation false
      simp [Traffic.isObservation, hcase, hobserved, hsame]
    · cases h

/-- The observation that follows a step was asked for and received. -/
def StepAnswered (c : Control) : Prop :=
  succeeded c.step.2.waitForResponse.1 .step = true ∧
    c.step.2.waitForResponse.2.reported.isSome = true

instance (c : Control) : Decidable c.StepAnswered := inferInstanceAs (Decidable (_ ∧ _))

theorem observations_step : c.step.2.observations = c.observations := by
  unfold step
  split
  · rfl
  · exact c.proto.observations_sendRequest .step false

theorem observations_waitStep_of_answered (h : c.StepAnswered) :
    c.observations < c.step.2.waitStep.2.observations := by
  have hwait := le_observations_waitForResponse (c := c.step.2)
  rw [observations_step] at hwait
  have hfetch := observations_getObservation h.2
  unfold waitStep
  dsimp only
  rw [if_pos h.1]
  exact Nat.lt_of_le_of_lt hwait hfetch

theorem le_observations_waitStep : c.observations ≤ c.step.2.waitStep.2.observations := by
  have hwait := le_observations_waitForResponse (c := c.step.2)
  rw [observations_step] at hwait
  unfold waitStep
  dsimp only
  split
  · exact hwait.trans getObservation_talks.observations_le
  · exact hwait

end Control

/-! ## Telling an observer -/

namespace ReplayObserver

/-- `IssueEvents` finds two different game loops. -/
def Due (r : ReplayObserver) : Prop := r.control.imp.eventState.Due

instance (r : ReplayObserver) : Decidable r.Due :=
  inferInstanceAs (Decidable r.control.imp.eventState.Due)

variable {r : ReplayObserver}

theorem events_issueEvents_of_due (h : r.Due) :
    ∃ callbacks, r.issueEvents.2.events = r.events ++ [.events callbacks] := by
  unfold issueEvents
  dsimp only
  rw [issueEvents_of_due h]
  exact ⟨_, rfl⟩

theorem events_issueEvents_of_not_due (h : ¬r.Due) : r.issueEvents.2.events = r.events := by
  unfold issueEvents
  dsimp only
  rw [issueEvents_of_not_due h]
  rfl

theorem events_sendActions (r : ReplayObserver) : r.sendActions.events = r.events := by
  unfold sendActions
  dsimp only
  split
  · rfl
  · split <;> rfl

/-- `IssueEvents`, and `SendActions` in stepping mode. -/
def tell (realtime : Bool) (r : ReplayObserver) : ReplayObserver :=
  if realtime then r.issueEvents.2 else r.issueEvents.2.sendActions

theorem tell_talks (realtime : Bool) (r : ReplayObserver) :
    r.control.Talks (r.tell realtime).control := by
  unfold tell
  split
  · exact r.issueEvents_talks
  · exact r.issueEvents_talks.trans (sendActions_talks _)

theorem events_tell (realtime : Bool) (r : ReplayObserver) :
    (r.tell realtime).events = r.issueEvents.2.events := by
  unfold tell
  split
  · rfl
  · exact events_sendActions _

theorem events_gatherReplayInfo (r : ReplayObserver) (path : String) :
    (r.gatherReplayInfo path).2.events = r.events := by
  unfold gatherReplayInfo
  dsimp only
  repeat' split
  all_goals rfl

theorem callback_observations_le (event : ClientEvent) :
    r.control.observations ≤ (r.callback event).control.observations :=
  (r.callback_talks event).observations_le

/-! ## Waiting for a replay -/

/-- `WaitForReplay` calls `OnGameStart` once it has fetched an observation, or makes no
callback. -/
theorem waitForReplay_cases (r : ReplayObserver) :
    (r.waitForReplay.2.events = r.events ∧
      r.control.observations ≤ r.waitForReplay.2.control.observations) ∨
    r.waitForReplay.2 = { r with
      control := r.control.waitForResponse.2.getObservation.2 }.callback .onGameStart := by
  have hwait := Control.le_observations_waitForResponse (c := r.control)
  unfold waitForReplay
  dsimp only
  split
  · exact .inl ⟨rfl, hwait⟩
  · split
    · exact .inl ⟨rfl, hwait⟩
    · split
      · exact .inl ⟨rfl, hwait⟩
      · split
        · exact .inl ⟨rfl, hwait⟩
        · split
          · exact .inl ⟨rfl, hwait⟩
          · exact .inr rfl

end ReplayObserver

namespace CoordinatorImp

/-- The client once the response of a replay that is loading was waited for. -/
def loaded (several : Bool) (r : ReplayObserver) : Control :=
  (if several then r.control.pollResponse.2 else r.control).waitForResponse.2

theorem observations_pollResponse (c : Control) :
    c.pollResponse.2.observations = c.observations := by
  show c.proto.pollResponse.2.line.observations = _
  rw [c.proto.pollResponse_spec.2]
  rfl

theorem awaitReplay_cases (several : Bool) (r : ReplayObserver) :
    ((awaitReplay several r).2.events = r.events ∧
      r.control.observations ≤ (awaitReplay several r).2.control.observations) ∨
    awaitReplay several r = (true, { r with
      control := (loaded several r).getObservation.2 }.callback .onGameStart) := by
  unfold awaitReplay loaded
  dsimp only
  split
  · exact .inl ⟨rfl, Nat.le_refl _⟩
  · cases several with
    | false =>
      rcases r.waitForReplay_cases with hsame | hstarted
      · exact .inl hsame
      · exact .inr (Prod.ext rfl hstarted)
    | true =>
      rw [if_pos rfl, if_pos rfl]
      have hpoll := observations_pollResponse r.control
      split
      · exact .inl ⟨rfl, hpoll.ge⟩
      · rcases ReplayObserver.waitForReplay_cases
          { r with control := r.control.pollResponse.2 } with ⟨hevents, hle⟩ | hstarted
        · exact .inl ⟨hevents, hpoll.ge.trans hle⟩
        · dsimp only at hstarted
          right
          rw [hstarted]

/-! ## A pass -/

/-- The observer before it is stepped. -/
def awaited (several : Bool) (r : ReplayObserver) : ReplayObserver :=
  if r.control.appState ≠ .normal then r else (awaitReplay several r).2

/-- The observer is stepped, or observed in real time. -/
def Steps (several : Bool) (r : ReplayObserver) : Prop :=
  r.control.appState = .normal ∧ (awaitReplay several r).1 = true ∧
    (awaitReplay several r).2.control.isInGame = true

instance (several : Bool) (r : ReplayObserver) : Decidable (Steps several r) :=
  inferInstanceAs (Decidable (_ ∧ _ ∧ _))

/-- The step of a replay, in real time just its observation. -/
def advance (realtime : Bool) (r : ReplayObserver) : ReplayObserver :=
  { r with control :=
    if realtime then r.control.getObservation.2 else r.control.step.2.waitStep.2 }

section

variable (settings : ProcessSettings) (several : Bool) (r : ReplayObserver)

/-- `run_replay` of either mode. -/
def run : ReplayObserver :=
  if settings.realtime then runReplayRealtime settings several r
  else runReplay settings several r

/-- The second loop of either mode. -/
def call : ReplayObserver :=
  if settings.realtime then callObserverRealtime r else callObserver r

/-- Both loops, for an observer that is on the list once. -/
def pass : ReplayObserver :=
  if settings.multiThreaded then (run settings several r).drained
  else (call settings (run settings several r).drained).drained

end

variable {settings : ProcessSettings} {several : Bool} {r : ReplayObserver}

theorem awaited_cases (several : Bool) (r : ReplayObserver) :
    ((awaited several r).events = r.events ∧
      r.control.observations ≤ (awaited several r).control.observations) ∨
    awaited several r = { r with
      control := (loaded several r).getObservation.2 }.callback .onGameStart := by
  unfold awaited
  split
  · exact .inl ⟨rfl, Nat.le_refl _⟩
  · rcases awaitReplay_cases several r with hsame | hstarted
    · exact .inl hsame
    · exact .inr (congrArg Prod.snd hstarted)

theorem awaited_of_steps (h : Steps several r) :
    awaited several r = (awaitReplay several r).2 := if_neg (not_not_intro h.1)

theorem run_of_not_steps (h : ¬Steps several r) : run settings several r = awaited several r := by
  unfold run runReplayRealtime runReplay awaited
  dsimp only
  by_cases happ : r.control.appState = .normal
  · rw [if_neg (not_not_intro happ), if_neg (not_not_intro happ), if_neg (not_not_intro happ)]
    cases hready : (awaitReplay several r).1 with
    | false => simp
    | true =>
      have hout : (awaitReplay several r).2.control.isInGame = false := by
        simpa using fun hin => h ⟨happ, hready, hin⟩
      simp [hout]
  · rw [if_pos happ, if_pos happ, if_pos happ, ite_self]

/-- The observer after `IssueEvents` of the threads. -/
def ran (settings : ProcessSettings) (several : Bool) (r : ReplayObserver) : ReplayObserver :=
  if settings.multiThreaded then (advance settings.realtime (awaited several r)).tell
    settings.realtime
  else advance settings.realtime (awaited several r)

theorem run_of_steps (h : Steps several r) : run settings several r =
    if !(ran settings several r).control.isInGame then
      (ran settings several r).callback .onGameEnd
    else ran settings several r := by
  have hawaited := awaited_of_steps h
  unfold run runReplayRealtime runReplay ran advance ReplayObserver.tell
  rw [hawaited, if_neg (not_not_intro h.1), if_neg (not_not_intro h.1)]
  dsimp only
  rw [h.2.1, h.2.2]
  cases settings.realtime <;> cases settings.multiThreaded <;>
    simp only [Bool.not_true, Bool.false_eq_true, if_false, if_true]

theorem call_eq : call settings r =
    if r.control.appState ≠ .normal then r else r.tell settings.realtime := by
  unfold call callObserverRealtime callObserver ReplayObserver.tell
  cases settings.realtime <;> rfl

/-! ## Passes in an update -/

variable {c : CoordinatorImp}

/-- The observers are looked after in the update. -/
def RunsObservers (c : CoordinatorImp) : Prop :=
  c.replayObservers ≠ [] ∧ c.starcraftStarted = true

instance (c : CoordinatorImp) : Decidable c.RunsObservers :=
  inferInstanceAs (Decidable (_ ∧ _))

theorem updateObservers_of_not_runs (h : ¬c.RunsObservers) : c.updateObservers = c := by
  unfold updateObservers
  refine if_pos ?_
  by_cases hnil : c.replayObservers = []
  · exact .inl hnil
  · exact .inr (by simpa using fun hstarted => h ⟨hnil, hstarted⟩)

theorem updateObservers_of_runs (h : c.RunsObservers) : c.updateObservers =
    let ran := c.forObservers (run c.processSettings (1 < c.replayObservers.length))
    if c.processSettings.multiThreaded then ran
    else ran.forObservers (call c.processSettings) := by
  have hsettings (f : ReplayObserver → ReplayObserver) :=
    (settings_forObservers (c := c) f).1
  have hruns : ¬(c.replayObservers = [] ∨ (!c.starcraftStarted) = true) := by
    simpa [RunsObservers] using h
  unfold updateObservers stepReplayObserversRealtime stepReplayObservers run call
  dsimp only
  rw [if_neg hruns, hsettings, hsettings]
  cases c.processSettings.realtime <;> cases c.processSettings.multiThreaded <;> rfl

theorem observerOf_updateObservers {i : ObserverId} (h : c.RunsObservers)
    (hcount : c.replayObservers.count i = 1) : c.updateObservers.observerOf i =
      pass c.processSettings (1 < c.replayObservers.length) (c.observerOf i) := by
  have hrun : (c.forObservers (run c.processSettings (1 < c.replayObservers.length))).observerOf
      i = (run c.processSettings (1 < c.replayObservers.length) (c.observerOf i)).drained := by
    unfold forObservers
    rw [observerOf_foldl, hcount]
    rfl
  rw [updateObservers_of_runs h]
  unfold pass
  dsimp only
  split
  · exact hrun
  · have hsame := (settings_forObservers (c := c)
      (run c.processSettings (1 < c.replayObservers.length))).2
    unfold forObservers at hrun hsame ⊢
    rw [observerOf_foldl, hsame, hcount, hrun]
    rfl

theorem observerOf_updateObservers_of_not_mem {i : ObserverId}
    (hcount : c.replayObservers.count i = 0) :
    c.updateObservers.observerOf i = c.observerOf i := by
  by_cases h : c.RunsObservers
  · have hfold (f : ReplayObserver → ReplayObserver) (c : CoordinatorImp)
        (hcount : c.replayObservers.count i = 0) :
        (c.forObservers f).observerOf i = c.observerOf i := by
      unfold forObservers
      rw [observerOf_foldl, hcount]
      rfl
    rw [updateObservers_of_runs h]
    dsimp only
    split
    · exact hfold _ _ hcount
    · refine (hfold _ _ ?_).trans (hfold _ _ hcount)
      rwa [(settings_forObservers _).2]
  · rw [updateObservers_of_not_runs h]

/-- The rest of an update calls nothing but `OnError` on an observer. -/
theorem Tends.events {c' : CoordinatorImp} (h : c.Tends c') (i : ObserverId) :
    ∃ errors, (c'.observerOf i).events = (c.observerOf i).events ++ errors ∧
      ∀ e ∈ errors, e = .onError := by
  induction h with
  | refl => exact ⟨[], by simp, by simp⟩
  | settings _ _ hobserverOf _ _ _ _ ih => rwa [hobserverOf]
  | @work c' _ j f hwork ih =>
    obtain ⟨errors, hevents, herrors⟩ := ih
    by_cases hj : i = j
    · subst hj
      rw [observerOf_onObserver_self]
      cases hwork with
      | control g => exact ⟨errors, hevents, herrors⟩
      | gatherReplayInfo path =>
        refine ⟨errors, ?_, herrors⟩
        rw [← hevents]
        exact ReplayObserver.events_gatherReplayInfo _ path
      | reset => exact ⟨errors, hevents, herrors⟩
      | onError =>
        refine ⟨errors ++ [.onError], ?_, ?_⟩
        · rw [← List.append_assoc, ← hevents]
          rfl
        · exact List.forall_mem_append.2 ⟨herrors, List.forall_mem_singleton.2 rfl⟩
    · rw [observerOf_onObserver_of_ne _ _ _ hj]
      exact ⟨errors, hevents, herrors⟩

end CoordinatorImp

end Sc2Api
