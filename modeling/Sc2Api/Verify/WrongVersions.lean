import Sc2Api.Verify.AppFailures
import Sc2Api.Verify.ObserverObjects
import Sc2Api.Verify.ReplayRuns
import Sc2Api.Verify.UpdateErrors

/-!
# Where a wrong version comes from

Nothing but `ShouldRelaunch` records that a client has the wrong version, and a client that
is relaunched begins without errors. So whoever is found outdated at the end of an update
has come to a replay of another version in it.
-/

namespace Sc2Api

open Lib

/-! ## Clients -/

namespace Control

/-- The client was found to have the wrong version. -/
def Outdated (c : Control) : Prop := .wrongGameVersion ∈ c.proto.clientErrors

instance (c : Control) : Decidable c.Outdated := inferInstanceAs (Decidable (_ ∈ _))

variable {c c' : Control}

theorem outdated_error {error : ClientError} (hother : error ≠ .wrongGameVersion)
    (errors : List String) : (c.error error errors).Outdated ↔ c.Outdated := by
  unfold Outdated Control.error ProtoInterface.error
  rw [List.mem_append, List.mem_singleton, or_iff_left hother.symm]

theorem outdated_errorIf (condition : Bool) {error : ClientError}
    (hother : error ≠ .wrongGameVersion) : (c.errorIf condition error).Outdated ↔ c.Outdated := by
  unfold errorIf
  split
  · exact outdated_error hother []
  · rfl

theorem outdated_of_notes (hnotes : c.proto.Notes c'.proto) (h : c'.Outdated) : c.Outdated := by
  obtain ⟨errors, herrors, hline⟩ := hnotes.clientErrors
  unfold Outdated at h ⊢
  rw [herrors] at h
  refine (List.mem_append.1 h).resolve_right fun hnew => ?_
  have hwrong := hline _ hnew
  simp [ClientError.OfLine] at hwrong

/-! ### Waits -/

theorem outdated_killLoop (n : Nat) : (killLoop n c).Outdated ↔ c.Outdated := by
  induction n generalizing c with
  | zero => rfl
  | succ n ih =>
    unfold killLoop
    dsimp only
    split
    · exact ih
    · rfl

theorem outdated_terminateHung : c.terminateHung.Outdated ↔ c.Outdated := by
  have hloop : (killLoop 10 (c.setAppState .timeout)).Outdated ↔ c.Outdated :=
    outdated_killLoop 10
  unfold terminateHung
  dsimp only
  split
  · exact (outdated_error (by decide) []).trans hloop
  · exact (outdated_error (by decide) []).trans hloop

theorem outdated_diagnoseHang (h : c.diagnoseHang.Outdated) : c.Outdated := by
  have hsend : c.proto.Notes (c.proto.sendRequest .ping true).2 :=
    ProtoInterface.notes_sendRequest .ping true
  have hwait := hsend.trans ProtoInterface.notes_waitForResponseInternal
  have hhung {k : Control} :
      ((k.setAppState .timeout).error .sc2ProtocolTimeout).terminateHung.Outdated ↔ k.Outdated :=
    outdated_terminateHung.trans (outdated_error (by decide) [])
  unfold diagnoseHang at h
  dsimp only at h
  split at h
  · exact outdated_of_notes hsend (hhung.1 h)
  · split at h
    · rw [outdated_error (by decide), outdated_errorIf _ (by decide)] at h
      exact outdated_of_notes hwait h
    · exact outdated_of_notes hwait (hhung.1 h)

theorem outdated_waitForResponse (h : c.waitForResponse.2.Outdated) : c.Outdated := by
  have hnotes : c.proto.Notes c.proto.waitForResponseInternal.2 :=
    ProtoInterface.notes_waitForResponseInternal
  let waited : Control := { c with proto := c.proto.waitForResponseInternal.2 }
  have hwaited (hout : waited.Outdated) : c.Outdated := outdated_of_notes hnotes hout
  have hdiagnosed (hout : waited.diagnose.Outdated) : waited.Outdated := by
    unfold diagnose at hout
    dsimp only at hout
    split at hout
    · exact (outdated_error (by decide) []).1 hout
    · exact outdated_diagnoseHang (c := waited.isProcessRunning.2) hout
  unfold waitForResponse at h
  dsimp only at h
  split at h
  · split at h
    · exact hwaited h
    · exact hwaited ((outdated_error (by decide) _).1 h)
  · exact hwaited (hdiagnosed h)

/-! ### Steps -/

theorem OwnStep.outdated (hstep : c.OwnStep c') (h : c'.Outdated) : c.Outdated := by
  cases hstep with
  | sends case => exact outdated_of_notes (ProtoInterface.notes_sendRequest case false) h
  | waits => exact outdated_waitForResponse h
  | polls => exact outdated_of_notes ProtoInterface.notes_pollResponse h
  | pings => exact outdated_of_notes ProtoInterface.notes_pingGame h
  | connects => exact outdated_of_notes ProtoInterface.notes_connectToGame h
  | errs error other => exact (outdated_error other.2 []).1 h
  | lives world => exact h
  | learns imp tableSizes app learns => exact h

/-- No client finds its own version wrong. -/
theorem OwnSteps.outdated (hsteps : c.OwnSteps c') (h : c'.Outdated) : c.Outdated := by
  induction hsteps with
  | refl => exact h
  | tail _ step ih => exact ih (step.outdated h)

end Control

/-! ## Observers -/

theorem ReplayObserver.issueEvents_steps (r : ReplayObserver) :
    r.control.OwnSteps r.issueEvents.2.control := by
  have hissued := Control.issueEvents_steps (c := r.control) r.control.proto.world.orders.head []
  unfold issueEvents
  dsimp only
  split
  · exact hissued.trans (callback_steps { r with control := { r.control with
      proto := { r.control.proto with world := { r.control.proto.world with
        orders := r.control.proto.world.orders.tail } }
      imp := (r.control.imp.issueEvents r.control.proto.world.orders.head []).2.2 } } _)
  · exact hissued

namespace CoordinatorImp

theorem awaitReplay_steps (several : Bool) (r : ReplayObserver) :
    r.control.OwnSteps (awaitReplay several r).2.control := by
  unfold awaitReplay
  dsimp only
  split
  · exact .refl
  · split
    · have hpoll : r.control.OwnSteps r.control.pollResponse.2 := .single .polls
      split
      · exact hpoll
      · exact hpoll.trans
          (ReplayObserver.waitForReplay_steps { r with control := r.control.pollResponse.2 })
    · exact r.waitForReplay_steps

theorem callObserver_steps (r : ReplayObserver) :
    r.control.OwnSteps (callObserver r).control := by
  unfold callObserver
  split
  · exact .refl
  · exact r.issueEvents_steps.trans (ReplayObserver.sendActions_steps _)

theorem callObserverRealtime_steps (r : ReplayObserver) :
    r.control.OwnSteps (callObserverRealtime r).control := by
  unfold callObserverRealtime
  split
  · exact .refl
  · exact r.issueEvents_steps

theorem endReplay_steps {k : Control} {r : ReplayObserver} (h : k.OwnSteps r.control) :
    k.OwnSteps (if !r.control.isInGame then r.callback .onGameEnd else r).control := by
  split
  · exact h.trans (r.callback_steps .onGameEnd)
  · exact h

theorem runReplay_steps (settings : ProcessSettings) (several : Bool) (r : ReplayObserver) :
    r.control.OwnSteps (runReplay settings several r).control := by
  have hawait := awaitReplay_steps several r
  unfold runReplay
  dsimp only
  split
  · exact .refl
  · split
    · exact hawait
    · split
      · exact hawait
      · have hstep := (hawait.trans Control.step_steps).trans Control.waitStep_steps
        apply endReplay_steps
        split
        · exact hstep.trans ((ReplayObserver.issueEvents_steps
            { (awaitReplay several r).2 with
              control := (awaitReplay several r).2.control.step.2.waitStep.2 }).trans
            (ReplayObserver.sendActions_steps _))
        · exact hstep

theorem runReplayRealtime_steps (settings : ProcessSettings) (several : Bool)
    (r : ReplayObserver) :
    r.control.OwnSteps (runReplayRealtime settings several r).control := by
  have hawait := awaitReplay_steps several r
  unfold runReplayRealtime
  dsimp only
  split
  · exact .refl
  · split
    · exact hawait
    · split
      · exact hawait
      · have hobserve := hawait.trans Control.getObservation_steps
        apply endReplay_steps
        split
        · exact hobserve.trans (ReplayObserver.issueEvents_steps
            { (awaitReplay several r).2 with
              control := (awaitReplay several r).2.control.getObservation.2 })
        · exact hobserve

/-! ## Attempts -/

/-- An observer that has become outdated has come, in one of the attempts, to a replay of
another version. -/
structure Blames (c : CoordinatorImp) (attempts : List ReplayAttempt) (c' : CoordinatorImp) :
    Prop where
  replayRecovery : c'.replayRecovery = c.replayRecovery
  outdated : ∀ i, (c'.observerOf i).control.Outdated → (c.observerOf i).control.Outdated ∨
    ∃ a ∈ attempts, a.observer = i ∧ a.outcome = .wrongVersion

variable {c c' c'' : CoordinatorImp} {attempts attempts' : List ReplayAttempt}

theorem Blames.refl (c : CoordinatorImp) (attempts : List ReplayAttempt) :
    c.Blames attempts c := ⟨rfl, fun _ => .inl⟩

theorem Blames.trans (h : c.Blames attempts c') (h' : c'.Blames attempts' c'') :
    c.Blames (attempts ++ attempts') c'' := by
  refine ⟨h'.replayRecovery.trans h.replayRecovery, fun i hout => ?_⟩
  rcases h'.outdated i hout with hbefore | ⟨a, ha, hwrong⟩
  · refine (h.outdated i hbefore).imp_right ?_
    rintro ⟨a, ha, hwrong⟩
    exact ⟨a, List.mem_append_left _ ha, hwrong⟩
  · exact .inr ⟨a, List.mem_append_right _ ha, hwrong⟩

/-- What records nothing goes with what an attempt records. -/
theorem Blames.after (h : c.Blames [] c') (h' : c'.Blames attempts c'') :
    c.Blames attempts c'' := h.trans h'

theorem Blames.of_eq (h : c.Blames attempts c') (hrecovery : c''.replayRecovery = c'.replayRecovery)
    (hobservers : c''.observerOf = c'.observerOf) : c.Blames attempts c'' :=
  ⟨hrecovery.trans h.replayRecovery, fun i hout => h.outdated i (hobservers ▸ hout)⟩

theorem blames_of_eq (hrecovery : c'.replayRecovery = c.replayRecovery)
    (hobservers : c'.observerOf = c.observerOf) : c.Blames [] c' :=
  (Blames.refl c []).of_eq hrecovery hobservers

theorem blames_onObserver (i : ObserverId) {f : ReplayObserver → ReplayObserver}
    (h : (f (c.observerOf i)).control.Outdated → (c.observerOf i).control.Outdated) :
    c.Blames [] (c.onObserver i f) := by
  refine ⟨rfl, fun j hout => .inl ?_⟩
  by_cases hj : j = i
  · subst hj
    rw [observerOf_onObserver_self] at hout
    exact h hout
  · rwa [observerOf_onObserver_of_ne _ _ _ hj] at hout

theorem blames_onControl (client : ClientId) {f : Control → Control}
    (h : ∀ k, (f k).Outdated → k.Outdated) : c.Blames [] (c.onControl client f) := by
  cases client with
  | agent i => exact blames_of_eq rfl rfl
  | observer i =>
    have hobserver := blames_onObserver (c := c) i (f := fun r => { r with control := f r.control })
      (h (c.observerOf i).control)
    exact hobserver

theorem blames_foldl {α : Type} {f : CoordinatorImp → α → CoordinatorImp}
    (hf : ∀ (c : CoordinatorImp) a, c.Blames [] (f c a)) (as : List α) :
    c.Blames [] (as.foldl f c) := by
  induction as generalizing c with
  | nil => exact .refl c []
  | cons a as ih => exact (hf c a).trans ih

theorem blames_forObservers {f : ReplayObserver → ReplayObserver}
    (hf : ∀ r : ReplayObserver, r.control.OwnSteps (f r).control) :
    c.Blames [] (c.forObservers f) :=
  blames_foldl (f := fun c i => c.onObserver i f)
    (fun _ i => blames_onObserver i (hf _).outdated) _

theorem blames_updateObservers : c.Blames [] c.updateObservers := by
  have hrun := blames_forObservers (c := c)
    (runReplay_steps c.processSettings (1 < c.replayObservers.length))
  have hrunRealtime := blames_forObservers (c := c)
    (runReplayRealtime_steps c.processSettings (1 < c.replayObservers.length))
  unfold updateObservers
  split
  · exact .refl c []
  · split
    · unfold stepReplayObserversRealtime
      dsimp only
      split
      · exact hrunRealtime.trans (blames_forObservers callObserverRealtime_steps)
      · exact hrunRealtime
    · unfold stepReplayObservers
      dsimp only
      split
      · exact hrun.trans (blames_forObservers callObserver_steps)
      · exact hrun

theorem blames_launchProcess (client : ClientId) (port : Int32) :
    c.Blames [] (c.launchProcess client port) := by
  unfold launchProcess
  dsimp only
  refine Blames.after ?_ (blames_onControl client ?_)
  · exact blames_of_eq rfl rfl
  · exact fun _ hout => hout

theorem blames_connect (client : ClientId) (timeoutMs : Int32) :
    c.Blames [] (c.onControl client fun k => (k.connect timeoutMs).2) :=
  blames_onControl client fun _ => (Control.connectLoop_steps _).outdated

theorem blames_attachClients (clients : List ClientId) (connected : Bool) :
    c.Blames [] (c.attachClients clients connected).2 := by
  induction clients generalizing c connected with
  | nil => exact .refl c []
  | cons client clients ih => exact (blames_connect client _).trans (ih _)

theorem blames_launchEach (clients : List ClientId) (lastPort : Int32) :
    c.Blames [] (c.launchEach clients lastPort).2 := by
  induction clients generalizing c lastPort with
  | nil => exact .refl c []
  | cons client clients ih => exact (blames_launchProcess _ _).trans (ih _)

theorem blames_launchForReplays : c.Blames [] c.launchForReplays := by
  unfold launchForReplays
  split
  · exact ((blames_launchEach _ _).trans (blames_attachClients _ _)).of_eq rfl rfl
  · exact .refl c []

theorem blames_shouldIgnore (i : ObserverId) (file : String) :
    c.Blames [] (c.shouldIgnore i file).2 := by
  have hgather := blames_onObserver (c := c) i (f := fun r => (r.gatherReplayInfo file).2)
    (ReplayObserver.gatherReplayInfo_steps _ file).outdated
  unfold shouldIgnore
  split
  · exact .refl c []
  · dsimp only
    exact hgather.of_eq rfl rfl

theorem replayRecovery_shouldRelaunch (i : ObserverId) :
    (c.shouldRelaunch i).2.replayRecovery = c.replayRecovery := by
  unfold shouldRelaunch
  dsimp only
  split
  · rfl
  · split <;> rfl

theorem observerOf_shouldRelaunch_of_ne {i j : ObserverId} (hj : j ≠ i) :
    (c.shouldRelaunch i).2.observerOf j = c.observerOf j := by
  unfold shouldRelaunch
  dsimp only
  split
  · rfl
  · split
    · rfl
    · dsimp only [onControl]
      rw [observerOf_onObserver_of_ne _ _ _ hj]

/-- The one place that finds a version wrong. -/
theorem blames_tryReplay (i : ObserverId) (file : String) :
    c.Blames [(c.tryReplay i file).1] (c.tryReplay i file).2 := by
  have hgathered := blames_shouldIgnore (c := c) i file
  have hnone {k : CoordinatorImp} (h : c.Blames [] k) (a : ReplayAttempt) : c.Blames [a] k :=
    h.after (.refl k [a])
  rcases c.tryReplay_cases i file with
    ⟨-, htry⟩ | ⟨-, -, htry⟩ | ⟨-, hversion, outcome, -, -, htry⟩
  · rw [htry]
    dsimp only
    refine hnone ?_ _
    exact hgathered.of_eq rfl rfl
  · rw [htry]
    refine hgathered.after ⟨?_, fun j hout => ?_⟩
    · exact replayRecovery_shouldRelaunch i
    · by_cases hj : j = i
      · exact .inr ⟨_, List.mem_singleton_self _, hj.symm, rfl⟩
      · rw [observerOf_shouldRelaunch_of_ne hj] at hout
        exact .inl hout
  · rw [htry]
    have hloaded := blames_onObserver (c := ((c.shouldIgnore i file).2.shouldRelaunch i).2) i
      (f := (·.loadReplay.2)) (Control.sendRequest_steps .startReplay).outdated
    have hdecided : (c.shouldIgnore i file).2.Blames []
        ((c.shouldIgnore i file).2.shouldRelaunch i).2 := by
      refine ⟨replayRecovery_shouldRelaunch i, fun j hout => .inl ?_⟩
      by_cases hj : j = i
      · subst hj
        rwa [observerOf_shouldRelaunch hversion] at hout
      · rwa [observerOf_shouldRelaunch_of_ne hj] at hout
    dsimp only
    refine hnone ?_ _
    exact ((hgathered.trans hdecided).trans hloaded).of_eq rfl rfl

theorem blames_startReplayFrom (i : ObserverId) (n : Nat) :
    c.Blames (attemptsFrom i n c) (startReplayFrom i n c) := by
  induction n generalizing c with
  | zero => exact .refl c _
  | succ n ih =>
    rw [startReplayFrom_succ, attemptsFrom]
    cases c.replaySettings.replayFile.getLast? with
    | none => exact .refl c _
    | some file =>
      have hturn := blames_tryReplay (c := c) i file
      dsimp only
      split
      · exact hturn.trans ih
      · exact hturn

theorem blames_startReplayOn (i : ObserverId) :
    c.Blames (c.attemptsOf i) (c.startReplayOn i) := by
  unfold attemptsOf startReplayOn
  split
  · exact .refl c _
  · refine Blames.after (blames_onControl (.observer i) ?_) (blames_startReplayFrom i _)
    exact fun _ hout => hout

theorem blames_attemptsOn (is : List ObserverId) :
    c.Blames (attemptsOn is c) (is.foldl startReplayOn c) := by
  induction is generalizing c with
  | nil => exact .refl c _
  | cons i is ih => exact (blames_startReplayOn i).trans ih

theorem blames_startReplay : c.Blames c.startReplayAttempts c.startReplay := by
  rw [startReplay_eq]
  unfold startReplayAttempts
  split
  · exact .refl c _
  · exact (blames_launchForReplays.after (blames_attemptsOn _)).of_eq rfl rfl

/-- Whoever is found outdated by the loop over the errors was so before the update, or came
to a replay of another version in it. -/
theorem blames_checkedAgents : c.Blames c.replayAttempts c.checkedAgents := by
  have hagents : c.Blames [] c.updateAgents :=
    blames_of_eq sameObservers_updateAgents.replayRecovery sameObservers_updateAgents.observerOf
  have hsteps := hagents.after blames_updateObservers
  have hclients : c.Blames c.replayAttempts c.updateClients := by
    unfold replayAttempts updateClients
    dsimp only
    split
    · exact hsteps.after blames_startReplay
    · exact hsteps
  have herrors := sameObservers_foldl (c := c.updateClients) c.updateClients.failedAgents
    (·.callback .onError)
  exact hclients.of_eq herrors.replayRecovery herrors.observerOf

/-! ## Relaunches -/

/-- The observers of a list that the loop over the errors relaunches. -/
def relaunches (c : CoordinatorImp) : List ObserverId → List ObserverId
  | [] => []
  | i :: is =>
    let rest := (c.recoverObserver i).2.relaunches is
    if (c.observerOf i).control.proto.clientErrors ≠ [] ∧ c.replayRecovery then i :: rest
    else rest

/-- The errors that the loop finds, each at the turn of its observer. -/
def foundErrors (c : CoordinatorImp) : List ObserverId → List ClientError
  | [] => []
  | i :: is =>
    (c.observerOf i).control.proto.clientErrors ++ (c.recoverObserver i).2.foundErrors is

/-- A relaunch brings a client without errors. -/
theorem not_outdated_relaunch (i : ObserverId) :
    ¬((c.relaunch i).2.observerOf i).control.Outdated := by
  intro hout
  rw [observerOf_relaunch] at hout
  have hfresh := (Control.connectLoop_steps _).outdated hout
  exact absurd hfresh List.not_mem_nil

theorem relaunch_others {i j : ObserverId} (hj : j ≠ i) :
    (c.relaunch i).2.observerOf j = c.observerOf j := by
  unfold relaunch launchProcess onControl
  dsimp only
  simp only [observerOf_onObserver_of_ne _ _ _ hj]

theorem replayRecovery_recoverObserver (i : ObserverId) :
    (c.recoverObserver i).2.replayRecovery = c.replayRecovery := by
  unfold recoverObserver
  split
  · rfl
  · dsimp only
    split <;> rfl

/-- After its turn no observer is outdated, and no turn makes another one so. -/
theorem recoverObserver_outdated (hrecovery : c.replayRecovery = true) (i : ObserverId) :
    ¬((c.recoverObserver i).2.observerOf i).control.Outdated ∧
      ∀ j, ((c.recoverObserver i).2.observerOf j).control.Outdated →
        (c.observerOf j).control.Outdated := by
  unfold recoverObserver
  split
  next hnone =>
    refine ⟨fun hout => ?_, fun _ => id⟩
    unfold Control.Outdated at hout
    rw [hnone] at hout
    exact absurd hout List.not_mem_nil
  · rw [if_neg (by simp [onObserver, hrecovery])]
    refine ⟨not_outdated_relaunch i, fun j hout => ?_⟩
    by_cases hj : j = i
    · subst hj
      exact absurd hout (not_outdated_relaunch j)
    · dsimp only at hout
      rwa [relaunch_others hj, observerOf_onObserver_of_ne _ _ _ hj] at hout

/-- Where nothing but wrong versions is found, an observer is relaunched for one, and once. -/
theorem relaunches_spec (hrecovery : c.replayRecovery = true) (is : List ObserverId)
    (hfound : ∀ error ∈ c.foundErrors is, error = .wrongGameVersion) :
    (c.relaunches is).Nodup ∧ ∀ i ∈ c.relaunches is, (c.observerOf i).control.Outdated := by
  induction is generalizing c with
  | nil => exact ⟨List.nodup_nil, List.forall_mem_nil _⟩
  | cons i is ih =>
    have hkept := (replayRecovery_recoverObserver (c := c) i).trans hrecovery
    obtain ⟨hcurrent, hothers⟩ := recoverObserver_outdated hrecovery i
    rw [foundErrors, List.forall_mem_append] at hfound
    obtain ⟨hnodup, hmem⟩ := ih hkept hfound.2
    have hrest : ∀ j ∈ (c.recoverObserver i).2.relaunches is, (c.observerOf j).control.Outdated :=
      fun j hj => hothers j (hmem j hj)
    rw [relaunches]
    split
    next herrors =>
      obtain ⟨error, herror⟩ := List.exists_mem_of_ne_nil _ herrors.1
      obtain rfl := hfound.1 error herror
      have hout : (c.observerOf i).control.Outdated := herror
      exact ⟨List.nodup_cons.2 ⟨fun hi => hcurrent (hmem i hi), hnodup⟩,
        List.forall_mem_cons.2 ⟨hout, hrest⟩⟩
    · exact ⟨hnodup, hrest⟩

theorem relaunches_off (hrecovery : c.replayRecovery = false) (is : List ObserverId) :
    c.relaunches is = [] := by
  induction is generalizing c with
  | nil => rfl
  | cons i is ih =>
    rw [relaunches, if_neg (by simp [hrecovery]),
      ih ((replayRecovery_recoverObserver i).trans hrecovery)]

theorem mem_of_mem_relaunches {is : List ObserverId} {i : ObserverId}
    (hi : i ∈ c.relaunches is) : i ∈ is := by
  induction is generalizing c with
  | nil => exact hi
  | cons j is ih =>
    rw [relaunches] at hi
    split at hi
    · rcases List.mem_cons.1 hi with rfl | hi
      · exact List.mem_cons_self
      · exact List.mem_cons_of_mem j (ih hi)
    · exact List.mem_cons_of_mem j (ih hi)

/-- The loop leaves no observer of its list outdated. -/
theorem recoverObservers_outdated (hrecovery : c.replayRecovery = true) (is : List ObserverId)
    (flags : Bool × Bool) (i : ObserverId)
    (hout : ((c.recoverObservers is flags).2.observerOf i).control.Outdated) :
    i ∉ is ∧ (c.observerOf i).control.Outdated := by
  induction is generalizing c flags with
  | nil => exact ⟨List.not_mem_nil, hout⟩
  | cons j is ih =>
    obtain ⟨hcurrent, hothers⟩ := recoverObserver_outdated hrecovery j
    rw [recoverObservers_cons] at hout
    obtain ⟨hnot, hbefore⟩ := ih ((replayRecovery_recoverObserver j).trans hrecovery) _ hout
    refine ⟨fun hi => ?_, hothers i hbefore⟩
    rcases List.mem_cons.1 hi with rfl | hi
    · exact hcurrent hbefore
    · exact hnot hi

theorem replayRecovery_recoverObservers (is : List ObserverId) (flags : Bool × Bool) :
    (c.recoverObservers is flags).2.replayRecovery = c.replayRecovery := by
  induction is generalizing c flags with
  | nil => rfl
  | cons i is ih =>
    rw [recoverObservers_cons, ih]
    exact replayRecovery_recoverObserver i

/-! ## Updates -/

/-- No observer begins an update outdated. -/
def Fresh (c : CoordinatorImp) : Prop :=
  ∀ i ∈ c.replayObservers, ¬(c.observerOf i).control.Outdated

instance (c : CoordinatorImp) : Decidable c.Fresh :=
  inferInstanceAs (Decidable (∀ i ∈ c.replayObservers, _))

theorem replayObservers_checkedAgents : c.checkedAgents.replayObservers = c.replayObservers :=
  (sameObservers_foldl c.updateClients.failedAgents (·.callback .onError)).replayObservers.trans
    uses_updateClients.replayObservers

theorem replayRecovery_update : c.update.2.replayRecovery = c.replayRecovery :=
  (replayRecovery_recoverObservers (c := c.checkedAgents) _ _).trans
    blames_checkedAgents.replayRecovery

theorem fresh_update (hrecovery : c.replayRecovery = true) : c.update.2.Fresh := by
  intro i hi hout
  have hchecked := blames_checkedAgents.replayRecovery.trans hrecovery
  have hsame := sameReplays_recoverObservers (c := c.checkedAgents)
    c.checkedAgents.replayObservers (decide (c.updateClients.failedAgents ≠ []), false)
  have hmem : i ∈ c.checkedAgents.replayObservers := hsame.replayObservers ▸ hi
  exact (recoverObservers_outdated hchecked _ _ i hout).1 hmem

end CoordinatorImp

end Sc2Api
