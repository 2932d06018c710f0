import Sc2Api.Verify.GameEnd

/-!
# Agents whose game ends

What the step of an agent does in the update in which its game ends, and in the
updates after that.
-/

namespace Sc2Api

open Lib

namespace Agent

def onGameEnds (a : Agent) : Nat := a.events.count .onGameEnd

def leaves (a : Agent) : Nat := a.control.proto.line.leaves

def isMultiplayer (a : Agent) : Bool := a.control.imp.isMultiplayer

/-- The game of the agent is over, and the coordinator can tell. -/
structure Gone (a : Agent) : Prop where
  lineOver : a.control.proto.line.Over
  settled : a.isMultiplayer = false → a.control.Settled

/-- Nothing about the end of a game happens between the two states. -/
structure Rests (a a' : Agent) : Prop where
  gone : a'.Gone
  isMultiplayer : a'.isMultiplayer = a.isMultiplayer
  onGameEnds : a'.onGameEnds = a.onGameEnds
  leaves : a'.leaves = a.leaves

/-- The end of a game is told, and the game is left if others play it too. -/
structure Ends (a a' : Agent) : Prop where
  gone : a'.Gone
  isMultiplayer : a'.isMultiplayer = a.isMultiplayer
  onGameEnds : a'.onGameEnds = a.onGameEnds + 1
  leaves : a'.leaves = a.leaves + if a.isMultiplayer then 1 else 0

variable {a a' a'' : Agent}

theorem Gone.rests (h : a.Gone) : a.Rests a := ⟨h, rfl, rfl, rfl⟩

theorem Rests.trans (h : a.Rests a') (h' : a'.Rests a'') : a.Rests a'' :=
  ⟨h'.gone, h'.isMultiplayer.trans h.isMultiplayer, h'.onGameEnds.trans h.onGameEnds,
    h'.leaves.trans h.leaves⟩

theorem Ends.rests (h : a.Ends a') (h' : a'.Rests a'') : a.Ends a'' :=
  ⟨h'.gone, h'.isMultiplayer.trans h.isMultiplayer, h'.onGameEnds.trans h.onGameEnds,
    h'.leaves.trans h.leaves⟩

theorem Rests.iterate {f : Agent → Agent} (hf : ∀ a : Agent, a.Gone → a.Rests (f a))
    (h : a.Gone) (n : Nat) : a.Rests (f^[n] a) := by
  induction n with
  | zero => exact h.rests
  | succ n ih =>
    rw [Function.iterate_succ_apply']
    exact ih.trans (hf _ ih.gone)

/-- Talking to a game that is over does not change that. -/
theorem Gone.rests_of_talks (h : a.Gone) (htalks : a.control.Talks a'.control)
    (hevents : a'.onGameEnds = a.onGameEnds) : a.Rests a' where
  gone := ⟨htalks.over h.lineOver, fun hsingle =>
    htalks.settled (h.settled (htalks.isMultiplayer.symm.trans hsingle))⟩
  isMultiplayer := htalks.isMultiplayer
  onGameEnds := hevents
  leaves := htalks.leaves

theorem Gone.drained (h : a.Gone) : a.Rests a.drained :=
  ⟨⟨h.lineOver, h.settled⟩, rfl, rfl, rfl⟩

/-! ## Callbacks -/

theorem onGameEnds_callback (a : Agent) (event : ClientEvent) :
    (a.callback event).onGameEnds =
      a.onGameEnds + if event = .onGameEnd then 1 else 0 := by
  have hevents : (a.callback event).events = a.events ++ [event] := rfl
  rw [onGameEnds, hevents, List.count_append, onGameEnds]
  by_cases h : event = .onGameEnd
  · rw [if_pos h, h]
    rfl
  · rw [if_neg h, List.count_singleton, if_neg (by simpa using h)]

theorem onGameEnds_issueEvents (a : Agent) : a.issueEvents.2.onGameEnds = a.onGameEnds := by
  unfold issueEvents
  dsimp only
  split
  · rw [onGameEnds_callback, if_neg (by simp)]
    rfl
  · rfl

theorem onGameEnds_sendActions (a : Agent) : a.sendActions.onGameEnds = a.onGameEnds := by
  unfold sendActions
  dsimp only
  split
  · rfl
  · split <;> rfl

theorem Gone.onError (h : a.Gone) : a.Rests (a.callback .onError).drained := by
  have hcallback : a.Rests (a.callback .onError) :=
    h.rests_of_talks (a.callback_talks _) (by rw [onGameEnds_callback]; simp)
  exact hcallback.trans hcallback.gone.drained

/-! ## Agents that are gone -/

/-- Where an agent whose game is over waits for its leave request to be answered. -/
theorem Gone.pollLeaveGame (h : a.Gone) :
    a.Rests { a with control := a.control.pollLeaveGame.2 } := by
  unfold Control.pollLeaveGame
  dsimp only
  split
  · exact h.rests
  next hmulti =>
    have hmulti : a.control.imp.isMultiplayer = true := by simpa using hmulti
    have hgone {c : Control} (hover : c.proto.line.Over)
        (himp : c.imp.isMultiplayer = true) : Gone { a with control := c } :=
      ⟨hover, fun hsingle => absurd (hsingle.symm.trans himp) (by simp)⟩
    split
    · unfold Control.errorIf
      split
      · exact ⟨hgone h.lineOver hmulti, rfl, rfl, rfl⟩
      · exact h.rests
    · have hpoll : a.control.pollResponse.2.proto.line.Over :=
        ProtoInterface.pollResponse_over h.lineOver
      have hleaves : a.control.pollResponse.2.proto.line.leaves =
          a.control.proto.line.leaves := by
        have hline : a.control.pollResponse.2.proto.line = _ :=
          a.control.proto.pollResponse_spec.2
        rw [hline]
        rfl
      split
      · exact ⟨hgone hpoll hmulti, rfl, rfl, hleaves⟩
      · obtain ⟨appState, himp⟩ := (Control.waitForResponse_waits
          (c := a.control.pollResponse.2)).imp
        have hsame : a.control.pollResponse.2.waitForResponse.2.imp.isMultiplayer =
            a.control.imp.isMultiplayer := by
          rw [himp]
          rfl
        exact ⟨hgone (Control.waitForResponse_over hpoll) (hsame.trans hmulti), hsame, rfl,
          Control.leaves_waitForResponse.trans hleaves⟩

/-- One of the two guards keeps an agent whose game is over from being stepped. -/
theorem Gone.guarded (h : a.Gone) (happ : a.control.appState = .normal) :
    a.control.pollLeaveGame.1 = true ∨ a.control.pollLeaveGame.2.isFinishedGame = true := by
  have hgame : a.control.isInGame = false := Control.isInGame_of_over h.lineOver
  unfold Control.pollLeaveGame
  dsimp only
  split
  next hsingle =>
    have hsingle : a.isMultiplayer = false := (Bool.not_eq_true' _).mp hsingle
    have hpending := h.settled hsingle happ
    refine .inr ?_
    unfold Control.isFinishedGame
    rw [if_neg (not_not_intro happ), hgame]
    simp [Control.hasResponsePending, ProtoInterface.hasResponsePending, hpending]
  · refine .inl ?_
    split
    · have hsame : (a.control.errorIf a.control.hasResponsePending
          .responseNotConsumed).isInGame = a.control.isInGame := by
        unfold Control.errorIf
        split <;> rfl
      rw [hsame, hgame]
      rfl
    · split <;> rfl

end Agent

namespace CoordinatorImp

variable {a : Agent}

/-- The step that the guards keep back does not matter. -/
theorem rests_of_guards (h : a.Gone) (stepped : Agent) :
    a.Rests (if a.control.appState ≠ .normal then a
      else if a.control.pollLeaveGame.1 then { a with control := a.control.pollLeaveGame.2 }
      else if a.control.pollLeaveGame.2.isFinishedGame then
        { a with control := a.control.pollLeaveGame.2 }
      else stepped) := by
  split
  · exact h.rests
  next happ =>
    rcases h.guarded (not_not.1 happ) with hguard | hguard
    · rw [if_pos hguard]
      exact h.pollLeaveGame
    · rw [if_pos hguard, ite_self]
      exact h.pollLeaveGame

theorem stepAgent_rests (settings : ProcessSettings) (h : a.Gone) :
    a.Rests (stepAgent settings a) := rests_of_guards h _

theorem stepAgentRealtime_rests (h : a.Gone) : a.Rests (stepAgentRealtime a) :=
  rests_of_guards h _

end CoordinatorImp

/-! ## The end of a game -/

namespace Control

/-- The request is answered, and the game is over with that. -/
structure LeavesAfter (c : Control) (case : Proto.ResponseCase) : Prop where
  answered : (c.exchange case).1.isSome = true
  lineOver : (c.exchange case).2.proto.line.Over

/-- The game is over in answer to what an update asks for: the step, when it is not
played in real time, or the observation. -/
structure GameEnds (c : Control) (realtime : Bool) : Prop where
  inGame : c.isInGame = true
  leaves : if realtime then c.LeavesAfter .observation else
    c.LeavesAfter .step ∨
      (succeeded (c.exchange .step).1 .step = true ∧
        (c.exchange .step).2.LeavesAfter .observation)

variable {c : Control}

theorem sent_of_isSome {case : Proto.ResponseCase} (h : (c.exchange case).1.isSome = true) :
    (c.sendRequest case).1 = true := by
  obtain ⟨response, hresponse⟩ := Option.isSome_iff_exists.1 h
  exact sent_of_response c hresponse

theorem responsePending_of_sent {case : Proto.ResponseCase}
    (h : (c.sendRequest case).1 = true) : c.proto.responsePending = .responseNotSet := by
  have hfst : (c.proto.sendRequest case).1 = true := h
  rw [ProtoInterface.sendRequest_fst, Bool.and_eq_true] at hfst
  simpa [ProtoInterface.hasResponsePending] using hfst.1

theorem appState_of_isSome {case : Proto.ResponseCase}
    (h : (c.exchange case).1.isSome = true) : (c.exchange case).2.appState = c.appState := by
  have hsent := sent_of_isSome h
  rw [sendRequest_waitForResponse, if_pos hsent] at h ⊢
  exact appState_waitForResponse h

theorem appState_of_isInGame (h : c.isInGame = true) : c.appState = .normal := by
  rw [isInGame_eq, Bool.and_eq_true] at h
  exact of_decide_eq_true h.1

/-- A step that is sent is a round trip, and one for an observation if it succeeds. -/
theorem step_waitStep (happ : c.appState = .normal) (hsent : (c.sendRequest .step).1 = true) :
    c.step.2.waitStep.2 =
      if succeeded (c.exchange .step).1 .step then (c.exchange .step).2.getObservation.2
      else (c.exchange .step).2 := by
  rw [sendRequest_waitForResponse, if_pos hsent]
  unfold step waitStep
  rw [if_neg (not_not_intro happ)]
  dsimp only
  split <;> rfl

/-- A client whose game has just ended. -/
structure Ended (c c' : Control) : Prop where
  talks : c.Talks c'
  lineOver : c'.proto.line.Over
  settled : c'.Settled

theorem Ended.talk {c' c'' : Control} (h : c.Ended c') (htalks : c'.Talks c'') : c.Ended c'' :=
  ⟨h.talks.trans htalks, htalks.over h.lineOver, htalks.settled h.settled⟩

namespace GameEnds

theorem responsePending {realtime : Bool} (h : c.GameEnds realtime) :
    c.proto.responsePending = .responseNotSet := by
  have hleaves := h.leaves
  cases realtime with
  | true => exact responsePending_of_sent (sent_of_isSome (LeavesAfter.answered hleaves))
  | false =>
    rcases hleaves with hleaves | ⟨hstep, -⟩
    · exact responsePending_of_sent (sent_of_isSome hleaves.answered)
    · exact responsePending_of_sent (sent_of_isSome (isSome_of_succeeded hstep))

theorem settled {realtime : Bool} (h : c.GameEnds realtime) : c.Settled :=
  fun _ => h.responsePending

theorem observed (h : c.GameEnds true) : c.Ended c.getObservation.2 := by
  have hleaves : c.LeavesAfter .observation := h.leaves
  have hrest := exchange_talks_getObservation (appState_of_isInGame h.inGame)
  exact ⟨getObservation_talks, hrest.over hleaves.lineOver, getObservation_talks.settled h.settled⟩

theorem stepped (h : c.GameEnds false) : c.Ended c.step.2.waitStep.2 := by
  have happ := appState_of_isInGame h.inGame
  have hexchange := exchange_talks (c := c) .step (by decide)
  have hobserve := hexchange.trans getObservation_talks
  rcases h.leaves with hleaves | ⟨hstep, hleaves⟩
  · rw [step_waitStep happ (sent_of_isSome hleaves.answered)]
    have hended : c.Ended (c.exchange .step).2 :=
      ⟨hexchange, hleaves.lineOver, hexchange.settled h.settled⟩
    split
    · exact hended.talk getObservation_talks
    · exact hended
  · have hanswered := isSome_of_succeeded hstep
    rw [step_waitStep happ (sent_of_isSome hanswered), if_pos hstep]
    have hrest := exchange_talks_getObservation ((appState_of_isSome hanswered).trans happ)
    exact ⟨hobserve, hrest.over hleaves.lineOver, hobserve.settled h.settled⟩

/-- Both guards let a game pass that is going to end. -/
theorem pollLeaveGame {realtime : Bool} (h : c.GameEnds realtime) :
    c.pollLeaveGame = (false, c) := by
  have hpending : c.hasResponsePending = false := by
    simp [Control.hasResponsePending, ProtoInterface.hasResponsePending, h.responsePending]
  unfold Control.pollLeaveGame
  split
  · rfl
  · rw [if_pos (by rw [h.responsePending]; decide), hpending]
    simp [errorIf, h.inGame]

theorem isFinishedGame {realtime : Bool} (h : c.GameEnds realtime) :
    c.isFinishedGame = false := by
  unfold Control.isFinishedGame
  rw [if_neg (not_not_intro (appState_of_isInGame h.inGame)), if_pos h.inGame]

end GameEnds

end Control

namespace Agent

variable {a a' a'' : Agent}

theorem Ends.of_same (h : a'.Ends a'') (hmulti : a'.isMultiplayer = a.isMultiplayer)
    (hevents : a'.onGameEnds = a.onGameEnds) (hleaves : a'.leaves = a.leaves) : a.Ends a'' where
  gone := h.gone
  isMultiplayer := h.isMultiplayer.trans hmulti
  onGameEnds := h.onGameEnds.trans (congrArg (· + 1) hevents)
  leaves := by rw [h.leaves, hmulti, hleaves]

theorem Ends.of_talks (h : a'.Ends a'') (htalks : a.control.Talks a'.control)
    (hevents : a'.onGameEnds = a.onGameEnds) : a.Ends a'' :=
  h.of_same htalks.isMultiplayer hevents htalks.leaves

/-- `OnGameEnd` and the request to leave, once the game is over. -/
theorem ends_onGameEnd (hover : a.control.proto.line.Over) (hsettled : a.control.Settled)
    (hattentive : a.isMultiplayer = true → a.control.proto.line.Attentive) :
    a.Ends { a.callback .onGameEnd with
      control := (a.callback .onGameEnd).control.requestLeaveGame.2 } := by
  have htalks := a.callback_talks .onGameEnd
  have hevents : (a.callback .onGameEnd).onGameEnds = a.onGameEnds + 1 :=
    a.onGameEnds_callback .onGameEnd
  generalize a.callback .onGameEnd = a' at htalks hevents ⊢
  have hmulti : a'.control.imp.isMultiplayer = a.control.imp.isMultiplayer :=
    htalks.isMultiplayer
  cases hplayers : a.control.imp.isMultiplayer with
  | false =>
    have hleave : a'.control.requestLeaveGame.2 = a'.control := by
      unfold Control.requestLeaveGame
      rw [hmulti, hplayers]
      rfl
    rw [hleave]
    refine ⟨⟨htalks.over hover, fun _ => htalks.settled hsettled⟩, hmulti, hevents, ?_⟩
    rw [isMultiplayer, hplayers]
    exact htalks.leaves
  | true =>
    have hattentive' := (htalks.attentive (hattentive hplayers)).1
    have hsent := (Control.sent_of_attentive hattentive' .leaveGame).1
    have hleave : a'.control.requestLeaveGame.2 = (a'.control.sendRequest .leaveGame).2 := by
      unfold Control.requestLeaveGame
      rw [hmulti, hplayers]
      rfl
    rw [hleave]
    refine ⟨⟨ProtoInterface.sendRequest_over (htalks.over hover) .leaveGame false,
      fun hsingle => absurd (hsingle.symm.trans (hmulti.trans hplayers)) (by decide)⟩,
      hmulti, hevents, ?_⟩
    rw [isMultiplayer, hplayers]
    exact (ProtoInterface.leaves_sent _ hsent).trans (congrArg (· + 1) htalks.leaves)

theorem callOnStep_ends (hover : a.control.proto.line.Over) (hsettled : a.control.Settled)
    (hattentive : a.isMultiplayer = true → a.control.proto.line.Attentive) :
    a.Ends a.callOnStep := by
  unfold callOnStep
  rw [Control.isInGame_of_over hover]
  exact ends_onGameEnd hover hsettled hattentive

end Agent

namespace CoordinatorImp

variable {a : Agent} {settings : ProcessSettings}

theorem stepAgent_eq (h : a.control.GameEnds false) : stepAgent settings a =
    if settings.multiThreaded then
      Agent.callOnStep { a with control := a.control.step.2.waitStep.2 }
    else { a with control := a.control.step.2.waitStep.2 } := by
  have happ := Control.appState_of_isInGame h.inGame
  unfold stepAgent
  rw [if_neg (not_not_intro happ), h.pollLeaveGame]
  dsimp only
  rw [h.isFinishedGame]
  simp only [Bool.false_eq_true, if_false]

theorem stepAgent_ends (hthreads : settings.multiThreaded = true)
    (h : a.control.GameEnds false)
    (hattentive : a.isMultiplayer = true → a.control.proto.line.Attentive) :
    a.Ends (stepAgent settings a) := by
  have hended := h.stepped
  rw [stepAgent_eq h, if_pos hthreads]
  let a' : Agent := { a with control := a.control.step.2.waitStep.2 }
  have hends : a'.Ends a'.callOnStep :=
    Agent.callOnStep_ends hended.lineOver hended.settled fun hmulti => ?_
  · exact hends.of_talks hended.talks rfl
  have hsame : a.isMultiplayer = true := hended.talks.isMultiplayer.symm.trans hmulti
  exact (hended.talks.attentive (hattentive hsame)).1

theorem callAgent_eq (happ : a.control.appState = .normal) (hsingle : a.isMultiplayer = false) :
    callAgent a = a.callOnStep := by
  have hpoll : a.control.pollLeaveGame = (false, a.control) := by
    have hsingle : a.control.imp.isMultiplayer = false := hsingle
    unfold Control.pollLeaveGame
    rw [hsingle]
    rfl
  unfold callAgent
  rw [if_neg (not_not_intro happ), hpoll]
  rfl

/-- Without threads the second loop tells the end of a game that is played alone. -/
theorem callAgent_ends (hthreads : settings.multiThreaded = false)
    (h : a.control.GameEnds false) (hsingle : a.isMultiplayer = false)
    (hattentive : a.control.proto.line.Attentive) :
    a.Ends (callAgent (stepAgent settings a).drained) := by
  have hended := h.stepped
  have happ : a.control.step.2.waitStep.2.appState = .normal :=
    (hended.talks.attentive hattentive).2.trans (Control.appState_of_isInGame h.inGame)
  have hmulti : (stepAgent settings a).drained.isMultiplayer = a.isMultiplayer := by
    rw [stepAgent_eq h, hthreads]
    exact hended.talks.isMultiplayer
  have hstep : (stepAgent settings a).drained = { a with
      control := { a.control.step.2.waitStep.2 with calls := [] } } := by
    rw [stepAgent_eq h, hthreads]
    rfl
  have hends := Agent.callOnStep_ends (a := (stepAgent settings a).drained)
    (by rw [hstep]; exact hended.lineOver) (by rw [hstep]; exact hended.settled)
    fun hmulti' => absurd (hmulti'.symm.trans (hmulti.trans hsingle)) (by decide)
  rw [callAgent_eq (by rw [hstep]; exact happ) (hmulti.trans hsingle)]
  refine hends.of_same hmulti ?_ ?_
  · rw [hstep]
    rfl
  · rw [hstep]
    exact hended.talks.leaves

theorem stepAgentRealtime_ends (h : a.control.GameEnds true)
    (hattentive : a.isMultiplayer = true → a.control.proto.line.Attentive) :
    a.Ends (stepAgentRealtime a) := by
  have happ := Control.appState_of_isInGame h.inGame
  let a₁ : Agent := { a with control := a.control.getObservation.2 }
  let a₂ := a₁.issueEvents.2.sendActions
  have hended : a.control.Ended a₂.control :=
    (h.observed.talk a₁.issueEvents_talks).talk a₁.issueEvents.2.sendActions_talks
  have hevents : a₂.onGameEnds = a.onGameEnds :=
    a₁.issueEvents.2.onGameEnds_sendActions.trans a₁.onGameEnds_issueEvents
  have hstep : stepAgentRealtime a = { a₂.callback .onGameEnd with
      control := (a₂.callback .onGameEnd).control.requestLeaveGame.2 } := by
    have hgame : a₂.control.isInGame = false := Control.isInGame_of_over hended.lineOver
    unfold stepAgentRealtime
    rw [if_neg (not_not_intro happ), h.pollLeaveGame]
    dsimp only
    rw [h.isFinishedGame]
    simp only [Bool.false_eq_true, if_false]
    rw [if_pos (by rw [hgame]; rfl)]
  rw [hstep]
  refine Agent.Ends.of_talks
    (Agent.ends_onGameEnd hended.lineOver hended.settled fun hmulti => ?_) hended.talks hevents
  have hsame : a.isMultiplayer = true := hended.talks.isMultiplayer.symm.trans hmulti
  exact (hended.talks.attentive (hattentive hsame)).1

end CoordinatorImp

end Sc2Api
