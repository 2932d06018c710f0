import Sc2Api.ReplayInfos
import Sc2Api.Verify.ObserverObjects
import Sc2Api.Verify.Wire

/-!
# What the decisions about a replay depend on

After a call of `GatherReplayInfo` the record is that of the response, if there was one
that fits, and otherwise what earlier calls left of it. So decisions are a matter of the
replay alone exactly when its response fits.
-/

namespace Sc2Api

open Lib

/-! ## The players -/

namespace ReplayPlayers

/-- The array never overflows, and holds what `addPlayers` collects. -/
theorem storeAll_spec (infos : List Proto.PlayerInfoExtra) {a : ReplayPlayers}
    (h : a.numPlayers ≤ maxNumPlayers) :
    ∃ all a', storeAll infos a = some (all, a') ∧ a'.numPlayers ≤ maxNumPlayers ∧
      ReplayObserver.addPlayers infos a.toList = (all, a'.toList) := by
  have hlength {a : ReplayPlayers} (h : a.numPlayers ≤ maxNumPlayers) :
      a.toList.length = a.numPlayers := by
    simp [toList, h]
  induction infos generalizing a with
  | nil => exact ⟨true, a, rfl, h, rfl⟩
  | cons info infos ih =>
    unfold storeAll ReplayObserver.addPlayers
    rw [hlength h]
    by_cases hfull : maxNumPlayers ≤ a.numPlayers
    · exact ⟨false, a, if_pos hfull, h, if_pos hfull⟩
    · have hroom : a.numPlayers < maxNumPlayers := Nat.lt_of_not_le hfull
      rw [if_neg hfull, if_neg hfull, store, dif_pos hroom, Option.bind_eq_bind,
        Option.bind_some]
      obtain ⟨all, a', hstore, hle, hadd⟩ := ih (a := ⟨_, a.numPlayers + 1⟩) hroom
      refine ⟨all, a', hstore, hle, ?_⟩
      rw [← hadd]
      congr 1
      have hkept (player : ReplayPlayerInfo) :
          (a.players.toList.set a.numPlayers player).take a.numPlayers =
            a.players.toList.take a.numPlayers := List.take_set_of_le (Nat.le_refl _)
      simp [toList, Vector.toList_set, List.take_add_one, hroom, hkept]

/-- A call starts with no players, whatever earlier ones left in the array. -/
theorem storeAll_from (infos : List Proto.PlayerInfoExtra)
    (players : Vector ReplayPlayerInfo maxNumPlayers) :
    ∃ all a, storeAll infos ⟨players, 0⟩ = some (all, a) ∧ a.numPlayers ≤ maxNumPlayers ∧
      ReplayObserver.addPlayers infos [] = (all, a.toList) :=
  storeAll_spec infos (a := ⟨players, 0⟩) (Nat.zero_le _)

end ReplayPlayers

/-! ## A call -/

/-- What a call makes of the record. -/
def ReplayInfo.gathered (info : ReplayInfo) (path : String) (outcome : GatherOutcome) :
    ReplayInfo :=
  match outcome with
  | .responded proto =>
    if proto.fits then
      { duration := proto.gameDurationSeconds
        durationGameloops := proto.gameDurationLoops
        players := (ReplayObserver.addPlayers proto.playerInfo []).2
        dataBuild := proto.dataBuild
        baseBuild := proto.baseBuild
        mapName := ReplayObserver.cString proto.mapName
        mapPath := ReplayObserver.cString proto.localMapPath
        replayPath := ReplayObserver.cString path
        version := ReplayObserver.cString proto.gameVersion
        dataVersion := ReplayObserver.cString proto.dataVersion }
    else { info with players := [] }
  | _ => { info with players := [] }

namespace ReplayObserver

variable (r : ReplayObserver)

theorem gathered_ofResponse (path : String) : (r.gatherReplayInfo path).2.replayInfo =
    r.replayInfo.gathered path (.ofResponse (r.control.exchange .replayInfo).1) := by
  unfold gatherReplayInfo
  dsimp only
  generalize r.control.exchange .replayInfo = exchanged
  obtain ⟨response, control⟩ := exchanged
  cases response with
  | none => rfl
  | some response =>
    dsimp only [GatherOutcome.ofResponse]
    by_cases hcase : response.case = .replayInfo
    · rw [if_neg (not_not.2 hcase), if_neg (not_not.2 hcase)]
      dsimp only [ReplayInfo.gathered, Proto.ResponseReplayInfo.fits]
      split
      next hname => simp [Nat.not_lt.2 hname]
      next hname =>
        split
        next hpath => simp [Nat.not_lt.2 hpath]
        next hpath =>
          split
          next hversion => simp [Nat.not_lt.2 hversion]
          next hversion =>
            simp [Nat.lt_of_not_le hname, Nat.lt_of_not_le hpath, Nat.lt_of_not_le hversion]
    · rw [if_pos hcase, if_pos hcase]
      rfl

/-- A call does to the record what its outcome says. -/
theorem replayInfo_gatherReplayInfo (path : String) :
    (r.gatherReplayInfo path).2.replayInfo = r.replayInfo.gathered path r.gatherOutcome := by
  rw [gathered_ofResponse]
  unfold gatherOutcome
  split
  next hsent =>
    have hnone : (r.control.exchange .replayInfo).1 = none := by
      rw [Control.sendRequest_waitForResponse, if_neg (by simpa using hsent)]
    rw [hnone]
    rfl
  next => rfl

end ReplayObserver

/-! ## What StartReplay decides -/

namespace CoordinatorImp

variable (c : CoordinatorImp) (i : ObserverId)

/-- `StartReplay` decides on what the call for the file has left. -/
theorem decisions_shouldIgnore {file : String} (h : file ≠ "") :
    ((c.shouldIgnore i file).2.observerOf i).replayInfo.decisions =
      (c.observerOf i).decisionsFor file := by
  have hobserver : (c.shouldIgnore i file).2.observerOf i =
      (c.onObserver i fun r => (r.gatherReplayInfo file).2).observerOf i := by
    unfold shouldIgnore
    rw [if_neg h]
  rw [hobserver, observerOf_onObserver_self]
  rfl

theorem shouldRelaunch_fst : (c.shouldRelaunch i).1 =
    (!(c.observerOf i).replayInfo.decisions.versionMatch
        ⟨(c.observerOf i).control.proto.baseBuild, (c.observerOf i).control.proto.dataVersion⟩ &&
      c.world.baseExes.head.isSome) := by
  unfold shouldRelaunch
  dsimp only [ReplayInfo.decisions, ReplayInfo.versionMatch]
  split
  next hsame => simp [hsame]
  next hdiffers =>
    rw [decide_eq_false hdiffers]
    cases c.world.baseExes.head <;> rfl

end CoordinatorImp

/-! ## Whole histories -/

theorem addPlayers_length (infos : List Proto.PlayerInfoExtra) :
    (ReplayObserver.addPlayers infos []).2.length ≤ maxNumPlayers := by
  obtain ⟨all, a, -, hle, hadd⟩ := ReplayPlayers.storeAll_from infos (Vector.replicate _ {})
  rw [hadd]
  exact (List.length_take_le _ _).trans hle

theorem ReplayInfo.players_gathered {info : ReplayInfo} (path : String)
    (outcome : GatherOutcome) : (info.gathered path outcome).players.length ≤ maxNumPlayers := by
  cases outcome with
  | responded proto =>
    unfold gathered
    dsimp only
    split
    · exact addPlayers_length proto.playerInfo
    · exact Nat.zero_le _
  | notSent | noResponse | wrongResponse => exact Nat.zero_le _

namespace ReplayObserver

variable (r : ReplayObserver)

theorem replayInfo_issueEvents : r.issueEvents.2.replayInfo = r.replayInfo := by
  unfold issueEvents
  dsimp only
  split <;> rfl

theorem replayInfo_sendActions : r.sendActions.replayInfo = r.replayInfo := by
  unfold sendActions
  split
  · rfl
  · dsimp only
    split <;> rfl

theorem replayInfo_waitForReplay : r.waitForReplay.2.replayInfo = r.replayInfo := by
  unfold waitForReplay
  dsimp only
  repeat' split
  all_goals rfl

end ReplayObserver

/-- Only `GatherReplayInfo` writes the record. -/
theorem replayInfo_step (s : BoundObserver) (input : World × ObserverOp) :
    (observerMachine.step s input).1.observer.replayInfo = s.observer.replayInfo ∨
    ∃ path outcome, (observerMachine.step s input).1.observer.replayInfo =
      s.observer.replayInfo.gathered path outcome := by
  obtain ⟨world, op⟩ := input
  cases op with
  | gatherReplayInfo path =>
    exact .inr ⟨path, _, ReplayObserver.replayInfo_gatherReplayInfo _ path⟩
  | issueEvents => exact .inl (ReplayObserver.replayInfo_issueEvents _)
  | sendActions => exact .inl (ReplayObserver.replayInfo_sendActions _)
  | waitForReplay => exact .inl (ReplayObserver.replayInfo_waitForReplay _)
  | relaunch _ _ | queueActions | callback _ | loadReplay | controlCall _ => exact .inl rfl

theorem players_bounded (past : ObserverHistory) :
    (observerMachine.final {} past).observer.replayInfo.players.length ≤ maxNumPlayers := by
  refine observerMachine.invariant'
    (I := fun s => s.observer.replayInfo.players.length ≤ maxNumPlayers)
    (fun s input h => ?_) past (Nat.zero_le _)
  rcases replayInfo_step s input with hsame | ⟨path, outcome, hgathered⟩
  · rwa [hsame]
  · rw [hgathered]
    exact ReplayInfo.players_gathered path outcome

/-! ## Two histories -/

/-- Whatever has happened to an observer, the outcome decides the same about a file. -/
def GatherOutcome.Decides (outcome : GatherOutcome) (file : String) : Prop :=
  ∀ (past past' : ObserverHistory) (world world' : World),
    (past.observer world).gatherOutcome = outcome →
    (past'.observer world').gatherOutcome = outcome →
    (past.observer world).decisionsFor file = (past'.observer world').decisionsFor file

namespace GatherOutcome

/-- A world in which a call from an observer that is not connected ends so. -/
def world : GatherOutcome → World
  | notSent => { connects := .const false }
  | noResponse => {}
  | wrongResponse => { deliveries := .const { waiting := [.answer { kind := some .ping }] } }
  | responded info => { deliveries := .const { waiting := [.answer { replayInfo := info }] } }

/-- An observer that has seen a replay of half a minute, and was relaunched. -/
def seasoned : ObserverHistory :=
  [((responded { gameDurationSeconds := 30 }).world, .gatherReplayInfo "a.SC2Replay"),
    (notSent.world, .relaunch ⟨"SC2.exe", 1, 8167⟩ 0)]

theorem gatherOutcome_first (outcome : GatherOutcome) :
    (ObserverHistory.observer [] outcome.world).gatherOutcome = outcome := by
  cases outcome <;> rfl

theorem gatherOutcome_seasoned (outcome : GatherOutcome) :
    (seasoned.observer outcome.world).gatherOutcome = outcome := by
  cases outcome <;> rfl

theorem ignores_seasoned :
    (observerMachine.final {} seasoned).observer.replayInfo.ignoreReplay = false := by
  decide +kernel

theorem gathered_of_informs {outcome : GatherOutcome} (h : outcome.informs = true)
    (info info' : ReplayInfo) (path : String) :
    info.gathered path outcome = info'.gathered path outcome := by
  cases outcome with
  | responded proto =>
    have hfits : proto.fits = true := h
    simp only [ReplayInfo.gathered, hfits, if_true]
  | notSent | noResponse | wrongResponse => cases h

theorem gathered_of_not_informs {outcome : GatherOutcome} (h : ¬outcome.informs = true)
    (info : ReplayInfo) (path : String) :
    info.gathered path outcome = { info with players := [] } := by
  cases outcome with
  | responded proto =>
    have hfits : proto.fits ≠ true := h
    simp only [ReplayInfo.gathered, if_neg hfits]
  | notSent | noResponse | wrongResponse => rfl

end GatherOutcome

/-- The decisions about a file are its own exactly when a response comes for it that fits;
the array of players is never overrun. -/
theorem decisions_are_own_iff (file : String) (outcome : GatherOutcome)
    (past : ObserverHistory) (world : World) (infos : List Proto.PlayerInfoExtra)
    (players : Vector ReplayPlayerInfo maxNumPlayers) :
    (outcome.Decides file ↔ outcome.informs = true) ∧
    (past.observer world).replayInfo.players.length ≤ maxNumPlayers ∧
    ∃ all a, ReplayPlayers.storeAll infos ⟨players, 0⟩ = some (all, a) ∧
      a.numPlayers ≤ maxNumPlayers ∧
      ReplayObserver.addPlayers infos [] = (all, a.toList) := by
  refine ⟨⟨fun h => ?_, fun h past past' world world' hend hend' => ?_⟩,
    players_bounded past, ReplayPlayers.storeAll_from infos players⟩
  · by_contra hnot
    have hsame := h [] GatherOutcome.seasoned outcome.world outcome.world
      outcome.gatherOutcome_first outcome.gatherOutcome_seasoned
    unfold ReplayObserver.decisionsFor at hsame
    rw [ReplayObserver.replayInfo_gatherReplayInfo, ReplayObserver.replayInfo_gatherReplayInfo,
      outcome.gatherOutcome_first, outcome.gatherOutcome_seasoned,
      GatherOutcome.gathered_of_not_informs hnot,
      GatherOutcome.gathered_of_not_informs hnot] at hsame
    have hignores := congrArg ReplayDecisions.ignores hsame
    have hfirst : (observerMachine.final {} []).observer.replayInfo.ignoreReplay = true := by
      decide +kernel
    exact absurd (hfirst.symm.trans (hignores.trans GatherOutcome.ignores_seasoned))
      Bool.noConfusion
  · unfold ReplayObserver.decisionsFor
    rw [ReplayObserver.replayInfo_gatherReplayInfo, ReplayObserver.replayInfo_gatherReplayInfo,
      hend, hend']
    exact congrArg ReplayInfo.decisions (GatherOutcome.gathered_of_informs h _ _ file)

/-- An observer that cannot ask for the info of a second replay takes it to be as long as
the first. -/
theorem unasked_is_not_own : ¬GatherOutcome.notSent.Decides "b.SC2Replay" := by
  intro h
  have hsame := congrArg ReplayDecisions.ignores
    (h [] GatherOutcome.seasoned GatherOutcome.notSent.world GatherOutcome.notSent.world rfl rfl)
  exact absurd hsame (by decide +kernel)

end Sc2Api
