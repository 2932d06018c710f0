import Sc2Api.GameInfo
import Sc2Api.Verify.Fetching

/-!
# Game info over several games

`GetGameInfo` converts into a record that earlier games have filled, and the start of a
game edits it before or after that. `Game.Unmixed` says exactly when a game gets its own
info: nothing of the others shows through, and the start locations are not put back in
after the start removed them.
-/

namespace Sc2Api

open Lib

/-! ## Conversion -/

namespace Proto.ResponseGameInfo

/-- Every part that the conversion asks for is present. -/
def WellFormed (r : ResponseGameInfo) : Prop :=
  ∃ s x y area p₀ p₁ options raw, r.startRaw = some s ∧ s.mapSize = some ⟨some x, some y⟩ ∧
    s.pathingGrid.isSome ∧ s.terrainHeight.isSome ∧ s.placementGrid.isSome ∧
    s.playableArea = some area ∧ area.p0 = some p₀ ∧ area.p1 = some p₁ ∧
    r.options = some options ∧ options.raw = some raw

/-- The start locations of the map. -/
def locations (r : ResponseGameInfo) : List Point2D :=
  (r.startRaw.getD {}).startLocations.map (·.toPoint2D)

def players (r : ResponseGameInfo) : List Sc2Api.PlayerInfo := r.playerInfo.map convertPlayerInfo

/-- The response in an empty record. -/
def info (r : ResponseGameInfo) : GameInfo := (convertGameInfo r {}).2

variable {r : ResponseGameInfo}

/-- Of what was there before, the conversion keeps the start locations and the players. -/
theorem WellFormed.convert_eq (h : r.WellFormed) (old : GameInfo) :
    (convertGameInfo r old).2 = { r.info with
      startLocations := r.locations ++ old.startLocations
      playerInfo := old.playerInfo ++ r.players } := by
  obtain ⟨s, x, y, area, p₀, p₁, options, raw, hs, hsize, hpathing, hterrain, hplacement, harea,
    hp₀, hp₁, hoptions, hraw⟩ := h
  obtain ⟨pathing, hpathing⟩ := Option.isSome_iff_exists.1 hpathing
  obtain ⟨terrain, hterrain⟩ := Option.isSome_iff_exists.1 hterrain
  obtain ⟨placement, hplacement⟩ := Option.isSome_iff_exists.1 hplacement
  simp [convertGameInfo, info, locations, players, convertInterfaceOptions, hs, hsize, hpathing,
    hterrain, hplacement, harea, hp₀, hp₁, hoptions, hraw]

theorem WellFormed.info_startLocations (h : r.WellFormed) :
    r.info.startLocations = r.locations := by
  have heq := congrArg GameInfo.startLocations (h.convert_eq {})
  exact heq.trans (List.append_nil _)

theorem WellFormed.info_playerInfo (h : r.WellFormed) : r.info.playerInfo = r.players :=
  congrArg GameInfo.playerInfo (h.convert_eq {})

end Proto.ResponseGameInfo

/-! ## What happens to the record -/

/-- The effect of a start on the record, with the town hall it finds. -/
def GameInfo.started (info : GameInfo) : Option Unit → GameInfo
  | none => info
  | some hall => { info with startLocations := [⟨hall.pos.x, hall.pos.y⟩] }

namespace GameClient

def cached (g : GameClient) : Bool := g.client.observationImp.gameInfoCached

theorem onGameStart_gameInfo (g : GameClient) (order : UnitPool.Order) :
    (g.onGameStart order).gameInfo = g.gameInfo.started (g.ownTownHalls order).head? := by
  unfold onGameStart GameInfo.started
  cases g.ownTownHalls order <;> rfl

theorem onGameStart_client (g : GameClient) (order : UnitPool.Order) :
    (g.onGameStart order).client = g.client := by
  unfold onGameStart
  cases g.ownTownHalls order <;> rfl

end GameClient

theorem gameInfoCached_updateObservation (s : ObservationImp) (orders : UpdateOrders)
    (o : Proto.Observation) (r : Proto.ResponseObservation) :
    (s.updateObservation orders o r).2.gameInfoCached = s.gameInfoCached := by
  unfold ObservationImp.updateObservation
  dsimp only
  split
  · rfl
  · split
    · rfl
    · generalize hbefore : ObservationImp.updateChat _ r = before
      have hcached : before.gameInfoCached = s.gameInfoCached := by
        rw [← hbefore]
        rfl
      rename_i raw _
      obtain ⟨pool, previous, table, hunits⟩ := before.updateUnits_eq orders raw
      rw [hunits]
      split
      · exact hcached
      · split <;> exact hcached

/-- Neither fetching observations nor issuing events resets the flag. -/
theorem gameInfoCached_getObservation (c : ControlImp) (orders : UpdateOrders)
    (answer : Option Proto.Response) :
    (c.getObservation orders answer).2.observationImp.gameInfoCached =
      c.observationImp.gameInfoCached := by
  unfold ControlImp.getObservation
  split
  · rfl
  · split
    · rfl
    · split
      · split
        · rfl
        · exact gameInfoCached_updateObservation _ _ _ _
      · rfl

theorem gameInfoCached_issueEvents (c : ControlImp) (order : UnitPool.Order)
    (commands : List Tag) :
    (c.issueEvents order commands).2.2.observationImp.gameInfoCached =
      c.observationImp.gameInfoCached := by
  obtain ⟨pool, hpool⟩ := exists_pool_issueEvents c order commands
  rw [hpool]

/-! ## Within a game -/

/-- Some request for the info is answered. -/
def Answered (doings : List Doing) : Prop := ∃ d ∈ doings, d matches .getGameInfo true

instance (doings : List Doing) : Decidable (Answered doings) :=
  inferInstanceAs (Decidable (∃ d ∈ doings, _))

/-- What some doings make of the record: the response is converted when it comes for the
first time. -/
structure Does (r : Proto.ResponseGameInfo) (answered : Prop) (g g' : GameClient) : Prop where
  cached : g'.cached ↔ g.cached ∨ answered
  converted : ¬g.cached → answered → g'.gameInfo = (convertGameInfo r g.gameInfo).2
  kept : g.cached ∨ ¬answered → g'.gameInfo = g.gameInfo

section Doings

variable {r : Proto.ResponseGameInfo} {g g' g'' : GameClient} {answered answered' : Prop}

theorem Does.trans (h : Does r answered g g') (h' : Does r answered' g' g'') :
    Does r (answered ∨ answered') g g'' where
  cached := by rw [h'.cached, h.cached, or_assoc]
  converted hcached hanswered := by
    by_cases ha : answered
    · rw [h'.kept (.inl (h.cached.2 (.inr ha))), h.converted hcached ha]
    · have hfresh : ¬g'.cached := fun hc => (h.cached.1 hc).elim hcached ha
      rw [h'.converted hfresh (hanswered.resolve_left ha), h.kept (.inr ha)]
  kept hkept := by
    rcases hkept with hc | hn
    · rw [h'.kept (.inl (h.cached.2 (.inl hc))), h.kept (.inl hc)]
    · rw [not_or] at hn
      rw [h'.kept (.inr hn.2), h.kept (.inr hn.1)]

theorem does_getGameInfo (g : GameClient) (r : Proto.ResponseGameInfo) (answered : Bool) :
    Does r (answered = true) g (g.getGameInfo (if answered then some r else none)).2 := by
  unfold GameClient.getGameInfo
  cases hcached : g.client.observationImp.gameInfoCached <;> cases answered <;>
    exact ⟨by simp [GameClient.cached, hcached], by simp [GameClient.cached, hcached],
      by simp [GameClient.cached, hcached]⟩

theorem does_of_same (hnone : ¬answered) (hinfo : g'.gameInfo = g.gameInfo)
    (hcached : g'.cached = g.cached) : Does r answered g g' :=
  ⟨by simp [hcached, hnone], fun _ h => absurd h hnone, fun _ => hinfo⟩

theorem does_step (d : Doing) (g : GameClient) (r : Proto.ResponseGameInfo) :
    Does r (d matches .getGameInfo true) g (gameMachine.step g (d.op r)).1 := by
  cases d with
  | getGameInfo answered =>
    have hdoes := does_getGameInfo g r answered
    cases answered <;> exact hdoes
  | getObservation orders answer =>
    exact does_of_same (by simp) rfl (gameInfoCached_getObservation g.client orders answer)
  | issueEvents order commands =>
    exact does_of_same (by simp) rfl (gameInfoCached_issueEvents g.client order commands)

theorem does_final (doings : List Doing) (g : GameClient) (r : Proto.ResponseGameInfo) :
    Does r (Answered doings) g (gameMachine.final g (doings.map (·.op r))) := by
  induction doings generalizing g with
  | nil => exact does_of_same (by simp [Answered]) rfl rfl
  | cons d doings ih =>
    have hcons : Answered (d :: doings) ↔ (d matches .getGameInfo true) ∨ Answered doings := by
      simp [Answered]
    rw [propext hcons]
    exact (does_step d g r).trans (ih _)

end Doings

/-! ## A whole game -/

namespace Game

/-- The info is fetched before the game starts. -/
def FetchedBefore (g : Game) : Prop := Answered g.before

def Fetched (g : Game) : Prop := Answered g.before ∨ Answered g.after

instance (g : Game) : Decidable g.FetchedBefore := inferInstanceAs (Decidable (Answered _))

instance (g : Game) : Decidable g.Fetched := inferInstanceAs (Decidable (_ ∨ _))

/-- The client when the game is about to start. -/
def opened (g : Game) (c : GameClient) : GameClient := gameMachine.final c g.opening

/-- The town hall that the start of the game finds. -/
def townHall (g : Game) (c : GameClient) : Option Unit :=
  ((g.opened c).ownTownHalls g.order).head?

variable (g : Game) (c : GameClient)

theorem opened_does : ∃ joined : GameClient, joined.gameInfo = c.gameInfo ∧ ¬joined.cached ∧
    Does g.response g.FetchedBefore joined (g.opened c) :=
  ⟨(gameMachine.step c (.client (.requestJoinGame g.setup g.settings g.ports g.sent))).1, rfl,
    Bool.false_ne_true, does_final g.before _ g.response⟩

/-- The record when the game is about to start. -/
theorem opened_gameInfo : (g.opened c).gameInfo =
    if g.FetchedBefore then (convertGameInfo g.response c.gameInfo).2 else c.gameInfo := by
  obtain ⟨joined, hinfo, hcached, hdoes⟩ := g.opened_does c
  split
  next hfetched => rw [hdoes.converted hcached hfetched, hinfo]
  next hfetched => rw [hdoes.kept (.inr hfetched), hinfo]

theorem opened_cached : (g.opened c).cached ↔ g.FetchedBefore := by
  obtain ⟨joined, -, hcached, hdoes⟩ := g.opened_does c
  rw [hdoes.cached, or_iff_right hcached]

theorem does_after : Does g.response (Answered g.after) ((g.opened c).onGameStart g.order)
    (games.step c g).1 := by
  have hfinal : (games.step c g).1 = gameMachine.final ((g.opened c).onGameStart g.order)
      (g.after.map (·.op g.response)) := by
    show gameMachine.final c g.ops = _
    rw [ops, Machine.final_append]
    rfl
  rw [hfinal]
  exact does_final g.after _ g.response

theorem started_cached : ((g.opened c).onGameStart g.order).cached ↔ g.FetchedBefore := by
  unfold GameClient.cached
  rw [GameClient.onGameStart_client]
  exact g.opened_cached c

/-- The record after a game. -/
theorem final_gameInfo : (games.step c g).1.gameInfo =
    if g.FetchedBefore then (convertGameInfo g.response c.gameInfo).2.started (g.townHall c)
    else if g.Fetched then (convertGameInfo g.response (c.gameInfo.started (g.townHall c))).2
    else c.gameInfo.started (g.townHall c) := by
  have hdoes := g.does_after c
  have hstarted := (g.opened c).onGameStart_gameInfo g.order
  have hcached := g.started_cached c
  rw [g.opened_gameInfo c] at hstarted
  by_cases hbefore : g.FetchedBefore
  · rw [if_pos hbefore] at hstarted ⊢
    rw [hdoes.kept (.inl (hcached.2 hbefore)), hstarted]
    rfl
  · rw [if_neg hbefore] at hstarted ⊢
    have hfresh := fun hc => hbefore (hcached.1 hc)
    by_cases hafter : Answered g.after
    · rw [if_pos (.inr hafter), hdoes.converted hfresh hafter, hstarted]
      rfl
    · have hnever : ¬g.Fetched := not_or.2 ⟨hbefore, hafter⟩
      rw [if_neg hnever, hdoes.kept (.inr hafter), hstarted]
      rfl

/-- What `GetGameInfo` returns after a game has started. -/
theorem value_eq : ((games.step c g).1.getGameInfo (some g.response)).1 =
    if g.FetchedBefore then (convertGameInfo g.response c.gameInfo).2.started (g.townHall c)
    else (convertGameInfo g.response (c.gameInfo.started (g.townHall c))).2 := by
  have hdoes := (g.does_after c).trans (does_getGameInfo (games.step c g).1 g.response true)
  have hvalue : ((games.step c g).1.getGameInfo (some g.response)).1 =
      ((games.step c g).1.getGameInfo (some g.response)).2.gameInfo := by
    unfold GameClient.getGameInfo
    split <;> rfl
  have hstarted := (g.opened c).onGameStart_gameInfo g.order
  have hcached := g.started_cached c
  rw [g.opened_gameInfo c] at hstarted
  rw [hvalue]
  by_cases hbefore : g.FetchedBefore
  · rw [if_pos hbefore] at hstarted ⊢
    exact (hdoes.kept (.inl (hcached.2 hbefore))).trans hstarted
  · rw [if_neg hbefore] at hstarted ⊢
    have hconverted := hdoes.converted (fun hc => hbefore (hcached.1 hc)) (.inr rfl)
    rw [hstarted] at hconverted
    exact hconverted

/-! ## Several games -/

variable {g c}

theorem startLocations_started_some (info : GameInfo) (hall : Unit) :
    (info.started (some hall)).startLocations ≠ [] := List.cons_ne_nil _ _

theorem playerInfo_started (info : GameInfo) (hall : Option Unit) :
    (info.started hall).playerInfo = info.playerInfo := by cases hall <;> rfl

/-- A game leaves its players behind, if its info was fetched. -/
theorem playerInfo_step (h : g.response.WellFormed) : (games.step c g).1.gameInfo.playerInfo =
    c.gameInfo.playerInfo ++ if g.Fetched then g.response.players else [] := by
  rw [g.final_gameInfo c]
  by_cases hbefore : g.FetchedBefore
  · have hfetched : g.Fetched := .inl hbefore
    rw [if_pos hbefore, if_pos hfetched, playerInfo_started, h.convert_eq]
  · rw [if_neg hbefore]
    split
    · rw [h.convert_eq, playerInfo_started]
    · rw [playerInfo_started, List.append_nil]

/-- A game leaves no start locations behind. -/
def LeavesNone (c : GameClient) (g : Game) : Prop :=
  g.townHall c = none ∧ (g.Fetched → g.response.locations = [])

theorem startLocations_step (h : g.response.WellFormed) :
    (games.step c g).1.gameInfo.startLocations = [] ↔
      c.gameInfo.startLocations = [] ∧ LeavesNone c g := by
  rw [g.final_gameInfo c]
  unfold LeavesNone
  cases hhall : g.townHall c with
  | some hall =>
    simp only [reduceCtorEq, false_and, and_false, iff_false]
    split
    · exact startLocations_started_some _ hall
    · split
      · rw [h.convert_eq]
        simp [startLocations_started_some]
      · exact startLocations_started_some _ hall
  | none =>
    by_cases hbefore : g.FetchedBefore
    · have hfetched : g.Fetched := .inl hbefore
      rw [if_pos hbefore, h.convert_eq]
      simp [GameInfo.started, hfetched, and_comm]
    · by_cases hfetched : g.Fetched
      · rw [if_neg hbefore, if_pos hfetched, h.convert_eq]
        simp [GameInfo.started, hfetched, and_comm]
      · simp [GameInfo.started, hbefore, hfetched]

theorem playerInfo_final (earlier : List Game) (h : ∀ g ∈ earlier, g.response.WellFormed) :
    (games.final c earlier).gameInfo.playerInfo = [] ↔ c.gameInfo.playerInfo = [] ∧
      ∀ g ∈ earlier, g.Fetched → g.response.playerInfo = [] := by
  induction earlier generalizing c with
  | nil => simp
  | cons g earlier ih =>
    rw [Machine.final_cons, ih fun g' hg' => h g' (List.mem_cons_of_mem g hg'),
      playerInfo_step (h g List.mem_cons_self)]
    by_cases hfetched : g.Fetched <;>
      simp [hfetched, Proto.ResponseGameInfo.players, and_assoc]

theorem startLocations_final (earlier : List Game) (h : ∀ g ∈ earlier, g.response.WellFormed) :
    (games.final c earlier).gameInfo.startLocations = [] ↔
      c.gameInfo.startLocations = [] ∧ games.Along LeavesNone c earlier := by
  induction earlier generalizing c with
  | nil => simp
  | cons g earlier ih =>
    rw [Machine.final_cons, ih fun g' hg' => h g' (List.mem_cons_of_mem g hg'),
      startLocations_step (h g List.mem_cons_self), Machine.along_cons, and_assoc]

/-- Nothing but the game itself shows in its info: no earlier game has left players; the
start of the game, if it finds a town hall, was not followed by a first fetch that puts
start locations before it; and if it finds none, no earlier game has left any. -/
structure Unmixed (earlier : List Game) (g : Game) : Prop where
  players : ∀ g' ∈ earlier, g'.Fetched → g'.response.playerInfo = []
  inTime : (g.townHall (games.final {} earlier)).isSome →
    g.FetchedBefore ∨ g.response.locations = []
  locations : g.townHall (games.final {} earlier) = none → games.Along LeavesNone {} earlier

end Game

theorem gameInfo_eq_iff (info : GameInfo) {a a' : List Point2D} {b b' : List PlayerInfo} :
    ({ info with startLocations := a, playerInfo := b } : GameInfo) =
      { info with startLocations := a', playerInfo := b' } ↔ a = a' ∧ b = b' := by
  simp

/-- After a game has started, `GetGameInfo` returns what an empty record would have become
in this game, exactly when nothing else shows in it. -/
theorem game_info_is_own_iff (earlier : List Game) (g : Game)
    (h : ∀ g' ∈ earlier ++ [g], g'.response.WellFormed) :
    ((games.final {} (earlier ++ [g])).getGameInfo (some g.response)).1 =
        ({ g.opened (games.final {} earlier) with
          gameInfo := (convertGameInfo g.response {}).2 }.onGameStart g.order).gameInfo ↔
      Game.Unmixed earlier g := by
  have hearlier : ∀ g' ∈ earlier, g'.response.WellFormed :=
    fun g' hg' => h g' (List.mem_append_left _ hg')
  have hg : g.response.WellFormed := h g (List.mem_append_right _ List.mem_cons_self)
  have hplayers := Game.playerInfo_final (c := {}) earlier hearlier
  have hlocations := Game.startLocations_final (c := {}) earlier hearlier
  have hexpected : ({ g.opened (games.final {} earlier) with
      gameInfo := (convertGameInfo g.response {}).2 }.onGameStart g.order).gameInfo =
        g.response.info.started (g.townHall (games.final {} earlier)) :=
    GameClient.onGameStart_gameInfo _ g.order
  have hunmixed : Game.Unmixed earlier g ↔
      (games.final {} earlier).gameInfo.playerInfo = [] ∧
        ((g.townHall (games.final {} earlier)).isSome →
          g.FetchedBefore ∨ g.response.locations = []) ∧
        (g.townHall (games.final {} earlier) = none →
          (games.final {} earlier).gameInfo.startLocations = []) := by
    rw [hplayers, hlocations]
    exact ⟨fun hu => ⟨⟨rfl, hu.players⟩, hu.inTime, fun hn => ⟨rfl, hu.locations hn⟩⟩,
      fun ⟨⟨_, hp⟩, ht, hl⟩ => ⟨hp, ht, fun hn => (hl hn).2⟩⟩
  rw [Machine.final_concat, g.value_eq, hexpected, hunmixed]
  generalize games.final {} earlier = c
  rw [hg.convert_eq, hg.convert_eq]
  cases g.townHall c with
  | some hall =>
    simp only [Option.isSome_some, forall_const, reduceCtorEq, false_implies, and_true]
    by_cases hbefore : g.FetchedBefore
    · rw [if_pos hbefore]
      refine (gameInfo_eq_iff g.response.info).trans ?_
      rw [hg.info_playerInfo]
      simp [hbefore]
    · rw [if_neg hbefore]
      refine (gameInfo_eq_iff g.response.info).trans ?_
      rw [hg.info_playerInfo]
      simp [hbefore, GameInfo.started, and_comm]
  | none =>
    simp only [Option.isSome_none, Bool.false_eq_true, false_implies, true_and, forall_const]
    simp only [GameInfo.started, ite_self]
    refine (gameInfo_eq_iff g.response.info).trans ?_
    change _ = g.response.info.startLocations ∧ _ = g.response.info.playerInfo ↔ _
    rw [hg.info_startLocations, hg.info_playerInfo]
    simp [and_comm]

/-- The flag of a whole client changes as here, with the answer its round trip brings. -/
theorem cached_getGameInfo (c : Control) (response : Proto.ResponseGameInfo) (info : GameInfo) :
    c.getGameInfo.imp.observationImp.gameInfoCached =
      ((GameClient.mk c.imp info {}).getGameInfo
        (if Control.succeeded (c.exchange .gameInfo).1 .gameInfo then some response
          else none)).2.cached := by
  have hkept := (Control.exchange_waits (c := c) .gameInfo).observationImp
  unfold Control.getGameInfo GameClient.getGameInfo GameClient.cached
  dsimp only
  cases hcached : c.imp.observationImp.gameInfoCached with
  | true => simp [hcached]
  | false =>
    cases Control.succeeded (c.exchange .gameInfo).1 .gameInfo <;> simp [hkept, hcached]

/-! ## Two players and a town hall -/

def twoPlayers : Proto.ResponseGameInfo where
  playerInfo := [{ playerId := some 1 }, { playerId := some 2 }]
  startRaw := some {
    mapSize := some ⟨some 64, some 64⟩
    pathingGrid := some {}
    terrainHeight := some {}
    placementGrid := some {}
    playableArea := some { p0 := some {}, p1 := some {} }
    startLocations := [{ x := some 50, y := some 50 }] }
  options := some { raw := some true }

theorem wellFormed_twoPlayers : twoPlayers.WellFormed :=
  ⟨_, _, _, _, _, _, _, _, rfl, rfl, rfl, rfl, rfl, rfl, rfl, rfl, rfl, rfl⟩

/-- A game whose info is fetched before or after its start. -/
def twoPlayerGame (early : Bool) : Game where
  response := twoPlayers
  before := .getObservation {} (some (.ofObservation (.full 1
    [{ tag := some 3, unitType := some 59, pos := some { x := some 9, y := some 9 } }] [] [])
      {})) :: if early then [.getGameInfo true] else []
  after := if early then [] else [.getGameInfo true]

/-- A game whose info is never fetched. -/
def unaskedGame : Game := { twoPlayerGame false with after := [] }

theorem unaskedGame_not_fetched : ¬unaskedGame.Fetched := by decide

theorem twoPlayerGame_townHall :
    ((twoPlayerGame true).townHall (games.final {} [unaskedGame])).isSome = true := by
  decide +kernel

/-- After a game whose info was never fetched, the info of the second one, fetched before it
starts, is its own. -/
theorem early_game_info_is_own :
    ((games.final {} ([unaskedGame] ++ [twoPlayerGame true])).getGameInfo (some twoPlayers)).1 =
      ({ (twoPlayerGame true).opened (games.final {} [unaskedGame]) with
        gameInfo := (convertGameInfo twoPlayers {}).2 }.onGameStart default).gameInfo := by
  have hwf : ∀ g ∈ [unaskedGame] ++ [twoPlayerGame true], g.response.WellFormed := by
    intro g hg
    rcases List.mem_cons.1 hg with rfl | hg
    · exact wellFormed_twoPlayers
    · rw [List.mem_singleton.1 hg]
      exact wellFormed_twoPlayers
  refine (game_info_is_own_iff [unaskedGame] (twoPlayerGame true) hwf).2 ⟨?_, ?_, ?_⟩
  · intro g hg hfetched
    rw [List.mem_singleton.1 hg] at hfetched
    exact absurd hfetched unaskedGame_not_fetched
  · exact fun _ => .inl (by decide)
  · intro hnone
    have hsome := twoPlayerGame_townHall
    rw [hnone] at hsome
    cases hsome

/-- In a second game there are four players, and the start location of the other player
precedes one's own. -/
theorem second_game_info_is_not_own :
    let value := ((games.final {} ([twoPlayerGame false] ++ [twoPlayerGame false])).getGameInfo
      (some twoPlayers)).1
    (value.playerInfo.length, value.startLocations) = (4, [⟨50, 50⟩, ⟨9, 9⟩]) ∧
      value ≠ ({ (twoPlayerGame false).opened (games.final {} [twoPlayerGame false]) with
        gameInfo := (convertGameInfo twoPlayers {}).2 }.onGameStart default).gameInfo := by
  decide +kernel

end Sc2Api
