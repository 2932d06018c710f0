import Sc2Api.Verify.EventRefinement
import Sc2Api.Verify.Talks

/-!
# What fetching an observation comes to

`GetObservation` of a client either changes nothing of what it knows, or takes in the
response it received.
-/

namespace Sc2Api

open Lib

/-! ## Taking in -/

namespace ObservationImp

/-- An observation that has a score is taken in at least so far. -/
structure TakenIn (s s' : ObservationImp) (o : Proto.Observation)
    (r : Proto.ResponseObservation) : Prop where
  currentGameLoop : s'.currentGameLoop = o.loop
  previousGameLoop : s'.previousGameLoop = s.currentGameLoop
  rawActions : s'.rawActions = (s.updateActions r (o.loop != s.currentGameLoop)).rawActions
  featureLayerActions : s'.featureLayerActions =
    (s.updateActions r (o.loop != s.currentGameLoop)).featureLayerActions
  chat : s'.chat = (s.updateChat r).chat

theorem updateUnits_eq (s : ObservationImp) (orders : UpdateOrders) (raw : Proto.ObservationRaw) :
    ∃ pool previous table, s.updateUnits orders raw =
      { s with unitPool := pool, unitsPreviousMap := previous, abilityTable := table } := by
  unfold updateUnits
  dsimp only
  rw [remapOrders_eq]
  exact ⟨_, _, _, rfl⟩

theorem updateObservation_takenIn {s : ObservationImp} {o : Proto.Observation}
    (hscore : o.score.isSome) (orders : UpdateOrders) (r : Proto.ResponseObservation) :
    s.TakenIn (s.updateObservation orders o r).2 o r := by
  obtain ⟨score, hscore⟩ := Option.isSome_iff_exists.1 hscore
  unfold updateObservation convertScore
  simp only [hscore, Bool.not_true, Bool.false_eq_true, if_false]
  cases o.rawData with
  | none => exact ⟨rfl, rfl, rfl, rfl, rfl⟩
  | some raw =>
    dsimp only
    generalize hbefore : updateChat _ r = before
    have htaken : s.TakenIn before o r := by
      rw [← hbefore]
      exact ⟨rfl, rfl, rfl, rfl, rfl⟩
    obtain ⟨pool, previous, table, hunits⟩ := before.updateUnits_eq orders raw
    rw [hunits]
    split
    · exact ⟨htaken.1, htaken.2, htaken.3, htaken.4, htaken.5⟩
    · split
      · exact ⟨htaken.1, htaken.2, htaken.3, htaken.4, htaken.5⟩
      · exact ⟨htaken.1, htaken.2, htaken.3, htaken.4, htaken.5⟩

/-- Without a score nothing but the score is different. -/
theorem updateObservation_of_no_score {s : ObservationImp} {o : Proto.Observation}
    (hscore : o.score = none) (orders : UpdateOrders) (r : Proto.ResponseObservation) :
    s.updateObservation orders o r = (false, { s with score := {} }) := by
  unfold updateObservation convertScore
  rw [hscore]
  rfl

end ObservationImp

/-! ## Fetching -/

namespace Control

variable (c : Control)

/-- The response that the next `GetObservation` gets to convert. -/
def reported (c : Control) : Option Proto.ResponseObservation :=
  if c.appState ≠ .normal then none
  else
    let response := (c.exchange .observation).1
    if succeeded response .observation then
      (response.map (·.answer.observation)).filter (·.observation.isSome)
    else none

/-- What a client knows after `GetObservation`. -/
inductive Fetched (c : Control) (s : ObservationImp) : Prop
  | nothing (reported : c.reported = none) (same : s = c.imp.observationImp)
  | observation (r : Proto.ResponseObservation) (o : Proto.Observation) (orders : UpdateOrders)
      (table : AbilityTable) (reported : c.reported = some r) (observed : r.observation = some o)
      (updated : s = ({ c.imp.observationImp with abilityTable := table }.updateObservation
        orders o r).2)

/-- A response of the kind asked for is handed on to the conversion. -/
theorem imp_getObservation {imp : ControlImp} (happ : imp.appState = .normal)
    {response : GameResponse} (hsucceeded : succeeded (some response) .observation = true)
    {o : Proto.Observation} (ho : response.answer.observation.observation = some o)
    (orders : UpdateOrders) :
    imp.getObservation orders (some response.toProto) = (true, { imp with
      observation := some o
      response := some response.answer.observation
      observationImp :=
        (imp.observationImp.updateObservation orders o response.answer.observation).2 }) := by
  obtain ⟨herror, hcase⟩ := succeeded_iff.1 hsucceeded
  unfold ControlImp.getObservation GameResponse.toProto
  rw [if_neg (not_not_intro happ)]
  simp only [herror, hcase, if_true, ho]

theorem getObservation_fetched : c.Fetched c.getObservation.2.imp.observationImp := by
  obtain ⟨appState, himp⟩ := (exchange_waits (c := c) .observation).imp
  unfold getObservation
  dsimp only
  split
  next happ => exact .nothing (if_pos happ) rfl
  next happ =>
    have hexchange := c.sendRequest_waitForResponse .observation
    have hreported : c.reported =
        if succeeded (c.exchange .observation).1 .observation then
          ((c.exchange .observation).1.map (·.answer.observation)).filter
            (·.observation.isSome)
        else none := if_neg happ
    split
    next hsent =>
      rw [if_neg (by simpa using hsent)] at hexchange
      rw [hexchange] at hreported himp
      exact .nothing hreported (by rw [himp])
    next hsent =>
      rw [if_pos (by simpa using hsent)] at hexchange
      rw [hexchange] at hreported himp
      have happWaited : (c.sendRequest .observation).2.waitForResponse.1.isSome →
          (c.sendRequest .observation).2.waitForResponse.2.appState = .normal :=
        fun hsome => (appState_waitForResponse hsome).trans (not_not.1 happ)
      generalize (c.sendRequest .observation).2.waitForResponse = waited
        at hreported himp happWaited ⊢
      obtain ⟨response, proto, imp, processInfo, calls, tableSizes⟩ := waited
      obtain rfl : imp = { c.imp with appState } := himp
      cases response with
      | none => exact .nothing hreported rfl
      | some response =>
        dsimp only at hreported happWaited ⊢
        cases hsucceeded : succeeded (some response) .observation with
        | false =>
          rw [hsucceeded] at hreported
          rw [if_pos (.inl rfl)]
          exact .nothing hreported rfl
        | true =>
          rw [hsucceeded, if_pos rfl, Option.map_some, Option.filter_some] at hreported
          cases ho : response.answer.observation.observation with
          | none =>
            rw [ho] at hreported
            rw [if_pos (.inr rfl)]
            exact .nothing hreported rfl
          | some o =>
            rw [ho] at hreported
            rw [if_neg (by simp)]
            have happNormal : appState = .normal := happWaited rfl
            exact .observation response.answer.observation o _ _ hreported ho
              (congrArg (·.2.observationImp)
                (imp_getObservation (by exact happNormal) hsucceeded ho _))

variable {c : Control} {s : ObservationImp}

/-- What becomes of the game loops. -/
theorem Fetched.gameLoops (h : c.Fetched s) :
    (s.currentGameLoop = c.imp.observationImp.currentGameLoop ∧
      s.previousGameLoop = c.imp.observationImp.previousGameLoop) ∨
    s.previousGameLoop = c.imp.observationImp.currentGameLoop := by
  cases h with
  | nothing _ same =>
    rw [same]
    exact .inl ⟨rfl, rfl⟩
  | observation r o orders table _ _ updated =>
    rw [updated]
    cases hscore : o.score with
    | none =>
      rw [ObservationImp.updateObservation_of_no_score hscore]
      exact .inl ⟨rfl, rfl⟩
    | some score =>
      have htaken := ObservationImp.updateObservation_takenIn
        (s := { c.imp.observationImp with abilityTable := table })
        (Option.isSome_of_eq_some hscore) orders r
      exact .inr htaken.previousGameLoop

end Control

end Sc2Api
