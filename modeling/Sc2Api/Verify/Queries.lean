import Sc2Api.Queries
import Sc2Api.Lib.Lists
import Mathlib.Data.List.Forall2

/-!
# One result per query

The batch operations for pathing and placement check the number of results, so that their
single forms find an element 0. `GetAbilitiesForUnits` does not check it: it reads beyond
its units when there are more results, and returns fewer when there are fewer.
-/

namespace Sc2Api

open Lib

theorem elementAt_of_lt {α : Type} {list : List α} {i : Nat} (h : i < list.length) :
    elementAt list i = .ok list[i] := by
  unfold elementAt
  rw [List.getElem?_eq_getElem h]

theorem elementAt_of_le {α : Type} {list : List α} {i : Nat} (h : list.length ≤ i) :
    elementAt list i = .error .outOfRange := by
  unfold elementAt
  rw [List.getElem?_eq_none h]

namespace QueryInterface

/-! ## The loop over the abilities -/

/-- `QueryImp.mismatches` of the entries from an index on. -/
def mismatchesFrom (units : List Tag) (i : Nat)
    (entries : List Proto.ResponseQueryAvailableAbilities) : List ClientError :=
  (entries.zipIdx i).filterMap fun (abilities, i) =>
    if units[i]? = some (abilities.unitTag.getD 0) then none else some .errorSC2

section Loop

variable {units : List Tag}

theorem mismatchesFrom_cons {i : Nat} (hi : i < units.length)
    (entry : Proto.ResponseQueryAvailableAbilities)
    (entries : List Proto.ResponseQueryAvailableAbilities) :
    mismatchesFrom units i (entry :: entries) =
      (if entry.unitTag.getD 0 ≠ units[i] then [ClientError.errorSC2] else []) ++
        mismatchesFrom units (i + 1) entries := by
  unfold mismatchesFrom
  rw [List.zipIdx_cons, List.filterMap_cons]
  dsimp only
  rw [List.getElem?_eq_getElem hi]
  by_cases htag : units[i] = entry.unitTag.getD 0
  · rw [if_neg (not_not_intro htag.symm), if_pos (congrArg some htag)]
    rfl
  · rw [if_pos (fun heq => htag heq.symm), if_neg (fun heq => htag (Option.some.inj heq))]
    rfl

/-- As long as there are units to compare with, the loop is the one without them. -/
theorem abilitiesLoop_of_le {i : Nat} {entries : List Proto.ResponseQueryAvailableAbilities}
    (h : i + entries.length ≤ units.length) (table : AbilityTable) :
    abilitiesLoop units i entries table = .ok
      ((((entries.mapM QueryImp.convertAvailableAbilities).run table).1,
        mismatchesFrom units i entries),
        ((entries.mapM QueryImp.convertAvailableAbilities).run table).2) := by
  induction entries generalizing i table with
  | nil => rfl
  | cons entry entries ih =>
    rw [List.length_cons] at h
    have hi : i < units.length := by omega
    unfold abilitiesLoop
    rw [elementAt_of_lt hi, run_mapM_cons, mismatchesFrom_cons hi]
    generalize (QueryImp.convertAvailableAbilities entry).run table = head
    obtain ⟨abilities, table⟩ := head
    dsimp only [bind, Except.bind]
    rw [ih (by omega)]
    rfl

/-- Beyond the units the loop reads an element that is not there. -/
theorem abilitiesLoop_of_lt {i : Nat} {entries : List Proto.ResponseQueryAvailableAbilities}
    (hi : i ≤ units.length) (h : units.length < i + entries.length) (table : AbilityTable) :
    abilitiesLoop units i entries table = .error .outOfRange := by
  induction entries generalizing i table with
  | nil =>
    rw [List.length_nil] at h
    omega
  | cons entry entries ih =>
    rw [List.length_cons] at h
    unfold abilitiesLoop
    by_cases hlast : i = units.length
    · rw [elementAt_of_le hlast.ge]
      rfl
    · rw [elementAt_of_lt (by omega)]
      generalize (QueryImp.convertAvailableAbilities entry).run table = head
      obtain ⟨abilities, table⟩ := head
      dsimp only [bind, Except.bind]
      rw [ih (by omega) (by omega)]

end Loop

/-- Within the units, the answer is the one that does not compare by index. -/
theorem getAbilitiesForUnits_of_le {units : List Tag} {ignoreResourceRequirements : Bool}
    {game : QueryGame} (h : ∀ query,
      (game (requestAbilities units ignoreResourceRequirements)).answer = .response query →
        query.abilities.length ≤ units.length) (table : AbilityTable) :
    getAbilitiesForUnits units ignoreResourceRequirements game table =
      .ok ((QueryImp.getAbilitiesForUnits units
        (game (requestAbilities units ignoreResourceRequirements)).answer).run table) := by
  unfold getAbilitiesForUnits QueryImp.getAbilitiesForUnits
  split
  · rfl
  · cases hanswer : (game (requestAbilities units ignoreResourceRequirements)).answer with
    | notSent => rfl
    | noResponse => rfl
    | otherResponse => rfl
    | response query =>
      have hle : 0 + query.abilities.length ≤ units.length := by
        rw [Nat.zero_add]
        exact h query hanswer
      exact abilitiesLoop_of_le hle table

end QueryInterface

/-! ## What a query returns -/

/-- The message of a response, whatever its error strings. -/
def QueryOutcome.query? : QueryOutcome → Option Proto.ResponseQuery
  | .response _ query => query
  | _ => none

/-- One result for each of `n` queries, taken from the response position by position, or the
failure value. -/
inductive OneEach {μ ρ : Type} (taken : List μ → List ρ → Prop) (n : Nat)
    (received : Option (List μ)) (failure results : List ρ) : Prop
  | each {messages : List μ} (received : received = some messages) (length : messages.length = n)
      (taken : taken messages results)
  | fails (fails : results = failure)

/-- A call of a query operation. -/
inductive QueryCall
  | pathingDistance (queries : List PathingQuery)
  | placement (queries : List PlacementQuery)
  | getAbilitiesForUnits (units : List Tag) (ignoreResourceRequirements : Bool)
  | pathingDistanceFrom (start end_ : Point2D)
  | pathingDistanceFromUnit (startUnit : Tag) (end_ : Point2D)
  | placementOf (ability : AbilityID) (targetPos : Point2D) (unit : Option Tag)

namespace QueryCall

open QueryInterface

/-- A batch operation reads no element that is not there and has one result each; a form for
a single query returns the element 0 of a list that has one. The abilities of a unit are named
by the table as the units before it leave it. -/
def Safe (table : AbilityTable) (game : QueryGame) : QueryCall → Prop
  | pathingDistance queries =>
    OneEach (List.Forall₂ fun message distance => distance = message.distance.getD 0)
      queries.length
      ((game (requestPathing queries)).query?.map (·.pathing))
      (List.replicate queries.length 0) (QueryInterface.pathingDistance queries game)
  | placement queries =>
    OneEach (List.Forall₂ fun message result =>
        result = decide (message.result.getD .success = .success))
      queries.length ((game (requestPlacement queries)).query?.map (·.placements))
      (List.replicate queries.length false) (QueryInterface.placement queries game)
  | getAbilitiesForUnits units ignore =>
    ∃ results errors table', QueryInterface.getAbilitiesForUnits units ignore game table =
        .ok ((results, errors), table') ∧
      OneEach (fun messages results =>
          InTurn QueryImp.convertAvailableAbilities table messages results table')
        units.length ((game (requestAbilities units ignore)).query?.map (·.abilities)) [] results
  | pathingDistanceFrom start end_ =>
    ∃ distance distances,
      QueryInterface.pathingDistance [{ start, end_ }] game = distance :: distances ∧
        QueryInterface.pathingDistanceFrom start end_ game = .ok distance
  | pathingDistanceFromUnit startUnit end_ =>
    ∃ distance distances,
      QueryInterface.pathingDistance [{ startUnitTag := startUnit, end_ }] game =
          distance :: distances ∧
        QueryInterface.pathingDistanceFromUnit startUnit end_ game = .ok distance
  | placementOf ability targetPos unit =>
    ∃ result results,
      QueryInterface.placement [{ ability, targetPos, placingUnitTag := unit.getD 0 }] game =
          result :: results ∧
        QueryInterface.placementOf ability targetPos unit game = .ok result

/-- A response to a query for abilities, if it is one, has as many entries as units were asked
for, or none. -/
def Matched (game : QueryGame) : QueryCall → Prop
  | getAbilitiesForUnits units ignore =>
    units = [] ∨ ∀ query, (game (requestAbilities units ignore)).query? = some query →
      query.abilities = [] ∨ query.abilities.length = units.length
  | _ => True

end QueryCall

namespace QueryOutcome

variable {outcome : QueryOutcome}

theorem query?_of_message? {query : Proto.ResponseQuery} (h : outcome.message? = some query) :
    outcome.query? = some query := by
  cases outcome with
  | notSent => cases h
  | noResponse => cases h
  | response error message =>
    cases error with
    | nil => exact h
    | cons => cases h

theorem answer_eq_response_iff {query : Proto.ResponseQuery} :
    outcome.answer = .response query ↔ outcome.query? = some query := by
  rcases outcome with _ | _ | ⟨_, _ | message⟩ <;> simp [answer, query?]

end QueryOutcome

theorem QueryInterface.checkedResults_oneEach {μ ρ : Type}
    (results : Proto.ResponseQuery → List μ) (read : μ → ρ) (failure : ρ) (n : Nat)
    (outcome : QueryOutcome) :
    OneEach (List.Forall₂ fun message result => result = read message) n
      (outcome.query?.map results) (List.replicate n failure)
      (checkedResults results read failure n outcome) := by
  unfold checkedResults
  cases hmessage : outcome.message? with
  | none => exact .fails rfl
  | some responseQuery =>
    dsimp only
    split
    · exact .fails rfl
    · next hlength =>
      have hreceived : outcome.query?.map results = some (results responseQuery) := by
        rw [QueryOutcome.query?_of_message? hmessage]
        rfl
      refine .each hreceived (not_not.1 hlength) ?_
      rw [List.forall₂_map_right_iff, List.forall₂_same]
      exact fun _ _ => rfl

/-- There are as many results as queries, if the failure value has that many. -/
theorem OneEach.length_eq {μ ρ : Type} {taken : μ → ρ → Prop} {n : Nat}
    {received : Option (List μ)} {failure results : List ρ}
    (h : OneEach (List.Forall₂ taken) n received failure results)
    (hfailure : failure.length = n) :
    results.length = n := by
  cases h with
  | each _ length taken => exact taken.length_eq.symm.trans length
  | fails fails => rw [fails, hfailure]

/-- The element 0 of the only result. -/
theorem elementAt_zero {α : Type} {list : List α} (h : list.length = 1) :
    ∃ x xs, list = x :: xs ∧ elementAt list 0 = .ok x := by
  obtain ⟨x, rfl⟩ := List.length_eq_one_iff.1 h
  exact ⟨x, [], rfl, rfl⟩

namespace QueryInterface

variable {units : List Tag} {ignoreResourceRequirements : Bool} {game : QueryGame}

theorem length_checkedResults {μ ρ : Type} (results : Proto.ResponseQuery → List μ)
    (read : μ → ρ) (failure : ρ) (n : Nat) (outcome : QueryOutcome) :
    (checkedResults results read failure n outcome).length = n :=
  (checkedResults_oneEach results read failure n outcome).length_eq List.length_replicate

theorem getAbilitiesForUnits_of_none (table : AbilityTable) (h : units = [] ∨
      (game (requestAbilities units ignoreResourceRequirements)).query? = none) :
    ∃ errors, getAbilitiesForUnits units ignoreResourceRequirements game table =
      .ok (([], errors), table) := by
  unfold getAbilitiesForUnits
  split
  · exact ⟨[], rfl⟩
  · next hunits =>
    cases hanswer : (game (requestAbilities units ignoreResourceRequirements)).answer with
    | notSent => exact ⟨[], rfl⟩
    | noResponse => exact ⟨[], rfl⟩
    | otherResponse => exact ⟨[.invalidResponse], rfl⟩
    | response query =>
      have hquery := QueryOutcome.answer_eq_response_iff.1 hanswer
      rw [h.resolve_left hunits] at hquery
      cases hquery

theorem getAbilitiesForUnits_of_some (table : AbilityTable) (hunits : units ≠ [])
    {query : Proto.ResponseQuery}
    (h : (game (requestAbilities units ignoreResourceRequirements)).query? = some query) :
    getAbilitiesForUnits units ignoreResourceRequirements game table =
      abilitiesLoop units 0 query.abilities table := by
  unfold getAbilitiesForUnits
  rw [if_neg hunits, QueryOutcome.answer_eq_response_iff.2 h]

/-- Every unit gets its entry, or there are no results. -/
theorem getAbilitiesForUnits_safe (table : AbilityTable)
    (h : (QueryCall.getAbilitiesForUnits units ignoreResourceRequirements).Matched game) :
    (QueryCall.getAbilitiesForUnits units ignoreResourceRequirements).Safe table game := by
  by_cases hunits : units = []
  · obtain ⟨errors, hget⟩ := getAbilitiesForUnits_of_none table (.inl hunits)
    exact ⟨_, _, _, hget, .fails rfl⟩
  · cases hquery : (game (requestAbilities units ignoreResourceRequirements)).query? with
    | none =>
      obtain ⟨errors, hget⟩ := getAbilitiesForUnits_of_none table (.inr hquery)
      exact ⟨_, _, _, hget, .fails rfl⟩
    | some query =>
      have hlength := h.resolve_left hunits query hquery
      have hle : 0 + query.abilities.length ≤ units.length := by
        rcases hlength with hnil | hlength
        · rw [hnil]
          exact Nat.zero_le _
        · omega
      have hget := (getAbilitiesForUnits_of_some table hunits hquery).trans
        (abilitiesLoop_of_le hle table)
      refine ⟨_, _, _, hget, ?_⟩
      rcases hlength with hnil | hlength
      · refine .fails ?_
        rw [hnil]
        rfl
      · refine .each (by rw [hquery]; rfl) hlength ?_
        exact inTurn_run_mapM query.abilities table

/-- Otherwise it reads beyond the units, or leaves units without a result. -/
theorem getAbilitiesForUnits_matched {table : AbilityTable}
    (h : (QueryCall.getAbilitiesForUnits units ignoreResourceRequirements).Safe table game) :
    (QueryCall.getAbilitiesForUnits units ignoreResourceRequirements).Matched game := by
  by_cases hunits : units = []
  · exact .inl hunits
  · refine .inr fun query hquery => ?_
    obtain ⟨results, errors, table', hrun, hone⟩ := h
    rw [getAbilitiesForUnits_of_some table hunits hquery] at hrun
    by_cases hle : 0 + query.abilities.length ≤ units.length
    · rw [abilitiesLoop_of_le hle] at hrun
      obtain rfl : ((query.abilities.mapM QueryImp.convertAvailableAbilities).run table).1 =
          results := congrArg (·.1.1) (Except.ok.inj hrun)
      have hlength :=
        (inTurn_run_mapM (f := QueryImp.convertAvailableAbilities) query.abilities table).length_eq
      cases hone with
      | @each messages received length taken =>
        rw [hquery] at received
        obtain rfl : query.abilities = messages := Option.some.inj received
        exact .inr length
      | fails fails =>
        rw [fails] at hlength
        exact .inl (List.length_eq_zero_iff.1 hlength)
    · rw [abilitiesLoop_of_lt (Nat.zero_le _) (by omega)] at hrun
      cases hrun

end QueryInterface

/-- The queries are safe but for those for abilities whose response has another number of
entries than units were asked for. -/
theorem QueryCall.safe_iff (call : QueryCall) (table : AbilityTable) (game : QueryGame) :
    call.Safe table game ↔ call.Matched game := by
  cases call with
  | pathingDistance queries =>
    exact iff_of_true (QueryInterface.checkedResults_oneEach _ _ _ _ _) trivial
  | placement queries =>
    exact iff_of_true (QueryInterface.checkedResults_oneEach _ _ _ _ _) trivial
  | getAbilitiesForUnits units ignore =>
    exact ⟨QueryInterface.getAbilitiesForUnits_matched,
      QueryInterface.getAbilitiesForUnits_safe table⟩
  | pathingDistanceFrom start end_ =>
    exact iff_of_true (elementAt_zero (QueryInterface.length_checkedResults _ _ _ _ _)) trivial
  | pathingDistanceFromUnit startUnit end_ =>
    exact iff_of_true (elementAt_zero (QueryInterface.length_checkedResults _ _ _ _ _)) trivial
  | placementOf ability targetPos unit =>
    exact iff_of_true (elementAt_zero (QueryInterface.length_checkedResults _ _ _ _ _)) trivial

/-- A response with two entries for one unit: the second is compared with a unit that is not
there. -/
theorem QueryInterface.abilities_beyond_units :
    getAbilitiesForUnits [1] false
        (fun _ => .response [] (some { abilities := [{ unitTag := some 1 }, {}] })) {} =
      .error .outOfRange ∧
    ¬(QueryCall.getAbilitiesForUnits [1] false).Safe {}
      (fun _ => .response [] (some { abilities := [{ unitTag := some 1 }, {}] })) := by
  have herror : getAbilitiesForUnits [1] false
      (fun _ => .response [] (some { abilities := [{ unitTag := some 1 }, {}] })) {} =
        .error .outOfRange := by rfl
  refine ⟨herror, ?_⟩
  rintro ⟨results, errors, table', hrun, -⟩
  rw [herror] at hrun
  cases hrun

end Sc2Api
