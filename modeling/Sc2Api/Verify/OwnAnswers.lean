import Sc2Api.Clients
import Sc2Api.Verify.Outstanding

/-!
# Every call hears the answers to its own requests

Round trips over a tidy line are proper dialogues, and so is what is made of them.
Pings and `SendDebug` are not: they send, or wait, past a response that is still to
come.
-/

namespace Sc2Api

open Lib

/-! ## Waiting for a response -/

namespace Control

variable {c : Control}

/-- A hang is only diagnosed when nothing is outstanding; the ping is then answered
itself. -/
theorem Diagnosed.checks {c c' : Control} (h : c.Diagnosed c') (htidy : c.proto.line.Tidy)
    (hnil : c.proto.connection.outstanding = []) :
    c'.proto.line.Tidy ∧ ∃ traffic, c'.proto.log = c.proto.log ++ traffic ∧
      Dialogue.ProperFrom .idle (traffic.map Traffic.turn) := by
  have hrequested {p : ProtoInterface} (before : p.line = c.proto.line) :
      p.Requested .ping (p.sendRequest .ping true) :=
    ProtoInterface.sendRequest_requested (before ▸ htidy) .ping true fun _ =>
      (congrArg (·.connection.outstanding) before).trans hnil
  cases h with
  | crashed line app =>
    have hlog : c'.proto.log = c.proto.log := congrArg Line.log line
    exact ⟨line ▸ htidy, [], by simp [hlog], Dialogue.properFrom_nil _⟩
  | @unsent p c' before ping line app =>
    have hping := hrequested before
    generalize p.sendRequest .ping true = pinged at *
    cases hping with
    | refused tidy log pending outstanding =>
      have hbefore : p.log = c.proto.log := congrArg Line.log before
      exact ⟨line ▸ tidy, [.refused .ping],
        (congrArg Line.log line).trans (hbefore ▸ log), by decide⟩
    | sent => cases ping
  | @waited p c' before ping line app =>
    have hping := hrequested before
    generalize p.sendRequest .ping true = pinged at *
    cases hping with
    | refused => cases ping
    | @sent p' orderly log pending outstanding =>
      obtain ⟨hwait, -, hend⟩ := p'.waitForResponseInternal_tidy orderly
      have hlog := congrArg Line.log line
      have hbefore : p.log = c.proto.log := congrArg Line.log before
      refine ⟨line ▸ hwait, ?_⟩
      rcases hend with ⟨response, -, hmem, -, hreceived⟩ | ⟨-, hreceived⟩
      · have hserial : response.request.serial = p.serial :=
          List.mem_singleton.1 (outstanding.subset hmem)
        refine ⟨[.sent ⟨p.serial, .ping⟩, .received response], ?_, ?_⟩
        · exact hlog.trans (hreceived.trans (by simp [log, hbefore]))
        · simp [Traffic.turn, hserial, Dialogue.ProperFrom, Dialogue.run, Dialogue.next]
      · refine ⟨[.sent ⟨p.serial, .ping⟩, .timedOut], ?_, ?_⟩
        · exact hlog.trans (hreceived.trans (by simp [log, hbefore]))
        · simp [Traffic.turn, Dialogue.ProperFrom, Dialogue.run, Dialogue.next]

/-- A wait hears the answer to the last request, if that can still come. -/
theorem waitForResponse_hears (h : c.proto.line.Orderly) :
    c.waitForResponse.2.proto.line.Tidy ∧ ∃ traffic,
      c.waitForResponse.2.proto.log = c.proto.log ++ traffic ∧
      ∀ q, c.proto.connection.outstanding.Sublist [q] →
        Dialogue.ProperFrom (.waiting q) (traffic.map Traffic.turn) := by
  obtain ⟨htidy, hnil, hend⟩ := c.proto.waitForResponseInternal_tidy h
  rcases c.waitForResponse_cases with ⟨response, -, hfst, hline, -⟩ | ⟨-, hfst, hdiagnosed⟩
  · refine ⟨hline ▸ htidy, ?_⟩
    rcases hend with ⟨response', -, hmem, -, hlog⟩ | ⟨hnone, -⟩
    · refine ⟨[.received response'], (congrArg Line.log hline).trans hlog, fun q hq => ?_⟩
      have hserial := List.mem_singleton.1 (hq.subset hmem)
      simp [Traffic.turn, hserial, Dialogue.ProperFrom, Dialogue.run, Dialogue.next]
    · cases hfst.symm.trans hnone
  · rcases hend with ⟨response', hsome, -⟩ | ⟨-, hlog⟩
    · cases hfst.symm.trans hsome
    · obtain ⟨htidy', traffic, hlog', hproper⟩ := hdiagnosed.checks htidy hnil
      refine ⟨htidy', .timedOut :: traffic, ?_, fun q _ => Dialogue.properFrom_cons rfl hproper⟩
      rw [hlog']
      simp [hlog]

/-! ## Round trips -/

/-- What a round trip comes to: refused, with everything left as it was, or heard. -/
inductive Exchanged (c : Control) (case : Proto.ResponseCase) :
    Bool → Option GameResponse × Control → Prop
  | refused {c' : Control} (tidy : c'.proto.line.Tidy)
      (log : c'.proto.log = c.proto.log ++ [.refused case])
      (pending : c'.proto.responsePending = c.proto.responsePending)
      (outstanding : c'.proto.connection.outstanding = c.proto.connection.outstanding) :
      Exchanged c case false (none, c')
  | heard {response : Option GameResponse} {c' : Control} {traffic : List Traffic}
      (tidy : c'.proto.line.Tidy)
      (log : c'.proto.log = c.proto.log ++ .sent ⟨c.proto.serial, case⟩ :: traffic)
      (proper : Dialogue.ProperFrom (.waiting c.proto.serial) (traffic.map Traffic.turn)) :
      Exchanged c case true (response, c')

theorem exchange_exchanged (h : c.proto.line.Tidy) (case : Proto.ResponseCase) :
    c.Exchanged case (c.sendRequest case).1 (c.exchange case) := by
  have hsend := ProtoInterface.sendRequest_requested h case false (by simp)
  unfold exchange sendRequest
  generalize c.proto.sendRequest case = requested at hsend ⊢
  cases hsend with
  | refused tidy log pending outstanding =>
    exact .refused tidy log pending outstanding
  | @sent p' orderly log pending outstanding =>
    obtain ⟨htidy, traffic, hlog, hproper⟩ :=
      waitForResponse_hears (c := { c with proto := p' }) orderly
    exact .heard htidy (hlog.trans (by simp [log])) (hproper _ outstanding)

theorem exchange_tidy (h : c.proto.line.Tidy) (case : Proto.ResponseCase) :
    (c.exchange case).2.proto.line.Tidy := by
  have hexchanged := exchange_exchanged h case
  generalize c.exchange case = exchanged at hexchanged
  generalize (c.sendRequest case).1 = sent at hexchanged
  cases hexchanged with
  | refused tidy => exact tidy
  | heard tidy => exact tidy

/-! ## Conversations -/

/-- More is said, properly, and the line is left tidy. -/
def Converses (c c' : Control) : Prop :=
  c'.proto.line.Tidy ∧ ∃ traffic, c'.proto.log = c.proto.log ++ traffic ∧
    Dialogue.Proper (traffic.map Traffic.turn)

theorem converses_of_line {c' : Control} (h : c.proto.line.Tidy)
    (hline : c'.proto.line = c.proto.line) : c.Converses c' := by
  have hlog : c'.proto.log = c.proto.log := congrArg Line.log hline
  exact ⟨hline ▸ h, [], by simp [hlog], Dialogue.proper_nil⟩

theorem Converses.trans {c₁ c₂ c₃ : Control} (h : c₁.Converses c₂) (h' : c₂.Converses c₃) :
    c₁.Converses c₃ := by
  obtain ⟨-, traffic, hlog, hproper⟩ := h
  obtain ⟨htidy, traffic', hlog', hproper'⟩ := h'
  refine ⟨htidy, traffic ++ traffic', by simp [hlog, hlog'], ?_⟩
  rw [List.map_append]
  exact hproper.append hproper'

theorem exchange_converses (h : c.proto.line.Tidy) {case : Proto.ResponseCase}
    (hcase : case ≠ .ping) : c.Converses (c.exchange case).2 := by
  have hexchanged := exchange_exchanged h case
  generalize c.exchange case = exchanged at hexchanged
  generalize (c.sendRequest case).1 = sent at hexchanged
  cases hexchanged with
  | refused tidy log => exact ⟨tidy, _, log, Dialogue.proper_refused⟩
  | heard tidy log proper =>
    refine ⟨tidy, _, log, ?_⟩
    rw [List.map_cons, Traffic.turn, if_neg hcase]
    exact Dialogue.proper_asks proper

theorem requestAbilities_converses (h : c.proto.line.Tidy) :
    c.Converses c.requestAbilities.2 := by
  have hexchange := exchange_converses h (show Proto.ResponseCase.data ≠ .ping by decide)
  unfold requestAbilities
  dsimp only
  split <;> exact hexchange

theorem abilityAnswers_converses (n : Nat) (h : c.proto.line.Tidy) :
    c.Converses (abilityAnswers n c).2 := by
  induction n generalizing c with
  | zero => exact converses_of_line h rfl
  | succ n ih =>
    have hfirst := requestAbilities_converses h
    exact hfirst.trans (ih hfirst.1)

theorem getData_converses (table : DataTable) (forceRefresh : Bool) (h : c.proto.line.Tidy) :
    c.Converses (c.getData table forceRefresh) := by
  unfold getData
  dsimp only
  split
  · exact converses_of_line h rfl
  · have hexchange := exchange_converses h (show Proto.ResponseCase.data ≠ .ping by decide)
    exact hexchange.trans (converses_of_line hexchange.1 (line_storeTable _ table _ _))

theorem generalizeAbilityID_converses (abilityId : UInt32) (h : c.proto.line.Tidy) :
    c.Converses (c.generalizeAbilityID abilityId) := by
  unfold generalizeAbilityID
  split
  · exact converses_of_line h rfl
  · exact getData_converses .abilities false h

theorem generalizeAll_converses (abilities : List Proto.AvailableAbility)
    (h : c.proto.line.Tidy) :
    c.Converses (abilities.foldl
      (fun c ability => c.generalizeAbilityID (ability.abilityId.getD 0).toUInt32) c) := by
  induction abilities generalizing c with
  | nil => exact converses_of_line h rfl
  | cons ability abilities ih =>
    have hfirst := generalizeAbilityID_converses (ability.abilityId.getD 0).toUInt32 h
    exact hfirst.trans (ih hfirst.1)

theorem readAbilities_converses (units : List Tag)
    (entries : List Proto.ResponseQueryAvailableAbilities) (h : c.proto.line.Tidy) :
    c.Converses (c.readAbilities units entries) := by
  induction entries generalizing c units with
  | nil => exact converses_of_line h rfl
  | cons entry entries ih =>
    have hcompared : c.Converses
        (c.errorIf (units.head? ≠ some (entry.unitTag.getD 0)) .errorSC2) :=
      converses_of_line h (line_errorIf _ _ _)
    have hentry := hcompared.trans (generalizeAll_converses entry.abilities hcompared.1)
    exact hentry.trans (ih units.tail hentry.1)

/-! ## The calls -/

/-- The call ends where its round trip does, or goes on if its request was sent. -/
def GoesOnFrom (c : Control) (case : Proto.ResponseCase) (c' : Control) : Prop :=
  c'.proto.line = (c.exchange case).2.proto.line ∨
    (c.sendRequest case).1 = true ∧ (c.exchange case).2.Converses c'

theorem getObservation_goesOn (h : c.proto.line.Tidy) :
    c.getObservation.2.proto.line = c.proto.line ∨
      c.GoesOnFrom .observation c.getObservation.2 := by
  unfold GoesOnFrom getObservation
  rw [sendRequest_waitForResponse]
  have htidy := exchange_tidy h .observation
  rw [sendRequest_waitForResponse] at htidy
  dsimp only
  split
  · exact .inl rfl
  · right
    cases hsent : (c.sendRequest .observation).1 with
    | false => exact .inl rfl
    | true =>
      simp only [hsent, if_true] at htidy ⊢
      generalize (c.sendRequest .observation).2.waitForResponse = waited at htidy ⊢
      obtain ⟨response, e⟩ := waited
      dsimp only at htidy ⊢
      cases response with
      | none => exact .inl rfl
      | some response =>
        simp only [Bool.not_true, Bool.false_eq_true, if_false]
        split
        · exact .inl rfl
        · have hasked : e.Converses { e with proto := { e.proto with world := { e.proto.world with
              dataRequests := e.proto.world.dataRequests.tail
              updateOrders := e.proto.world.updateOrders.tail } } } :=
            converses_of_line htidy rfl
          have hanswers := abilityAnswers_converses e.proto.world.dataRequests.head hasked.1
          exact .inr ⟨trivial, (hasked.trans hanswers).trans (converses_of_line hanswers.1 rfl)⟩

theorem getData_goesOn (table : DataTable) (forceRefresh : Bool) :
    (c.getData table forceRefresh).proto.line = c.proto.line ∨
      c.GoesOnFrom .data (c.getData table forceRefresh) := by
  unfold GoesOnFrom getData
  dsimp only
  split
  · exact .inl rfl
  · exact .inr (.inl rfl)

theorem getGameInfo_goesOn :
    c.getGameInfo.proto.line = c.proto.line ∨ c.GoesOnFrom .gameInfo c.getGameInfo := by
  unfold GoesOnFrom getGameInfo
  dsimp only
  split
  · exact .inl rfl
  · split
    · exact .inr (.inl rfl)
    · exact .inr (.inl rfl)

theorem getAbilitiesForUnits_goesOn (units : List Tag) (h : c.proto.line.Tidy) :
    (c.getAbilitiesForUnits units).2.proto.line = c.proto.line ∨
      c.GoesOnFrom .query (c.getAbilitiesForUnits units).2 := by
  have htidy := exchange_tidy h .query
  have hsent {response : GameResponse} :
      (c.exchange .query).1 = some response → (c.sendRequest .query).1 = true :=
    c.sent_of_response
  unfold GoesOnFrom getAbilitiesForUnits
  generalize c.exchange .query = exchanged at htidy hsent ⊢
  obtain ⟨response, e⟩ := exchanged
  dsimp only at htidy hsent ⊢
  split
  · exact .inl rfl
  · right
    cases response with
    | none => exact .inl rfl
    | some response =>
      dsimp only
      split
      · exact .inl rfl
      · exact .inr ⟨hsent rfl, readAbilities_converses _ _ htidy⟩

theorem query_goesOn (h : c.proto.line.Tidy) (q : Query) :
    (c.query q).proto.line = c.proto.line ∨ c.GoesOnFrom .query (c.query q) := by
  cases q with
  | pathingDistance => exact .inr (.inl rfl)
  | placement => exact .inr (.inl rfl)
  | abilitiesForUnits units => exact getAbilitiesForUnits_goesOn units h
  | abilitiesForUnit unit =>
    have hgoes := getAbilitiesForUnits_goesOn [unit] h
    have hline : (c.query (.abilitiesForUnit unit)).proto.line =
        (c.getAbilitiesForUnits [unit]).2.proto.line := line_errorIf _ _ _
    unfold GoesOnFrom Converses at hgoes ⊢
    rw [hline]
    rwa [show (c.query (.abilitiesForUnit unit)).proto.log =
      (c.getAbilitiesForUnits [unit]).2.proto.log from congrArg Line.log hline]

end Control

theorem Agent.sendActions_goesOn (a : Agent) :
    a.sendActions.control.proto.line = a.control.proto.line ∨
      a.control.GoesOnFrom .action a.sendActions.control := by
  unfold Control.GoesOnFrom Agent.sendActions
  rw [Control.sendRequest_waitForResponse]
  dsimp only
  split
  · exact .inl rfl
  · right
    left
    cases (a.control.sendRequest .action).1 <;> rfl

theorem Agent.sendActionsFeatureLayer_goesOn (a : Agent) :
    a.sendActionsFeatureLayer.control.proto.line = a.control.proto.line ∨
      a.control.GoesOnFrom .action a.sendActionsFeatureLayer.control := by
  unfold Control.GoesOnFrom Agent.sendActionsFeatureLayer
  rw [Control.sendRequest_waitForResponse]
  dsimp only
  split
  · exact .inl rfl
  · right
    left
    cases (a.control.sendRequest .action).1 <;> rfl

theorem ReplayObserver.sendActions_goesOn (r : ReplayObserver) :
    r.sendActions.control.proto.line = r.control.proto.line ∨
      r.control.GoesOnFrom .obsAction r.sendActions.control := by
  unfold Control.GoesOnFrom ReplayObserver.sendActions
  rw [Control.sendRequest_waitForResponse]
  dsimp only
  split
  · exact .inl rfl
  · right
    left
    cases (r.control.sendRequest .obsAction).1 <;> rfl

/-! ## Own answers -/

namespace Control

/-- What went over the wire between two states of a client. -/
def said (c c' : Control) : List Traffic := c'.proto.log.drop c.proto.log.length

/-- What was heard answers what was asked before; after a first request that was
refused nothing was heard, and the pending response is left to its own waiter. -/
structure OwnAnswers (c c' : Control) : Prop where
  own : Dialogue.ProperFrom .idle ((c.said c').map Traffic.turn)
  refused : ∀ case rest, c.said c' = .refused case :: rest → rest = [] ∧
    c'.proto.responsePending = c.proto.responsePending ∧
    c'.proto.connection.outstanding = c.proto.connection.outstanding

variable {c c' : Control}

theorem said_of_log {traffic : List Traffic} (h : c'.proto.log = c.proto.log ++ traffic) :
    c.said c' = traffic := by
  unfold said
  rw [h, List.drop_left]

theorem ownAnswers_of_line (hline : c'.proto.line = c.proto.line) : c.OwnAnswers c' := by
  have hlog : c'.proto.log = c.proto.log := congrArg Line.log hline
  have hsaid : c.said c' = [] := said_of_log (by simp [hlog])
  exact ⟨by rw [hsaid]; exact Dialogue.properFrom_nil _, fun case rest h => by simp [hsaid] at h⟩

theorem OwnAnswers.of_line {c₁ : Control} (h : c₁.OwnAnswers c')
    (hline : c₁.proto.line = c.proto.line) : c.OwnAnswers c' := by
  have hlog : c₁.proto.log = c.proto.log := congrArg Line.log hline
  have hsaid : c₁.said c' = c.said c' := by
    unfold said
    rw [hlog]
  obtain ⟨hown, hrefused⟩ := h
  rw [hsaid] at hown hrefused
  refine ⟨hown, fun case rest hrest => ?_⟩
  obtain ⟨hnil, hpending, hout⟩ := hrefused case rest hrest
  exact ⟨hnil, hpending.trans (congrArg Line.responsePending hline),
    hout.trans (congrArg (·.connection.outstanding) hline)⟩

theorem GoesOnFrom.ownAnswers {case : Proto.ResponseCase} (h : c.proto.line.Tidy)
    (hgoes : c.GoesOnFrom case c') : c'.proto.line.Tidy ∧ c.OwnAnswers c' := by
  have hexchanged := exchange_exchanged h case
  unfold GoesOnFrom at hgoes
  generalize c.exchange case = exchanged at hexchanged hgoes
  generalize (c.sendRequest case).1 = sent at hexchanged hgoes
  cases hexchanged with
  | @refused e tidy log pending outstanding =>
    rcases hgoes with hline | ⟨hsent, -⟩
    · have hsaid : c.said c' = [.refused case] :=
        said_of_log ((congrArg Line.log hline).trans log)
      refine ⟨hline ▸ tidy, by rw [hsaid]; exact Dialogue.proper_refused _,
        fun case' rest hrest => ⟨?_, ?_, ?_⟩⟩
      · rw [hsaid] at hrest
        exact (List.cons.inj hrest).2.symm
      · exact (congrArg Line.responsePending hline).trans pending
      · exact (congrArg (·.connection.outstanding) hline).trans outstanding
    · cases hsent
  | @heard response e traffic tidy log proper =>
    obtain ⟨htidy, rest, hrest, hproper⟩ : e.Converses c' := by
      rcases hgoes with hline | ⟨-, hconverses⟩
      · exact converses_of_line tidy hline
      · exact hconverses
    have hsaid : c.said c' = .sent ⟨c.proto.serial, case⟩ :: (traffic ++ rest) :=
      said_of_log (by rw [hrest, log]; simp)
    refine ⟨htidy, ?_, fun case' rest' hrest' => by simp [hsaid] at hrest'⟩
    rw [hsaid, List.map_cons, List.map_append]
    have hgoes := Dialogue.properFrom_append proper hproper
    exact Dialogue.properFrom_cons (Traffic.next_sent _) hgoes

theorem ownAnswers_of_goesOn {case : Proto.ResponseCase} (h : c.proto.line.Tidy)
    (hcall : c'.proto.line = c.proto.line ∨ c.GoesOnFrom case c') :
    c'.proto.line.Tidy ∧ c.OwnAnswers c' := by
  rcases hcall with hline | hgoes
  · exact ⟨hline ▸ h, ownAnswers_of_line hline⟩
  · exact hgoes.ownAnswers h

end Control

end Sc2Api
