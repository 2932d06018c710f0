import Mathlib.Data.List.ReduceOption
import Sc2Api.Actions
import Sc2Api.Verify.Over

/-!
# Every action is sent once

Over any sequence of calls, the requests that were sent and the batch that is still held
are the actions that were added, in their order; a `SendActions` that fails keeps its
batch. `Commands()` names the units that the last batch commanded, and a batch counts as
sent when its request is written.
-/

namespace Sc2Api

/-! ## Requests written -/

/-- The request that is written, if this is one to act. -/
def Traffic.actionRequest? : Traffic → Option GameRequest
  | .sent request => if request.case = .action then some request else none
  | _ => none

/-- The requests to act that were written, in order. -/
def Line.actionRequests (l : Line) : List GameRequest := l.log.filterMap Traffic.actionRequest?

namespace ProtoInterface

variable (p : ProtoInterface)

theorem log_write_ensureConnection (case : Proto.ResponseCase) :
    (p.ensureConnection.write case).line.log = p.line.log ++ [.sent ⟨p.serial, case⟩] := by
  unfold ensureConnection
  split <;> rfl

theorem log_refuse_ensureConnection (case : Proto.ResponseCase) :
    (p.ensureConnection.refuse case).line.log = p.line.log ++ [.refused case] := by
  unfold ensureConnection
  split <;> rfl

theorem actionRequests_sendRequest (case : Proto.ResponseCase) (ignorePendingRequests : Bool) :
    (p.sendRequest case ignorePendingRequests).2.line.actionRequests = p.line.actionRequests ++
      if (p.sendRequest case ignorePendingRequests).1 ∧ case = .action then
        [⟨p.serial, case⟩] else [] := by
  have hrefused {q : ProtoInterface} (hlog : q.line.log = p.line.log ++ [.refused case]) :
      q.line.actionRequests = p.line.actionRequests := by
    rw [Line.actionRequests, hlog, List.filterMap_append]
    exact List.append_nil _
  rcases p.sendRequest_cases case ignorePendingRequests with ⟨-, h⟩ | ⟨-, -, -, h⟩ | ⟨-, -, h⟩
  · rw [h, if_neg (by simp), List.append_nil]
    exact hrefused (p.log_refuse_ensureConnection case)
  · rw [h, if_neg (by simp), List.append_nil]
    exact hrefused (p.log_refuse_ensureConnection case)
  · rw [h, Line.actionRequests, log_write_ensureConnection, List.filterMap_append]
    by_cases hcase : case = .action
    · simp [Traffic.actionRequest?, hcase, Line.actionRequests]
    · simp [Traffic.actionRequest?, hcase, Line.actionRequests]

theorem actionRequests_waitForResponseInternal :
    p.waitForResponseInternal.2.line.actionRequests = p.line.actionRequests := by
  rcases p.waitForResponseInternal_cases with ⟨response, queue, -, -, hline⟩ | ⟨-, -, hline⟩
  · rw [hline]
    simp [Line.actionRequests, line, Traffic.actionRequest?]
  · rw [hline]
    simp [Line.actionRequests, line, Traffic.actionRequest?]

end ProtoInterface

namespace Control

def actionRequests (c : Control) : List GameRequest := c.proto.line.actionRequests

variable {c : Control}

theorem actionRequests_sendRequest :
    (c.sendRequest .action).2.actionRequests = c.actionRequests ++
      if (c.sendRequest .action).1 then [⟨c.proto.serial, .action⟩] else [] := by
  have h := c.proto.actionRequests_sendRequest .action false
  simp only [and_true] at h
  exact h

/-- A wait may ask for a ping, but for no action. -/
theorem actionRequests_waitForResponse : c.waitForResponse.2.actionRequests = c.actionRequests :=
  waitForResponse_preserves (P := fun l => l.actionRequests = c.actionRequests)
    (fun p hp => by
      rw [p.actionRequests_sendRequest, if_neg (fun h => absurd h.2 (by decide)),
        List.append_nil]
      exact hp)
    (fun p hp => p.actionRequests_waitForResponseInternal.trans hp) rfl

end Control

/-! ## What a call adds -/

/-- The action that commands units. -/
def Proto.ActionSent.ofCommand (units : List (Option Tag)) (ability : AbilityID)
    (target : Option Target) (queuedCommand : Bool) : ActionSent :=
  { actionRaw := some (.unitCommand {
      abilityId := some ability.toInt32
      target
      queueCommand := some queuedCommand
      unitTags := units.reduceOption }) }

namespace ActionCall

/-- The actions that a call is to have sent: none for a command without its unit or its
target. -/
def enqueued : ActionCall → List Proto.ActionSent
  | toggleAutocast unitTags ability =>
    [{ actionRaw := some (.toggleAutocast (some ability.toInt32) unitTags) }]
  | toggleAutocastUnit unitTag ability =>
    [{ actionRaw := some (.toggleAutocast (some ability.toInt32) [unitTag]) }]
  | sendChat message channel =>
    [{ actionChat := some {
        message := some message
        channel := some (convertChatChannel channel) } }]
  | unitsCommand units ability queued => [.ofCommand units ability none queued]
  | unitsCommandPoint units ability point queued =>
    [.ofCommand units ability
      (some (.worldSpacePos { x := some point.x, y := some point.y })) queued]
  | unitsCommandTarget units ability target queued =>
    [.ofCommand units ability (some (.unitTag target)) queued]
  | unitCommand unit ability queued =>
    if unit.isSome then [.ofCommand [unit] ability none queued] else []
  | unitCommandPoint unit ability point queued =>
    if unit.isSome then [.ofCommand [unit] ability
      (some (.worldSpacePos { x := some point.x, y := some point.y })) queued] else []
  | unitCommandTarget unit ability target queued =>
    if unit.isSome ∧ target.isSome then
      [.ofCommand [unit] ability (target.map .unitTag) queued] else []
  | sendActions _ => []

end ActionCall

namespace ActionImp

variable (a : ActionImp)

/-- The actions still to be sent. -/
def held : List Proto.ActionSent := a.requestActions.getD []

theorem held_addAction (action : Proto.ActionSent) :
    (a.addAction action).held = a.held ++ [action] := rfl

/-- What a `SendActions` sends: all that is held, if the request goes out. -/
def toSend (c : Control) : Option (List Proto.ActionSent) :=
  if (c.sendRequest .action).1 then a.requestActions else none

theorem sendActions_spec (c : Control) :
    (a.sendActions c).1 = a.toSend c ∧
      (a.sendActions c).2.1.requestActions =
        (if (c.sendRequest .action).1 then none else a.requestActions) ∧
      (a.sendActions c).2.1.commands =
        ((a.toSend c).getD []).flatMap Proto.ActionSent.commandTags := by
  obtain ⟨requestActions, commands⟩ := a
  unfold sendActions toSend
  dsimp only
  cases requestActions with
  | none => simp
  | some actions => cases (c.sendRequest .action).1 <;> simp

/-- A batch is sent when its request is written, and no other is written. -/
theorem actionRequests_sendActions (c : Control) :
    (a.sendActions c).2.2.actionRequests = c.actionRequests ++
      ((a.toSend c).map fun _ => (⟨c.proto.serial, .action⟩ : GameRequest)).toList := by
  obtain ⟨requestActions, commands⟩ := a
  have hsend := c.actionRequests_sendRequest
  unfold sendActions toSend
  dsimp only
  cases requestActions with
  | none => simp
  | some actions =>
    dsimp only
    cases hsent : (c.sendRequest .action).1 with
    | false =>
      rw [hsent] at hsend
      exact hsend
    | true =>
      rw [hsent] at hsend
      exact Control.actionRequests_waitForResponse.trans hsend

/-- One call: what it sends and what is held after it are what was held and what it
adds. -/
theorem step_conserves (call : ActionCall) :
    ((actionMachine.step a call).2.getD []) ++ (actionMachine.step a call).1.held =
      a.held ++ call.enqueued := by
  cases call with
  | sendActions c =>
    obtain ⟨hsent, hheld, -⟩ := a.sendActions_spec c
    show ((a.sendActions c).1.getD []) ++ (a.sendActions c).2.1.requestActions.getD [] =
      a.held ++ []
    rw [hsent, hheld, List.append_nil]
    unfold toSend held
    split
    · exact List.append_nil _
    · rfl
  | toggleAutocast unitTags ability => exact a.held_addAction _
  | toggleAutocastUnit unitTag ability => exact a.held_addAction _
  | sendChat message channel => exact a.held_addAction _
  | unitsCommand units ability queued => exact a.held_addAction _
  | unitsCommandPoint units ability point queued => exact a.held_addAction _
  | unitsCommandTarget units ability target queued => exact a.held_addAction _
  | unitCommand unit ability queued =>
    cases unit with
    | none => exact (List.append_nil _).symm
    | some unit => exact a.held_addAction _
  | unitCommandPoint unit ability point queued =>
    cases unit with
    | none => exact (List.append_nil _).symm
    | some unit => exact a.held_addAction _
  | unitCommandTarget unit ability target queued =>
    cases unit with
    | none => exact (List.append_nil _).symm
    | some unit =>
      cases target with
      | none => exact (List.append_nil _).symm
      | some target => exact a.held_addAction _

/-! ### Agents -/

/-- The batch as an agent has it: the units it commands. -/
def tags : Option (List Tag) := a.requestActions.map (·.flatMap Proto.ActionSent.commandTags)

/-- The agent that holds this batch. -/
def agent (c : Control) : Agent :=
  { control := c, requestActions := a.tags, commands := a.commands }

/-- An agent sends its actions as its `ActionImp` does. -/
theorem sendActions_agent (c : Control) :
    (a.agent c).sendActions = (a.sendActions c).2.1.agent (a.sendActions c).2.2 := by
  obtain ⟨requestActions, commands⟩ := a
  unfold Agent.sendActions sendActions agent tags
  dsimp only
  cases requestActions with
  | none => rfl
  | some actions => cases (c.sendRequest .action).1 <;> simp

/-- An added action is, for the agent, a turn of the bot that leaves it to be sent. -/
theorem addAction_agent (action : Proto.ActionSent) (c : Control) :
    ((a.addAction action).agent c).requestActions =
      some (((a.agent c).requestActions.getD []) ++ action.commandTags) := by
  unfold agent tags addAction
  cases a.requestActions <;> simp

end ActionImp

/-! ## Runs -/

/-- The requests sent by a run of calls, in order. -/
def sentRequests (a : ActionImp) (calls : List ActionCall) : List (List Proto.ActionSent) :=
  (actionMachine.outputs a calls).reduceOption

theorem sentRequests_cons (a : ActionImp) (call : ActionCall) (calls : List ActionCall) :
    (sentRequests a (call :: calls)).flatten = ((actionMachine.step a call).2.getD []) ++
      (sentRequests (actionMachine.step a call).1 calls).flatten := by
  unfold sentRequests
  rw [Lib.Machine.outputs_cons]
  cases (actionMachine.step a call).2 with
  | none => rw [List.reduceOption_cons_of_none]; rfl
  | some actions => rw [List.reduceOption_cons_of_some]; rfl

/-- What a run sends and what is held after it are what was held and what it adds. -/
theorem run_conserves (a : ActionImp) (calls : List ActionCall) :
    (sentRequests a calls).flatten ++ (actionMachine.final a calls).held =
      a.held ++ calls.flatMap ActionCall.enqueued := by
  induction calls generalizing a with
  | nil => exact (List.append_nil _).symm
  | cons call calls ih =>
    rw [sentRequests_cons, List.append_assoc, Lib.Machine.final_cons, ih, ← List.append_assoc,
      a.step_conserves, List.append_assoc, List.flatMap_cons]

/-- Over every run of calls the actions are sent once and in order. Every `SendActions` writes
one request if it sends a batch and none otherwise, and the commands after it are those of the
batch it sent. -/
theorem actions_are_sent_once (calls : List ActionCall) :
    (sentRequests {} calls).flatten ++ (actionMachine.final {} calls).requestActions.getD [] =
        calls.flatMap ActionCall.enqueued ∧
      ∀ before c after, calls = before ++ .sendActions c :: after →
        let a := actionMachine.final {} before
        let sent := if (c.sendRequest .action).1 then a.requestActions else none
        (actionMachine.step a (.sendActions c)).2 = sent ∧
          (a.sendActions c).2.2.actionRequests = c.actionRequests ++
            (sent.map fun _ => (⟨c.proto.serial, .action⟩ : GameRequest)).toList ∧
          (actionMachine.step a (.sendActions c)).1.commands =
            (sent.getD []).flatMap Proto.ActionSent.commandTags :=
  ⟨run_conserves {} calls, fun before c _ _ =>
    ⟨((actionMachine.final {} before).sendActions_spec c).1,
      (actionMachine.final {} before).actionRequests_sendActions c,
      ((actionMachine.final {} before).sendActions_spec c).2.2⟩⟩

/-- A client whose game cannot be reached. -/
def unreachable : Control := { proto := { world := { connects := .const false } } }

/-- A command outlives a `SendActions` that fails, and is written by the next one. -/
theorem actions_outlive_failure :
    let before := [.unitCommand (some 5) 16 false, .sendActions unreachable, .sendChat "gl hf" .all]
    let calls := before ++ [.sendActions {}]
    let a := actionMachine.final {} before
    (sentRequests {} calls).map (·.length) = [2] ∧
      (sentRequests {} calls).flatten ++ (actionMachine.final {} calls).requestActions.getD [] =
        calls.flatMap ActionCall.enqueued ∧
      (a.sendActions {}).2.2.actionRequests.length = 1 ∧
      (actionMachine.step a (.sendActions {})).1.commands = [5] := by
  intro before calls a
  obtain ⟨hconserved, hsends⟩ := actions_are_sent_once calls
  obtain ⟨-, hwritten, hcommands⟩ := hsends before {} [] rfl
  refine ⟨by decide +kernel, hconserved, ?_, hcommands.trans (by decide +kernel)⟩
  rw [hwritten]
  decide +kernel

end Sc2Api
