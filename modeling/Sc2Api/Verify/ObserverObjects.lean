import Sc2Api.ObserverObjects
import Sc2Api.Verify.UpdateFrames

/-!
# Which control the objects of an observer refer to

After every run the interfaces of an observer belong to its current control, but for
`ObserverAction()`, which keeps the first one.
-/

namespace Sc2Api

open Lib

/-! ## Relaunching in a coordinator -/

theorem Control.connectLoop_drained (n : Nat) (c : Control) :
    (connectLoop n { c with calls := [] }).2 = { (connectLoop n c).2 with calls := [] } := by
  induction n generalizing c with
  | zero => rfl
  | succ n ih =>
    unfold connectLoop
    dsimp only
    split
    · rfl
    · exact ih { c with proto := c.proto.connectToGame.2 }

/-- What the coordinator does to an observer it relaunches; its calls of process functions
go to the coordinator. -/
theorem CoordinatorImp.observerOf_relaunch (c : CoordinatorImp) (i : ObserverId) :
    (c.relaunch i).2.observerOf i = ((c.observerOf i).relaunch
      ⟨c.processSettings.processPath, c.world.starts.head.1, c.lastPort + 1⟩
      c.processSettings.timeoutMs).drained := by
  have hconnect (k : Control) (timeoutMs : Int32) :
      ({ k with calls := [] }.connect timeoutMs).2 =
        { (k.connect timeoutMs).2 with calls := [] } := Control.connectLoop_drained _ k
  unfold relaunch
  dsimp only
  unfold onControl
  dsimp only
  rw [observerOf_onObserver_self]
  unfold launchProcess onControl
  dsimp only
  rw [observerOf_onObserver_self]
  unfold ReplayObserver.drained ReplayObserver.relaunch
  dsimp only
  rw [← hconnect, ← hconnect]
  simp [onObserver, ReplayObserver.reset, Control.setProcessInfo]

/-! ## What operations leave alone -/

namespace ReplayObserver

variable (r : ReplayObserver)

@[simp] theorem actionsBound_issueEvents : r.issueEvents.2.actionsBound = r.actionsBound := by
  unfold issueEvents
  dsimp only
  split <;> rfl

@[simp] theorem actionsBound_sendActions : r.sendActions.actionsBound = r.actionsBound := by
  unfold sendActions
  split
  · rfl
  · dsimp only
    split <;> rfl

@[simp] theorem actionsBound_gatherReplayInfo (path : String) :
    (r.gatherReplayInfo path).2.actionsBound = r.actionsBound := by
  unfold gatherReplayInfo
  dsimp only
  repeat' split
  all_goals rfl

@[simp] theorem actionsBound_waitForReplay :
    r.waitForReplay.2.actionsBound = r.actionsBound := by
  unfold waitForReplay
  dsimp only
  repeat' split
  all_goals rfl

end ReplayObserver

/-! ## The controls of an observer -/

namespace ObserverObjects

/-- The interface is built on the current control, which is not deleted. -/
def Current (s : ObserverObjects) (interface : ObserverInterface) : Prop :=
  s.builtOn interface = s.controlImp.id ∧ s.builtOn interface ∉ s.deleted

instance (s : ObserverObjects) (interface : ObserverInterface) :
    Decidable (s.Current interface) := inferInstanceAs (Decidable (_ ∧ _))

/-- The controls after `n` relaunches: they are numbered, and all but the last one
deleted. -/
structure After (n : Nat) (s : ObserverObjects) : Prop where
  controlImp : s.controlImp = .new n
  replayControlImp : s.replayControlImp = n
  observerActionImp : s.observerActionImp = 0
  deleted : s.deleted = List.range n
  next : s.next = n + 1

variable {s : ObserverObjects} {n : Nat}

theorem After.relaunch (h : s.After n) :
    (s.reset.setControl s.reset.controlImp.id).After (n + 1) where
  controlImp := congrArg ControlObjects.new h.next
  replayControlImp := h.next
  observerActionImp := h.observerActionImp
  deleted := by
    have hdeleted : (s.reset.setControl s.reset.controlImp.id).deleted =
        s.deleted ++ [s.controlImp.id] := rfl
    rw [hdeleted, h.deleted, h.controlImp, List.range_succ]
    rfl
  next := congrArg (· + 1) h.next

/-- The interfaces that a relaunch rebinds are always current. -/
theorem After.current (h : s.After n) {interface : ObserverInterface}
    (hne : interface ≠ .observerAction) : s.Current interface := by
  have hbuilt : s.builtOn interface = n := by
    cases interface with
    | observerAction => exact absurd rfl hne
    | replayControl => exact h.replayControlImp
    | observation => exact congrArg ControlObjects.observationImp h.controlImp
    | query => exact congrArg ControlObjects.queryImp h.controlImp
    | debug => exact congrArg ControlObjects.debugImp h.controlImp
  refine ⟨hbuilt.trans (congrArg ControlObjects.id h.controlImp).symm, ?_⟩
  rw [hbuilt, h.deleted]
  exact List.not_mem_range_self

theorem After.observerAction (h : s.After n) : s.Current .observerAction ↔ n = 0 := by
  have hcurrent : s.controlImp.id = n := congrArg ControlObjects.id h.controlImp
  unfold Current builtOn
  rw [h.observerActionImp, hcurrent, h.deleted]
  constructor
  · exact fun hboth => hboth.1.symm
  · rintro rfl
    exact ⟨rfl, by simp⟩

end ObserverObjects

/-! ## Runs -/

namespace ObserverOp

/-- A call of `Relaunch`. -/
def isRelaunch : ObserverOp → Bool
  | relaunch .. => true
  | _ => false

end ObserverOp

/-- What `n` relaunches leave of an observer. -/
structure BoundObserver.After (n : Nat) (s : BoundObserver) : Prop where
  objects : s.objects.After n
  actionsBound : s.observer.actionsBound = decide (n = 0)

theorem BoundObserver.After.step {n : Nat} {s : BoundObserver} (h : s.After n)
    (input : World × ObserverOp) : (observerMachine.step s input).1.After
      (n + if input.2.isRelaunch then 1 else 0) := by
  obtain ⟨world, op⟩ := input
  cases op with
  | relaunch processInfo timeoutMs => exact ⟨h.objects.relaunch, by simp [observerMachine,
      BoundObserver.run, BoundObserver.relaunch, ReplayObserver.relaunch, ReplayObserver.reset,
      ObserverOp.isRelaunch]⟩
  | queueActions => exact ⟨h.objects, h.actionsBound⟩
  | callback event => exact ⟨h.objects, h.actionsBound⟩
  | issueEvents =>
    exact ⟨h.objects, (ReplayObserver.actionsBound_issueEvents _).trans h.actionsBound⟩
  | sendActions =>
    exact ⟨h.objects, (ReplayObserver.actionsBound_sendActions _).trans h.actionsBound⟩
  | gatherReplayInfo path =>
    exact ⟨h.objects, (ReplayObserver.actionsBound_gatherReplayInfo _ _).trans h.actionsBound⟩
  | loadReplay => exact ⟨h.objects, h.actionsBound⟩
  | waitForReplay =>
    exact ⟨h.objects, (ReplayObserver.actionsBound_waitForReplay _).trans h.actionsBound⟩
  | controlCall call => exact ⟨h.objects, h.actionsBound⟩

theorem BoundObserver.After.final {n : Nat} {s : BoundObserver} (h : s.After n)
    (inputs : List (World × ObserverOp)) : (observerMachine.final s inputs).After
      (n + inputs.countP (·.2.isRelaunch)) := by
  induction inputs generalizing n s with
  | nil => exact h
  | cons input inputs ih =>
    have hstep := ih (h.step input)
    rw [List.countP_cons, Nat.add_comm (inputs.countP _), ← Nat.add_assoc]
    exact hstep

/-- The interfaces of an observer all belong to its current control exactly as long as it
has not been relaunched. -/
theorem observer_interfaces_current_iff (world : World) (inputs : List (World × ObserverOp)) :
    (∀ interface, (observerMachine.final { observer := { control := {
        proto := { world } } } } inputs).objects.Current interface) ↔
      ∀ input ∈ inputs, input.2.isRelaunch = false := by
  have hstart : BoundObserver.After 0 { observer := { control := { proto := { world } } } } :=
    ⟨⟨rfl, rfl, rfl, rfl, rfl⟩, rfl⟩
  have hrun := (hstart.final inputs).objects
  rw [Nat.zero_add] at hrun
  have hcount : inputs.countP (·.2.isRelaunch) = 0 ↔
      ∀ input ∈ inputs, input.2.isRelaunch = false := by
    rw [List.countP_eq_zero]
    simp only [Bool.not_eq_true]
  rw [← hcount, ← hrun.observerAction]
  constructor
  · exact fun hall => hall .observerAction
  · intro haction interface
    by_cases hinterface : interface = .observerAction
    · exact hinterface ▸ haction
    · exact hrun.current hinterface

/-- After one relaunch `ObserverAction()` refers to the control that `Reset` deleted. -/
theorem observer_action_not_current :
    let s := (observerMachine.final {} [({}, .relaunch ⟨"", 1, 8168⟩ 5000)]).objects
    ¬ s.Current .observerAction ∧ s.builtOn .observerAction ∈ s.deleted := by
  decide +kernel

end Sc2Api
