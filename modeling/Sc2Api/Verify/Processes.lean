import Sc2Api.Lib.Ledger
import Sc2Api.Verify.Frames
import Sc2Api.Verify.Works

/-!
# Processes of a coordinator

The calls of process functions as a ledger. `Accounted` is the invariant of a
coordinator that has started every process it lists, and killed none of them.
-/

namespace Sc2Api

open Lib

/-- The entry of a call; a process that could not be started is none. -/
def ProcessCall.entry : ProcessCall → Option (Entry (Option ProcessId))
  | startProcess id started => if started then some (.opened (some id)) else none
  | isProcessRunning id => some (.used id)
  | terminateProcess id terminated => some (.closed id terminated)

def ledger (calls : List ProcessCall) : List (Entry (Option ProcessId)) :=
  calls.filterMap ProcessCall.entry

/-- The processes that were started. -/
def started (calls : List ProcessCall) : List (Option ProcessId) := Ledger.opened (ledger calls)

theorem ledger_append (calls calls' : List ProcessCall) :
    ledger (calls ++ calls') = ledger calls ++ ledger calls' := List.filterMap_append

theorem started_append (calls calls' : List ProcessCall) :
    started (calls ++ calls') = started calls ++ started calls' := by
  unfold started
  rw [ledger_append, Ledger.opened_append]

theorem mem_started {calls : List ProcessCall} {id : Option ProcessId} :
    id ∈ started calls ↔ .opened id ∈ ledger calls := Ledger.mem_opened

section OwnCalls

variable {info : ProcessInfo} {calls : List ProcessCall}

/-- The calls of a client for its own process, which survives them, open and close
nothing. -/
theorem started_ownCalls (h : ∀ call ∈ calls, Control.OwnCall (some info) call) :
    started calls = [] := by
  induction calls with
  | nil => rfl
  | cons call calls ih =>
    have hrest := ih fun call' hcall' => h call' (List.mem_cons_of_mem _ hcall')
    rcases h call List.mem_cons_self with rfl | rfl
    · exact hrest
    · exact hrest

theorem lasting_ownCalls (h : ∀ call ∈ calls, Control.OwnCall (some info) call) :
    Ledger.Lasting (ledger calls) := by
  intro id hid
  obtain ⟨call, hcall, hentry⟩ := List.mem_filterMap.1 hid
  rcases h call hcall with rfl | rfl <;> cases hentry

theorem permits_ownCalls (h : ∀ call ∈ calls, Control.OwnCall (some info) call)
    {live : List (Option ProcessId)} (hlive : some info.processId ∈ live) :
    Ledger.All Ledger.Permits live (ledger calls) := by
  induction calls with
  | nil => trivial
  | cons call calls ih =>
    have hrest := ih fun call' hcall' => h call' (List.mem_cons_of_mem _ hcall')
    rcases h call List.mem_cons_self with rfl | rfl
    · exact ⟨hlive, hrest⟩
    · exact ⟨hlive, hrest⟩

end OwnCalls

namespace CoordinatorImp

/-! ## The invariant -/

/-- The part of the invariant that lasts from one call to the next. -/
structure Accounted (c : CoordinatorImp) : Prop where
  honest : Ledger.Honest (ledger c.calls)
  lasting : Ledger.Lasting (ledger c.calls)
  listed : c.processSettings.processInfo.map (some ·.processId) = started c.calls
  assigned : ∀ client info, (c.control client).processInfo = some info →
    some info.processId ∈ started c.calls
  drained : ∀ client, (c.control client).calls = []

/-- What the world must leave alone during a call: no process is killed, and every
process that is to be started is. -/
structure Sound (c : CoordinatorImp) : Prop extends Accounted c where
  spared : ∀ client, (c.control client).Spared
  starts : ∀ n, (c.world.starts.get n).2 = true

/-- One client, with a control `k`, has worked; the calls of process functions it made
are entered in the list of all. -/
structure Touches (c c' : CoordinatorImp) (client : ClientId) (k : Control) : Prop where
  control : c'.control client = { k with calls := [] }
  others : ∀ other, other ≠ client → c'.control other = c.control other
  calls : c'.calls = c.calls ++ k.calls
  processInfo : c'.processSettings.processInfo = c.processSettings.processInfo
  starts : c'.world.starts = c.world.starts

variable {c c' : CoordinatorImp}

theorem touches_onAgent (i : AgentId) (f : Agent → Agent) :
    Touches c (c.onAgent i f) (.agent i) (f (c.agentOf i)).control where
  control := congrArg Agent.control (c.agentOf_onAgent_self i f)
  others other hother := by
    cases other with
    | agent j =>
      have hne : j ≠ i := fun heq => hother (heq ▸ rfl)
      exact congrArg Agent.control (c.agentOf_onAgent_of_ne i f hne)
    | observer j => rfl
  calls := rfl
  processInfo := rfl
  starts := rfl

theorem touches_onObserver (i : ObserverId) (f : ReplayObserver → ReplayObserver) :
    Touches c (c.onObserver i f) (.observer i) (f (c.observerOf i)).control where
  control := congrArg ReplayObserver.control (c.observerOf_onObserver_self i f)
  others other hother := by
    cases other with
    | agent j => rfl
    | observer j =>
      have hne : j ≠ i := fun heq => hother (heq ▸ rfl)
      exact congrArg ReplayObserver.control (c.observerOf_onObserver_of_ne i f hne)
  calls := rfl
  processInfo := rfl
  starts := rfl

theorem touches_onControl (client : ClientId) (f : Control → Control) :
    Touches c (c.onControl client f) client (f (c.control client)) := by
  cases client with
  | agent i => exact touches_onAgent i fun a => { a with control := f a.control }
  | observer i => exact touches_onObserver i fun r => { r with control := f r.control }

/-- The client keeps to a process that was started, or makes no calls at all. -/
theorem Sound.touches {client : ClientId} {k : Control} (h : c.Sound)
    (ht : Touches c c' client k) (hspared : k.Spared)
    (hinfo : ∀ info, k.processInfo = some info → some info.processId ∈ started c.calls)
    (hcalls : (∃ info, (c.control client).processInfo = some info ∧
      ∀ call ∈ k.calls, Control.OwnCall (some info) call) ∨ k.calls = []) : c'.Sound := by
  have hparts : Ledger.All Ledger.Permits ((ledger c.calls).foldl Ledger.after [])
      (ledger k.calls) ∧ Ledger.Lasting (ledger k.calls) ∧ started k.calls = [] := by
    rcases hcalls with ⟨info, hold, hown⟩ | hnone
    · have hmem := mem_started.1 (h.assigned client info hold)
      exact ⟨permits_ownCalls hown (Ledger.mem_foldl_after h.lasting (.inr hmem)),
        lasting_ownCalls hown, started_ownCalls hown⟩
    · rw [hnone]
      exact ⟨trivial, by simp [Ledger.Lasting, ledger], rfl⟩
  obtain ⟨hpermits, hlasting, hstarted⟩ := hparts
  have hsame : started c'.calls = started c.calls := by
    rw [ht.calls, started_append, hstarted, List.append_nil]
  refine ⟨⟨?_, ?_, ?_, fun other info hother => ?_, fun other => ?_⟩, fun other => ?_, ?_⟩
  · rw [ht.calls, ledger_append]
    exact Ledger.all_append.2 ⟨h.honest, hpermits⟩
  · rw [ht.calls, ledger_append]
    intro id hid
    rcases List.mem_append.1 hid with hid | hid
    · exact h.lasting id hid
    · exact hlasting id hid
  · rw [hsame, ht.processInfo]
    exact h.listed
  · rw [hsame]
    by_cases heq : other = client
    · subst heq
      rw [ht.control] at hother
      exact hinfo info hother
    · rw [ht.others other heq] at hother
      exact h.assigned other info hother
  · by_cases heq : other = client
    · subst heq
      rw [ht.control]
    · rw [ht.others other heq]
      exact h.drained other
  · by_cases heq : other = client
    · subst heq
      rw [ht.control]
      exact hspared
    · rw [ht.others other heq]
      exact h.spared other
  · intro n
    rw [ht.starts]
    exact h.starts n

/-- A client with a process of its own may do whatever clients do. -/
theorem Sound.works {client : ClientId} {k : Control} (h : c.Sound)
    (ht : Touches c c' client k) (hworks : (c.control client).Works k)
    (hinfo : (c.control client).processInfo.isSome) : c'.Sound := by
  obtain ⟨info, hsome⟩ := Option.isSome_iff_exists.1 hinfo
  obtain ⟨calls, hcalls, hown⟩ := hworks.calls (h.spared client)
  refine h.touches ht (hworks.spared (h.spared client))
    (fun info' hinfo' => h.assigned client info' (hworks.processInfo ▸ hinfo'))
    (.inl ⟨info, hsome, ?_⟩)
  rw [hcalls, h.drained client, List.nil_append]
  exact hsome ▸ hown

end CoordinatorImp

end Sc2Api
