import Sc2Api.Coordinator

/-!
# Working on one client leaves the others alone

Frame lemmas for the actions of the coordinator on its clients.
-/

namespace Sc2Api

namespace CoordinatorImp

section OnAgent

variable (c : CoordinatorImp) (i : AgentId) (f : Agent → Agent)

theorem agentOf_onAgent_self : (c.onAgent i f).agentOf i =
    { f (c.agentOf i) with control := { (f (c.agentOf i)).control with calls := [] } } :=
  Function.update_self _ _ _

theorem agentOf_onAgent_of_ne {j : AgentId} (h : j ≠ i) :
    (c.onAgent i f).agentOf j = c.agentOf j := Function.update_of_ne h _ _

end OnAgent

section OnObserver

variable (c : CoordinatorImp) (i : ObserverId) (f : ReplayObserver → ReplayObserver)

theorem observerOf_onObserver_self : (c.onObserver i f).observerOf i =
    { f (c.observerOf i) with
      control := { (f (c.observerOf i)).control with calls := [] } } :=
  Function.update_self _ _ _

theorem observerOf_onObserver_of_ne {j : ObserverId} (h : j ≠ i) :
    (c.onObserver i f).observerOf j = c.observerOf j := Function.update_of_ne h _ _

end OnObserver

end CoordinatorImp

end Sc2Api
