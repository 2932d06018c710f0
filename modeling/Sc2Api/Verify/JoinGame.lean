import Sc2Api.Verify.Frames
import Sc2Api.Verify.Wire

/-!
# The setups agents join with

`JoinGame` walks the agents and the setups with one index, but only the setups
list the participants without an agent. `joins_with_own_setup_iff` says for which
participants every agent still joins with its own setup.
-/

namespace Sc2Api

namespace CoordinatorImp

/-- The agents of a list of participants. -/
def agentsOf (participants : List PlayerSetup) : List AgentId :=
  participants.filterMap (·.agent)

/-- The join requests of `JoinGame`. -/
def joinRequests (c : CoordinatorImp) : List JoinRequest := (c.requestJoinGames c.agents 0).1

/-- Every join request is built from the setup that carries its agent, and unless one
cannot be sent every agent gets one. -/
structure JoinsWithOwnSetup (c : CoordinatorImp) : Prop where
  own : ∀ r ∈ c.joinRequests, r.setup.agent = some r.agent ∧
    r.message = joinGameRequest r.setup c.interfaceSettings c.gameSettings.ports
  all : (c.requestJoinGames c.agents 0).2.exited = false → c.joinRequests.map (·.agent) = c.agents

/-- No participant without an agent takes a place among the first ones that an agent
needs. A repeated agent cannot join twice; `JoinGame` does not get past it. -/
def AgentsLead (participants : List PlayerSetup) : Prop :=
  ∀ i agent, (agentsOf participants)[i]? = some agent →
    ((agentsOf participants).take (i + 1)).Nodup →
      ∃ setup, participants[i]? = some setup ∧ setup.agent.isSome

/-! ## The two lists -/

theorem addParticipants_eq (c : CoordinatorImp) (participants : List PlayerSetup) :
    c.addParticipants participants =
      { c with
        agents := c.agents ++ agentsOf participants
        gameSettings := { c.gameSettings with
          playerSetup := c.gameSettings.playerSetup ++ participants } } := by
  unfold addParticipants
  induction participants generalizing c with
  | nil => simp [agentsOf]
  | cons p participants ih =>
    rw [List.foldl_cons, ih]
    cases hagent : p.agent <;> simp [agentsOf, hagent, addAgent]

theorem setParticipants_eq (c : CoordinatorImp) (participants : List PlayerSetup) :
    c.setParticipants participants =
      { c with
        agents := agentsOf participants
        gameSettings := { c.gameSettings with playerSetup := participants } } := by
  unfold setParticipants
  rw [addParticipants_eq]
  simp

/-- While every participant has an agent, the two lists run side by side. -/
theorem getElem?_agentsOf {participants : List PlayerSetup} {n : Nat}
    (h : ∀ i ≤ n, ∃ setup, participants[i]? = some setup ∧ setup.agent.isSome) :
    ∃ setup, participants[n]? = some setup ∧ (agentsOf participants)[n]? = setup.agent := by
  induction participants generalizing n with
  | nil => obtain ⟨setup, hsetup, -⟩ := h 0 (Nat.zero_le n); cases hsetup
  | cons p participants ih =>
    obtain ⟨setup, hp, hagent⟩ := h 0 (Nat.zero_le n)
    obtain rfl : p = setup := Option.some.inj hp
    obtain ⟨agent, hagent⟩ := Option.isSome_iff_exists.1 hagent
    have hcons : agentsOf (p :: participants) = agent :: agentsOf participants := by
      simp [agentsOf, hagent]
    rw [hcons]
    cases n with
    | zero => exact ⟨p, rfl, hagent.symm⟩
    | succ n => exact ih fun i hi => h (i + 1) (Nat.succ_le_succ hi)

theorem agentsOf_eq_nil_iff {participants : List PlayerSetup} :
    agentsOf participants = [] ↔ ∀ p ∈ participants, ¬p.agent.isSome := by
  simp [agentsOf]

/-- The first places belong to agents exactly when no participant without an agent
precedes one. -/
theorem lead_iff_pairwise (participants : List PlayerSetup) :
    (∀ i < (agentsOf participants).length,
        ∃ setup, participants[i]? = some setup ∧ setup.agent.isSome) ↔
      participants.Pairwise fun p q => q.agent.isSome → p.agent.isSome := by
  induction participants with
  | nil => simp [agentsOf]
  | cons p participants ih =>
    rw [List.pairwise_cons, ← ih]
    cases hagent : p.agent with
    | some agent =>
      have hcons : agentsOf (p :: participants) = agent :: agentsOf participants := by
        simp [agentsOf, hagent]
      rw [hcons]
      constructor
      · intro h
        exact ⟨fun _ _ _ => rfl, fun i hi => h (i + 1) (Nat.succ_lt_succ hi)⟩
      · rintro ⟨-, h⟩ i hi
        cases i with
        | zero => exact ⟨p, rfl, by simp [hagent]⟩
        | succ i => exact h i (Nat.lt_of_succ_lt_succ hi)
    | none =>
      have hcons : agentsOf (p :: participants) = agentsOf participants := by
        simp [agentsOf, hagent]
      rw [hcons]
      constructor
      · intro h
        have hnil : agentsOf participants = [] := by
          by_contra hne
          obtain ⟨setup, hsetup, hsome⟩ := h 0 (List.length_pos_iff.2 hne)
          obtain rfl : p = setup := Option.some.inj hsetup
          simp [hagent] at hsome
        refine ⟨fun q hq hsome => absurd hsome (agentsOf_eq_nil_iff.1 hnil q hq), fun i hi => ?_⟩
        simp [hnil] at hi
      · rintro ⟨h, -⟩ i hi
        have hnil : agentsOf participants = [] :=
          agentsOf_eq_nil_iff.2 fun q hq hsome => absurd (h q hq hsome) (by simp)
        simp [hnil] at hi

/-- Distinct agents lead exactly when no participant without an agent precedes one. -/
theorem agentsLead_iff_pairwise {participants : List PlayerSetup}
    (hnodup : (agentsOf participants).Nodup) :
    AgentsLead participants ↔
      participants.Pairwise fun p q => q.agent.isSome → p.agent.isSome := by
  rw [← lead_iff_pairwise]
  constructor
  · intro h i hi
    exact h i _ (List.getElem?_eq_getElem hi) (hnodup.sublist (List.take_sublist _ _))
  · intro h i agent hagent _
    exact h i (List.getElem?_eq_some_iff.1 hagent).1

/-! ## The join requests -/

/-- The join request of an agent is sent. -/
def joins (k : Control) : Bool := (k.proto.sendRequest .joinGame).1

/-- The coordinator after the join request of one agent. -/
def joined (c : CoordinatorImp) (agent : AgentId) (setup : PlayerSetup) : CoordinatorImp :=
  c.onAgent agent fun a => { a with control :=
    (a.control.requestJoinGame setup c.interfaceSettings c.gameSettings.ports).2.2 }

theorem requestJoinGames_cons {c : CoordinatorImp} {agent : AgentId} {agents : List AgentId}
    {i : Nat} {setup : PlayerSetup} (hsetup : c.gameSettings.playerSetup[i]? = some setup) :
    c.requestJoinGames (agent :: agents) i =
      if joins (c.agentOf agent).control then
        (⟨agent, setup, joinGameRequest setup c.interfaceSettings c.gameSettings.ports⟩ ::
          ((c.joined agent setup).requestJoinGames agents (i + 1)).1,
          ((c.joined agent setup).requestJoinGames agents (i + 1)).2)
      else ([], { c.joined agent setup with exited := true }) := by
  rw [requestJoinGames]
  simp only [hsetup]
  cases hjoins : joins (c.agentOf agent).control with
  | true =>
    have hsent : ((c.agentOf agent).control.requestJoinGame setup c.interfaceSettings
        c.gameSettings.ports).1 = true := hjoins
    simp only [hsent]
    rfl
  | false =>
    have hsent : ((c.agentOf agent).control.requestJoinGame setup c.interfaceSettings
        c.gameSettings.ports).1 = false := hjoins
    simp only [hsent]
    rfl

section Joined

variable (c : CoordinatorImp) (agent : AgentId) (setup : PlayerSetup)

@[simp] theorem joined_gameSettings : (c.joined agent setup).gameSettings = c.gameSettings := rfl

theorem agentOf_joined_of_ne {b : AgentId} (h : b ≠ agent) :
    (c.joined agent setup).agentOf b = c.agentOf b := agentOf_onAgent_of_ne c agent _ h

/-- An agent whose request was sent cannot join again. -/
theorem not_joins_joined (h : joins (c.agentOf agent).control) :
    joins ((c.joined agent setup).agentOf agent).control = false := by
  have hproto : ((c.joined agent setup).agentOf agent).control.proto =
      ((c.agentOf agent).control.proto.sendRequest .joinGame).2 :=
    congrArg (·.control.proto) (agentOf_onAgent_self c agent _)
  unfold joins
  rw [ProtoInterface.sendRequest_fst, hproto, ProtoInterface.sendRequest_snd_of_sent _ h]
  rfl

end Joined

/-- The `j`-th join request goes to the `j`-th agent with the `j`-th setup, and no agent
before it is the same. -/
theorem getElem?_requestJoinGames {c : CoordinatorImp} {agents : List AgentId} {i j : Nat}
    {r : JoinRequest} (h : (c.requestJoinGames agents i).1[j]? = some r) :
    c.gameSettings.playerSetup[i + j]? = some r.setup ∧ agents[j]? = some r.agent ∧
      r.message = joinGameRequest r.setup c.interfaceSettings c.gameSettings.ports ∧
      (agents.take (j + 1)).Nodup ∧ ∀ b ∈ agents.take (j + 1), joins (c.agentOf b).control := by
  induction agents generalizing c i j with
  | nil => simp [requestJoinGames] at h
  | cons agent agents ih =>
    cases hsetup : c.gameSettings.playerSetup[i]? with
    | none => simp [requestJoinGames, hsetup] at h
    | some setup =>
      rw [requestJoinGames_cons hsetup] at h
      by_cases hjoins : joins (c.agentOf agent).control
      · rw [if_pos hjoins] at h
        cases j with
        | zero =>
          obtain rfl := Option.some.inj h
          exact ⟨hsetup, rfl, rfl, by simp, by simpa using hjoins⟩
        | succ j =>
          obtain ⟨hplayer, hagent, hmessage, hnodup, hall⟩ := ih h
          have hother : ∀ b ∈ agents.take (j + 1), b ≠ agent := by
            rintro b hb rfl
            exact absurd (hall b hb) (by simp [not_joins_joined c b setup hjoins])
          refine ⟨?_, hagent, hmessage, ?_, ?_⟩
          · rw [← hplayer, joined_gameSettings, Nat.add_right_comm, Nat.add_assoc]
          · rw [List.take_succ_cons]
            exact List.nodup_cons.2 ⟨fun hmem => hother agent hmem rfl, hnodup⟩
          · rw [List.take_succ_cons]
            rintro b (_ | ⟨_, hb⟩)
            · exact hjoins
            · rw [← agentOf_joined_of_ne c agent setup (hother b hb)]
              exact hall b hb
      · rw [if_neg hjoins] at h
        cases h

/-- Distinct agents that can be reached all get a join request. -/
theorem exists_requestJoinGames {c : CoordinatorImp} {agents : List AgentId} {i j : Nat}
    (hsetups : i + agents.length ≤ c.gameSettings.playerSetup.length) (hj : j < agents.length)
    (hnodup : (agents.take (j + 1)).Nodup)
    (hjoins : ∀ b ∈ agents.take (j + 1), joins (c.agentOf b).control) :
    ∃ r, (c.requestJoinGames agents i).1[j]? = some r := by
  induction agents generalizing c i j with
  | nil => cases hj
  | cons agent agents ih =>
    rw [List.length_cons] at hsetups
    have hi : i < c.gameSettings.playerSetup.length := by omega
    rw [requestJoinGames_cons (List.getElem?_eq_getElem hi)]
    rw [List.take_succ_cons] at hnodup hjoins
    rw [if_pos (hjoins agent List.mem_cons_self)]
    cases j with
    | zero => exact ⟨_, rfl⟩
    | succ j =>
      obtain ⟨hnotmem, hnodup⟩ := List.nodup_cons.1 hnodup
      refine ih ?_ (Nat.lt_of_succ_lt_succ hj) hnodup fun b hb => ?_
      · rw [joined_gameSettings]
        omega
      · have hne : b ≠ agent := fun heq => hnotmem (heq ▸ hb)
        rw [agentOf_joined_of_ne c agent _ hne]
        exact hjoins b (List.mem_cons_of_mem _ hb)

/-- Unless a request cannot be sent, every agent gets one. -/
theorem map_agent_requestJoinGames {c : CoordinatorImp} {agents : List AgentId} {i : Nat}
    (hsetups : i + agents.length ≤ c.gameSettings.playerSetup.length)
    (hexited : (c.requestJoinGames agents i).2.exited = false) :
    (c.requestJoinGames agents i).1.map (·.agent) = agents := by
  induction agents generalizing c i with
  | nil => rfl
  | cons agent agents ih =>
    rw [List.length_cons] at hsetups
    have hi : i < c.gameSettings.playerSetup.length := by omega
    rw [requestJoinGames_cons (List.getElem?_eq_getElem hi)] at hexited ⊢
    by_cases hjoins : joins (c.agentOf agent).control
    · rw [if_pos hjoins] at hexited ⊢
      rw [List.map_cons, ih _ hexited]
      rw [joined_gameSettings]
      omega
    · rw [if_neg hjoins] at hexited
      cases hexited

theorem length_agentsOf_le (participants : List PlayerSetup) :
    (agentsOf participants).length ≤ participants.length := List.length_filterMap_le _ _

/-! ## Which participants join with their own setups -/

/-- An agent behind agents only joins with its own setup. -/
theorem AgentsLead.own {participants : List PlayerSetup} (h : AgentsLead participants) {j : Nat}
    {agent : AgentId} {setup : PlayerSetup} (hagent : (agentsOf participants)[j]? = some agent)
    (hnodup : ((agentsOf participants).take (j + 1)).Nodup)
    (hsetup : participants[j]? = some setup) : setup.agent = some agent := by
  have hbefore : ∀ i ≤ j, ∃ setup, participants[i]? = some setup ∧ setup.agent.isSome := by
    intro i hi
    have hlt : i < (agentsOf participants).length :=
      Nat.lt_of_le_of_lt hi (List.getElem?_eq_some_iff.1 hagent).1
    have htake : (agentsOf participants).take (i + 1) =
        ((agentsOf participants).take (j + 1)).take (i + 1) := by
      rw [List.take_take, Nat.min_eq_left (Nat.succ_le_succ hi)]
    refine h i _ (List.getElem?_eq_getElem hlt) ?_
    rw [htake]
    exact hnodup.sublist (List.take_sublist _ _)
  obtain ⟨setup', hsetup', hown⟩ := getElem?_agentsOf hbefore
  obtain rfl : setup = setup' := Option.some.inj (hsetup.symm.trans hsetup')
  exact hown.symm.trans hagent

/-- A client that was never used can join. -/
theorem joins_initial : joins {} = true := by
  unfold joins
  rw [ProtoInterface.sendRequest_fst]
  rfl

/-- After `SetParticipants`, `JoinGame` sends every agent a request built from its own
setup, whatever state the clients are in, exactly when the agents lead the list of
participants. -/
theorem joins_with_own_setup_iff (participants : List PlayerSetup) :
    (∀ c : CoordinatorImp, (c.setParticipants participants).JoinsWithOwnSetup) ↔
      AgentsLead participants := by
  constructor
  · intro h i agent hagent hnodup
    have hlt : i < (agentsOf participants).length := (List.getElem?_eq_some_iff.1 hagent).1
    have hc := setParticipants_eq {} participants
    obtain ⟨r, hr⟩ : ∃ r, (CoordinatorImp.setParticipants {} participants).joinRequests[i]? =
        some r := by
      unfold joinRequests
      rw [hc]
      refine exists_requestJoinGames ?_ hlt hnodup fun _ _ => joins_initial
      rw [Nat.zero_add]
      exact length_agentsOf_le participants
    have hown := (h {}).own r (List.mem_of_getElem? hr)
    obtain ⟨hsetup, -⟩ := getElem?_requestJoinGames hr
    rw [hc, Nat.zero_add] at hsetup
    exact ⟨r.setup, hsetup, by rw [hown.1]; rfl⟩
  · intro h c
    have hc := setParticipants_eq c participants
    refine ⟨fun r hr => ?_, fun hexited => ?_⟩
    · obtain ⟨j, hj⟩ := List.getElem?_of_mem hr
      obtain ⟨hsetup, hagent, hmessage, hnodup, -⟩ := getElem?_requestJoinGames hj
      rw [hc, Nat.zero_add] at hsetup
      rw [hc] at hagent hnodup
      exact ⟨h.own hagent hnodup hsetup, hmessage⟩
    · refine map_agent_requestJoinGames ?_ hexited
      rw [hc, Nat.zero_add]
      exact length_agentsOf_le participants

/-- An agent listed after a built-in AI asks to join with the race of the AI. -/
theorem joins_with_setup_of_computer :
    ¬∀ (participants : List PlayerSetup) (c : CoordinatorImp),
      (c.setParticipants participants).JoinsWithOwnSetup := by
  intro h
  have hown := (h [createComputer .zerg, createParticipant .terran (some 0)] {}).own
    ⟨0, createComputer .zerg, joinGameRequest (createComputer .zerg) {} {}⟩ (by decide +kernel)
  exact absurd hown.1 (by decide)

end CoordinatorImp

end Sc2Api
