import Sc2Api.CoordinatorRuns
import Sc2Api.Verify.UpdateFrames

/-!
# Ports

Which ports the processes of a coordinator listen on and which it hands to its
clients for joining a game, over runs of the functions that deal with them.
-/

namespace Sc2Api

open Lib

/-! ## Calls -/

inductive PortCall
  | setParticipants (participants : List PlayerSetup)
  | launchStarcraft
  | setupPorts (numAgents : Nat) (portStart : Int32) (checkSingle : Bool)

def PortCall.run (call : PortCall) (c : CoordinatorImp) : CoordinatorImp :=
  match call with
  | setParticipants participants => c.setParticipants participants
  | launchStarcraft => c.launchStarcraft
  | setupPorts numAgents portStart checkSingle => c.setupPorts numAgents portStart checkSingle

/-- A coordinator on which only these functions are called. -/
def portMachine : Machine CoordinatorImp (Worlds × PortCall) PUnit.{1} where
  step c input := (if c.exited then c else input.2.run (c.inWorlds input.1), .unit)

/-- A new coordinator after `SetPortStart`. -/
def CoordinatorImp.withPortStart (portStart : Int32) : CoordinatorImp :=
  { processSettings := { portStart } }

namespace CoordinatorImp

/-! ## What is promised -/

def listenPorts (c : CoordinatorImp) : List Int32 := c.processSettings.processInfo.map (·.port)

/-- The ports for joining a game. -/
def joinPorts (c : CoordinatorImp) : List Int32 :=
  let ports := c.gameSettings.ports
  ports.sharedPort :: ports.serverPorts.gamePort :: ports.serverPorts.basePort ::
    ports.clientPorts.flatMap fun p => [p.gamePort, p.basePort]

def humans (c : CoordinatorImp) : Nat :=
  c.gameSettings.playerSetup.countP (·.type = .participant)

/-- The join ports are those of the current participants. -/
def PortsDescribe (c : CoordinatorImp) : Prop :=
  if c.humans ≤ 1 then c.gameSettings.ports.isValid = false
  else c.gameSettings.ports.clientPorts.length + 1 = c.agents.length ∧ c.joinPorts.Nodup ∧
    ∀ port ∈ c.joinPorts, port ∉ c.listenPorts

end CoordinatorImp

instance (c : CoordinatorImp) : Decidable c.PortsDescribe :=
  have : Decidable (∀ port ∈ c.joinPorts, port ∉ c.listenPorts) := List.decidableBAll _ _
  inferInstanceAs (Decidable (if c.humans ≤ 1 then _ else _ ∧ _ ∧ _))

/-- The `i`-th process that is launched listens on `portStart + i`, and every launch
leaves join ports that describe the participants. -/
structure PortsAsPromised (portStart : Int32) (inputs : List (Worlds × PortCall)) : Prop where
  processes : ∀ before worlds, before ++ [(worlds, .launchStarcraft)] <+: inputs →
    (portMachine.final (.withPortStart portStart) before).listenPorts = [] →
    ∀ (i : Nat) port, (portMachine.final (.withPortStart portStart)
      (before ++ [(worlds, .launchStarcraft)])).listenPorts[i]? = some port →
        port = portStart + .ofNat i
  joining : ∀ before worlds, before ++ [(worlds, .launchStarcraft)] <+: inputs →
    (portMachine.final (.withPortStart portStart)
      (before ++ [(worlds, .launchStarcraft)])).PortsDescribe

namespace CoordinatorImp

variable {c : CoordinatorImp}

/-! ## What is done -/

@[simp] theorem processSettings_onControl (client : ClientId) (f : Control → Control) :
    (c.onControl client f).processSettings = c.processSettings := by
  cases client <;> rfl

@[simp] theorem processSettings_attachClients (clients : List ClientId) (connected : Bool) :
    (c.attachClients clients connected).2.processSettings = c.processSettings := by
  induction clients generalizing c connected with
  | nil => rfl
  | cons client clients ih => exact (ih _).trans (processSettings_onControl _ _)

theorem processSettings_launchProcess (client : ClientId) (port : Int32) :
    ∃ info, info.port = port ∧ (c.launchProcess client port).processSettings =
      { c.processSettings with processInfo := c.processSettings.processInfo ++ [info] } :=
  ⟨⟨c.processSettings.processPath, c.world.starts.head.1, port⟩, rfl,
    processSettings_onControl _ _⟩

theorem listenPorts_congr {c' : CoordinatorImp} (h : c'.processSettings = c.processSettings) :
    c'.listenPorts = c.listenPorts := by
  unfold listenPorts
  rw [h]

/-- The port of the process that is launched when `n` are listed. -/
def nextPort (portStart : Int32) (n : Nat) : Int32 := portStart + .ofNat n - 1

/-- Processes are launched on successive ports, beginning one below `portStart`. -/
theorem listenPorts_launchEach (clients : List ClientId) (lastPort : Int32) :
    (c.launchEach clients lastPort).2.listenPorts = c.listenPorts ++
        (List.range clients.length).map
          (fun i => nextPort c.processSettings.portStart (c.listenPorts.length + i)) ∧
      (c.launchEach clients lastPort).2.processSettings.portStart =
        c.processSettings.portStart := by
  induction clients generalizing c lastPort with
  | nil => exact ⟨by simp [launchEach], rfl⟩
  | cons client clients ih =>
    let port := nextPort c.processSettings.portStart c.listenPorts.length
    obtain ⟨info, hport, hsettings⟩ := processSettings_launchProcess (c := c) client port
    have hlisten : (c.launchProcess client port).listenPorts = c.listenPorts ++ [port] := by
      unfold listenPorts
      rw [hsettings, List.map_append, List.map_singleton, hport]
    have hstart : (c.launchProcess client port).processSettings.portStart =
        c.processSettings.portStart := by rw [hsettings]
    have hlaunch : c.launchEach (client :: clients) lastPort =
        (c.launchProcess client port).launchEach clients port := by
      have hlength : c.listenPorts.length = c.processSettings.processInfo.length :=
        List.length_map _
      rw [launchEach]
      dsimp only [port, nextPort]
      rw [hlength]
    obtain ⟨hports, hstart'⟩ := ih (c := c.launchProcess client port) port
    rw [hlaunch]
    refine ⟨?_, hstart'.trans hstart⟩
    rw [hports, hlisten, hstart, List.append_assoc, List.length_append, List.length_singleton,
      List.singleton_append, List.length_cons, List.range_succ_eq_map, List.map_cons,
      List.map_map]
    refine congrArg _ (congrArg₂ _ rfl (List.map_congr_left fun i _ => ?_))
    dsimp only [Function.comp_apply]
    congr 1
    omega

theorem listenPorts_setupPorts (numAgents : Nat) (portStart : Int32) (checkSingle : Bool) :
    (c.setupPorts numAgents portStart checkSingle).processSettings = c.processSettings := by
  unfold setupPorts
  dsimp only
  repeat' split
  all_goals rfl

theorem processSettings_setParticipants (participants : List PlayerSetup) :
    (c.setParticipants participants).processSettings = c.processSettings := by
  have hloop (c : CoordinatorImp) (participants : List PlayerSetup) :
      (c.addParticipants participants).processSettings = c.processSettings := by
    induction participants generalizing c with
    | nil => rfl
    | cons p participants ih =>
      refine (ih _).trans ?_
      dsimp only
      split <;> rfl
  exact hloop _ _

/-- A launch adds a process for every agent, or none. -/
theorem listenPorts_launchStarcraft :
    c.launchStarcraft.processSettings.portStart = c.processSettings.portStart ∧
      (c.launchStarcraft.listenPorts = c.listenPorts ∨
        c.launchStarcraft.listenPorts = c.listenPorts ++ (List.range c.agents.length).map
          (fun i => nextPort c.processSettings.portStart (c.listenPorts.length + i))) := by
  unfold launchStarcraft
  dsimp only
  split
  · exact ⟨rfl, .inl rfl⟩
  · let c' : CoordinatorImp := { c with
      world := { c.world with executableExists := c.world.executableExists.tail } }
    have heach := listenPorts_launchEach (c := c') (c.agents.map .agent) 0
    have hsettings : (c'.launchProcesses (c.agents.map .agent)).2.processSettings =
        (c'.launchEach (c.agents.map .agent) 0).2.processSettings :=
      processSettings_attachClients _ _
    split
    · have hports := (listenPorts_setupPorts (c := (c'.launchProcesses (c.agents.map .agent)).2)
        (c'.launchProcesses (c.agents.map .agent)).2.agents.length
        (c'.launchProcesses (c.agents.map .agent)).1 true).trans hsettings
      rw [List.length_map] at heach
      exact ⟨(congrArg ProcessSettings.portStart hports).trans heach.2,
        .inr ((listenPorts_congr (c := (c'.launchEach (c.agents.map .agent) 0).2) hports).trans
          heach.1)⟩
    · have hports := listenPorts_setupPorts (c := c') c'.agents.length 0 true
      exact ⟨congrArg ProcessSettings.portStart hports, .inl (listenPorts_congr (c := c') hports)⟩

theorem nextPort_ne (portStart : Int32) : nextPort portStart 0 ≠ portStart + .ofNat 0 := by
  intro h
  have hzero : (1 : Int32) = 0 := by
    unfold nextPort at h
    grind
  exact absurd hzero (by decide)

/-- The first processes of a run are launched one port too low. -/
theorem listenPorts_step (input : Worlds × PortCall) :
    (portMachine.step c input).1.processSettings.portStart = c.processSettings.portStart ∧
      ((portMachine.step c input).1.listenPorts ≠ c.listenPorts →
        input.2 = .launchStarcraft ∧
          (portMachine.step c input).1.listenPorts = c.listenPorts ++
            (List.range c.agents.length).map
              (fun i => nextPort c.processSettings.portStart (c.listenPorts.length + i))) := by
  obtain ⟨worlds, call⟩ := input
  have hsame {c' : CoordinatorImp} (h : c'.processSettings = c.processSettings) :
      c'.processSettings.portStart = c.processSettings.portStart ∧
        c'.listenPorts = c.listenPorts :=
    ⟨by rw [h], by unfold listenPorts; rw [h]⟩
  unfold portMachine
  dsimp only
  split
  · exact ⟨rfl, fun hne => absurd rfl hne⟩
  · cases call with
    | setParticipants participants =>
      have h := hsame (processSettings_setParticipants (c := c.inWorlds worlds) participants)
      exact ⟨h.1, fun hne => absurd h.2 hne⟩
    | launchStarcraft =>
      obtain ⟨hstart, hports⟩ := listenPorts_launchStarcraft (c := c.inWorlds worlds)
      exact ⟨hstart, fun hne => ⟨rfl, hports.resolve_left hne⟩⟩
    | setupPorts numAgents portStart checkSingle =>
      have h := hsame (listenPorts_setupPorts (c := c.inWorlds worlds) numAgents portStart
        checkSingle)
      exact ⟨h.1, fun hne => absurd h.2 hne⟩

end CoordinatorImp

/-! ## Runs -/

open CoordinatorImp in
/-- Whenever a process has been launched the first one listens below `portStart`. -/
theorem ports_not_as_promised (portStart : Int32) (inputs : List (Worlds × PortCall))
    (hlaunched : (portMachine.final (.withPortStart portStart) inputs).listenPorts ≠ []) :
    ¬ PortsAsPromised portStart inputs := by
  intro hpromised
  have hstart (inputs : List (Worlds × PortCall)) :
      (portMachine.final (.withPortStart portStart) inputs).processSettings.portStart =
        portStart :=
    Machine.invariant' (I := fun c => c.processSettings.portStart = portStart)
      (fun c input h => (listenPorts_step (c := c) input).1.trans h) inputs rfl
  obtain ⟨before, input, after, hinputs, hbefore, hafter⟩ :=
    Machine.exists_step (m := portMachine) (P := fun c => c.listenPorts ≠ [])
      (s := .withPortStart portStart) (by simp [listenPorts, withPortStart]) hlaunched
  have hnone : (portMachine.final (.withPortStart portStart) before).listenPorts = [] :=
    not_not.1 hbefore
  obtain ⟨-, hstep⟩ := listenPorts_step
    (c := portMachine.final (.withPortStart portStart) before) input
  obtain ⟨hcall, hports⟩ := hstep fun hsame => hafter (hsame.trans hnone)
  rw [hnone, hstart before, List.nil_append, List.length_nil] at hports
  obtain ⟨worlds, call⟩ := input
  obtain rfl : call = .launchStarcraft := hcall
  have hfirst : (portMachine.final (.withPortStart portStart)
      (before ++ [(worlds, .launchStarcraft)])).listenPorts[0]? = some (nextPort portStart 0) := by
    rw [Machine.final_concat, hports]
    cases hagents : (portMachine.final (.withPortStart portStart) before).agents.length with
    | zero =>
      rw [hagents] at hports
      exact absurd hports hafter
    | succ n => simp [List.range_succ_eq_map]
  have hprefix : before ++ [(worlds, .launchStarcraft)] <+: inputs :=
    ⟨after, by rw [hinputs]; simp⟩
  exact nextPort_ne portStart (hpromised.processes before worlds hprefix hnone 0 _ hfirst)

/-- `n` agents, whose games are launched and launched again. -/
def launchTwice (n : Nat) : List (Worlds × PortCall) :=
  [({}, .setParticipants ((List.range n).map fun i => { type := .participant, agent := some i })),
    ({}, .launchStarcraft), ({}, .launchStarcraft)]

theorem ports_not_as_promised_one : ¬ PortsAsPromised 8168 (launchTwice 1) :=
  ports_not_as_promised 8168 (launchTwice 1) (by decide +kernel)

/-- The first of two processes listens on 8167, and the second launch hands out ports from
1 on and adds to the client ports of the first. -/
theorem ports_below_port_start :
    (portMachine.final (.withPortStart 8168) ((launchTwice 2).take 2)).listenPorts =
        [8167, 8168] ∧
      (portMachine.final (.withPortStart 8168) ((launchTwice 2).take 2)).PortsDescribe ∧
      (portMachine.final (.withPortStart 8168) (launchTwice 2)).joinPorts =
        [1, 2, 3, 8172, 8173, 4, 5] ∧
      ¬ (portMachine.final (.withPortStart 8168) (launchTwice 2)).PortsDescribe ∧
      ¬ PortsAsPromised 8168 (launchTwice 2) := by
  refine ⟨by decide +kernel, by decide +kernel, by decide +kernel, by decide +kernel,
    fun hpromised => ?_⟩
  have hport := hpromised.processes ((launchTwice 2).take 1) {} ⟨[({}, .launchStarcraft)], rfl⟩
    (by decide +kernel) 0 8167 (by decide +kernel)
  exact absurd hport (by decide)

end Sc2Api
