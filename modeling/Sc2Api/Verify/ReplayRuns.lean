import Sc2Api.Lib.Worklist
import Sc2Api.ReplayAttempts
import Sc2Api.Verify.UpdateFrames
import Sc2Api.Verify.Wire

/-!
# The list of replays over runs of updates

Which attempts take entries from the list of replays. Nothing but `StartReplay`
touches the list, and it works the list off from its end.
-/

namespace Sc2Api

open Lib

namespace CoordinatorImp

variable {c : CoordinatorImp}

/-! ## The list of replays beside `StartReplay` -/

/-- Neither the list of replays nor that of the observers is different. -/
structure SameReplays (c c' : CoordinatorImp) : Prop where
  replaySettings : c'.replaySettings = c.replaySettings
  replayObservers : c'.replayObservers = c.replayObservers

variable {c' c'' : CoordinatorImp}

theorem SameReplays.refl (c : CoordinatorImp) : c.SameReplays c := ⟨rfl, rfl⟩

theorem SameReplays.trans (h : c.SameReplays c') (h' : c'.SameReplays c'') :
    c.SameReplays c'' :=
  ⟨h'.1.trans h.1, h'.2.trans h.2⟩

theorem sameReplays_onControl (client : ClientId) (f : Control → Control) :
    c.SameReplays (c.onControl client f) := by
  cases client <;> exact ⟨rfl, rfl⟩

theorem sameReplays_foldl {α : Type} {f : CoordinatorImp → α → CoordinatorImp}
    (hf : ∀ (c : CoordinatorImp) a, c.SameReplays (f c a)) (as : List α) :
    c.SameReplays (as.foldl f c) := by
  induction as generalizing c with
  | nil => exact .refl c
  | cons a as ih => exact (hf c a).trans ih

theorem sameReplays_launchProcess (client : ClientId) (port : Int32) :
    c.SameReplays (c.launchProcess client port) := by
  cases client <;> exact ⟨rfl, rfl⟩

theorem sameReplays_attachClients (clients : List ClientId) (connected : Bool) :
    c.SameReplays (c.attachClients clients connected).2 := by
  induction clients generalizing c connected with
  | nil => exact .refl c
  | cons client clients ih => exact (sameReplays_onControl _ _).trans (ih _)

theorem sameReplays_launchEach (clients : List ClientId) (lastPort : Int32) :
    c.SameReplays (c.launchEach clients lastPort).2 := by
  induction clients generalizing c lastPort with
  | nil => exact .refl c
  | cons client clients ih => exact (sameReplays_launchProcess _ _).trans (ih _)

theorem sameReplays_launchForReplays : c.SameReplays c.launchForReplays := by
  unfold launchForReplays
  split
  · exact ((sameReplays_launchEach _ _).trans (sameReplays_attachClients _ _)).trans ⟨rfl, rfl⟩
  · exact .refl c

theorem sameReplays_relaunch (i : ObserverId) : c.SameReplays (c.relaunch i).2 := ⟨rfl, rfl⟩

theorem sameReplays_recoverObservers (is : List ObserverId) (flags : Bool × Bool) :
    c.SameReplays (c.recoverObservers is flags).2 := by
  induction is generalizing c flags with
  | nil => exact .refl c
  | cons i is ih =>
    obtain ⟨errorOccurred, relaunched⟩ := flags
    unfold recoverObservers
    dsimp only
    split
    · exact ih _
    · have herror : c.SameReplays (c.onObserver i (·.callback .onError)) := ⟨rfl, rfl⟩
      have hrelaunch := herror.trans (sameReplays_relaunch i)
      split
      · exact herror.trans (ih _)
      · split
        · exact hrelaunch.trans (ih _)
        · exact hrelaunch.trans (ih _)

theorem sameReplays_updateAgents : c.SameReplays c.updateAgents := by
  have hwalk (c : CoordinatorImp) (f : Agent → Agent) : c.SameReplays (c.forAgents f) :=
    sameReplays_foldl (f := fun c i => c.onAgent i f) (fun _ _ => ⟨rfl, rfl⟩) _
  unfold updateAgents
  split
  · exact .refl c
  · split
    · exact hwalk _ _
    · unfold stepAgents
      dsimp only
      split
      · exact (hwalk _ _).trans (hwalk _ _)
      · exact hwalk _ _

theorem sameReplays_updateObservers : c.SameReplays c.updateObservers := by
  have hwalk (c : CoordinatorImp) (f : ReplayObserver → ReplayObserver) :
      c.SameReplays (c.forObservers f) :=
    sameReplays_foldl (f := fun c i => c.onObserver i f) (fun _ _ => ⟨rfl, rfl⟩) _
  unfold updateObservers
  split
  · exact .refl c
  · split
    · unfold stepReplayObserversRealtime
      dsimp only
      split
      · exact (hwalk _ _).trans (hwalk _ _)
      · exact hwalk _ _
    · unfold stepReplayObservers
      dsimp only
      split
      · exact (hwalk _ _).trans (hwalk _ _)
      · exact hwalk _ _

theorem sameReplays_update : c.updateClients.SameReplays c.update.2 := by
  have herrors : c.updateClients.SameReplays (c.updateClients.failedAgents.foldl
      (fun c i => c.onAgent i (·.callback .onError)) c.updateClients) :=
    sameReplays_foldl (f := fun c i => c.onAgent i (·.callback .onError))
      (fun _ _ => ⟨rfl, rfl⟩) _
  exact herrors.trans (sameReplays_recoverObservers _ _)

theorem sameReplays_shouldIgnore (i : ObserverId) (file : String) :
    c.SameReplays (c.shouldIgnore i file).2 := by
  unfold shouldIgnore
  split <;> exact ⟨rfl, rfl⟩

theorem sameReplays_shouldRelaunch (i : ObserverId) :
    c.SameReplays (c.shouldRelaunch i).2 := by
  unfold shouldRelaunch
  dsimp only
  split
  · exact .refl c
  · split <;> exact ⟨rfl, rfl⟩

/-! ## Working the list off -/

/-- Attempts of observers on the list that take the list of replays from one state to
another. -/
structure Uses (c : CoordinatorImp) (attempts : List ReplayAttempt) (c' : CoordinatorImp) :
    Prop where
  left : c'.replaySettings.replayFile <+: c.replaySettings.replayFile
  consumes : Consumes ReplayAttempt.entry ReplayAttempt.removes
    c.replaySettings.replayFile.length attempts c'.replaySettings.replayFile.length
  replayObservers : c'.replayObservers = c.replayObservers

variable {attempts attempts' : List ReplayAttempt}

theorem SameReplays.uses (h : c.SameReplays c') : c.Uses [] c' := by
  refine ⟨?_, ?_, h.replayObservers⟩
  · simp only [h.replaySettings, List.prefix_rfl]
  · rw [h.replaySettings]
    exact .nil _

theorem Uses.trans (h : c.Uses attempts c') (h' : c'.Uses attempts' c'') :
    c.Uses (attempts ++ attempts') c'' :=
  ⟨h'.left.trans h.left, h.consumes.append h'.consumes,
    h'.replayObservers.trans h.replayObservers⟩

theorem Uses.same (h : c.Uses attempts c') (hsame : c'.SameReplays c'') :
    c.Uses attempts c'' := by
  simpa using h.trans hsame.uses

/-- One turn of the loop uses the last entry. -/
theorem uses_tryReplay {file : String} (hfile : c.replaySettings.replayFile.getLast? = some file)
    (i : ObserverId) : c.Uses [(c.tryReplay i file).1] (c.tryReplay i file).2 := by
  obtain ⟨n, hn⟩ : ∃ n, c.replaySettings.replayFile.length = n + 1 :=
    Nat.exists_eq_succ_of_ne_zero fun h => by
      rw [List.eq_nil_of_length_eq_zero h] at hfile
      cases hfile
  have hgathered := sameReplays_shouldIgnore (c := c) i file
  have hentry : (c.shouldIgnore i file).2.replaySettings.replayFile.length - 1 = n := by
    rw [hgathered.replaySettings]
    omega
  have hdecided := hgathered.trans (sameReplays_shouldRelaunch i)
  have hpopped {k : CoordinatorImp} (hk : c.SameReplays k)
      (attempt : ReplayAttempt) (ha : attempt.entry = n) (hremoves : attempt.removes = true) :
      c.Uses [attempt] k.popReplay := by
    have hlist : k.popReplay.replaySettings.replayFile =
        c.replaySettings.replayFile.dropLast := by
      rw [← hk.replaySettings]
      rfl
    refine ⟨hlist ▸ List.dropLast_prefix _, ?_, hk.replayObservers⟩
    rw [hlist, List.length_dropLast, hn]
    exact .remove ha hremoves (.nil n)
  rcases c.tryReplay_cases i file with
    ⟨-, htry⟩ | ⟨-, -, htry⟩ | ⟨-, -, outcome, -, houtcome, htry⟩
  · rw [htry]
    exact hpopped hgathered _ hentry rfl
  · rw [htry]
    refine ⟨by simp only [hdecided.replaySettings, List.prefix_rfl], ?_,
      hdecided.replayObservers⟩
    rw [hdecided.replaySettings, hn]
    exact .keep hentry rfl (.nil _)
  · have hloaded : c.SameReplays (((c.shouldIgnore i file).2.shouldRelaunch i).2.onObserver i
        (·.loadReplay.2)) := ⟨hdecided.replaySettings, hdecided.replayObservers⟩
    rw [htry]
    refine hpopped hloaded ((c.shouldIgnore i file).2.attempt i _ outcome) hentry ?_
    rcases houtcome with rfl | rfl <;> rfl

theorem uses_startReplayFrom (i : ObserverId) (n : Nat) :
    c.Uses (attemptsFrom i n c) (startReplayFrom i n c) := by
  induction n generalizing c with
  | zero => exact (SameReplays.refl c).uses
  | succ n ih =>
    rw [startReplayFrom_succ, attemptsFrom]
    cases hfile : c.replaySettings.replayFile.getLast? with
    | none => exact (SameReplays.refl c).uses
    | some file =>
      have hturn := uses_tryReplay hfile i
      dsimp only
      split
      · exact hturn.trans ih
      · exact hturn

theorem uses_startReplayOn (i : ObserverId) : c.Uses (c.attemptsOf i) (c.startReplayOn i) := by
  unfold attemptsOf startReplayOn
  split
  · exact (SameReplays.refl c).uses
  · let k := c.onControl (.observer i) (·.useGeneralizedAbility c.useGeneralizedAbilityId)
    have hk : c.Uses [] k := (sameReplays_onControl _ _).uses
    exact hk.trans (uses_startReplayFrom i k.replaySettings.replayFile.length)

theorem uses_attemptsOn (is : List ObserverId) :
    c.Uses (attemptsOn is c) (is.foldl startReplayOn c) := by
  induction is generalizing c with
  | nil => exact (SameReplays.refl c).uses
  | cons i is ih => exact (uses_startReplayOn i).trans ih

theorem uses_startReplay : c.Uses c.startReplayAttempts c.startReplay := by
  rw [startReplay_eq]
  unfold startReplayAttempts
  split
  · exact (SameReplays.refl c).uses
  · have hlaunch := (sameReplays_launchForReplays (c := c)).uses
    exact (hlaunch.trans (uses_attemptsOn _)).same ⟨rfl, rfl⟩

theorem uses_updateClients : c.Uses c.replayAttempts c.updateClients := by
  have hsteps : c.Uses [] c.updateAgents.updateObservers :=
    (sameReplays_updateAgents.trans sameReplays_updateObservers).uses
  unfold replayAttempts updateClients
  dsimp only
  split
  · exact hsteps.trans uses_startReplay
  · exact hsteps

theorem uses_update : c.Uses c.replayAttempts c.update.2 :=
  uses_updateClients.same sameReplays_update

/-! ## What all attempts have in common -/

theorem observer_tryReplay (i : ObserverId) (file : String) :
    (c.tryReplay i file).1.observer = i := by
  rcases c.tryReplay_cases i file with ⟨-, h⟩ | ⟨-, -, h⟩ | ⟨-, -, outcome, -, -, h⟩ <;>
    · rw [h]
      rfl

section

variable {P : ReplayAttempt → Prop}

theorem forall_mem_attemptsFrom {i : ObserverId}
    (htry : ∀ (c : CoordinatorImp) file, P (c.tryReplay i file).1) (n : Nat) :
    ∀ a ∈ attemptsFrom i n c, P a := by
  induction n generalizing c with
  | zero => exact List.forall_mem_nil _
  | succ n ih =>
    rw [attemptsFrom]
    cases c.replaySettings.replayFile.getLast? with
    | none => exact List.forall_mem_nil _
    | some file =>
      dsimp only
      split
      · exact List.forall_mem_cons.2 ⟨htry c file, ih⟩
      · exact List.forall_mem_singleton.2 (htry c file)

theorem forall_mem_attemptsOn {is : List ObserverId}
    (htry : ∀ i ∈ is, ∀ (c : CoordinatorImp) file, P (c.tryReplay i file).1) :
    ∀ a ∈ attemptsOn is c, P a := by
  induction is generalizing c with
  | nil => exact List.forall_mem_nil _
  | cons i is ih =>
    obtain ⟨hfirst, hrest⟩ := List.forall_mem_cons.1 htry
    refine List.forall_mem_append.2 ⟨?_, ih hrest⟩
    unfold attemptsOf
    split
    · exact List.forall_mem_nil _
    · exact forall_mem_attemptsFrom hfirst _

/-- What holds of every attempt of the observers holds of those of an update. -/
theorem forall_mem_replayAttempts
    (htry : ∀ i ∈ c.replayObservers, ∀ (c : CoordinatorImp) file, P (c.tryReplay i file).1) :
    ∀ a ∈ c.replayAttempts, P a := by
  have hsteps := (sameReplays_updateAgents (c := c)).trans sameReplays_updateObservers
  unfold replayAttempts startReplayAttempts
  dsimp only
  split
  · split
    · exact List.forall_mem_nil _
    · refine forall_mem_attemptsOn ?_
      rw [sameReplays_launchForReplays.replayObservers, hsteps.replayObservers]
      exact htry
  · exact List.forall_mem_nil _

end

/-! ## What an attempt comes to -/

end CoordinatorImp

/-- What becomes of an entry is decided by what its attempt finds. -/
structure ReplayAttempt.Decided (a : ReplayAttempt) : Prop where
  ignored : a.outcome = .ignored ↔ a.ignored = true
  wrongVersion : a.outcome = .wrongVersion ↔ a.ignored = false ∧ ¬a.Settled
  started : a.outcome = .started ↔ a.ComesToLoad ∧ a.canLoad = true
  failed : a.outcome = .failed ↔ a.ComesToLoad ∧ a.canLoad = false

namespace CoordinatorImp

variable {c : CoordinatorImp}

/-- A replay is started by a request that goes out. -/
theorem tryReplay_started {i : ObserverId} {file : String}
    (h : (c.tryReplay i file).1.outcome = .started) :
    ∃ log serial, ((c.tryReplay i file).2.observerOf i).control.proto.log =
      log ++ [.sent ⟨serial, .startReplay⟩] := by
  rcases c.tryReplay_cases i file with
    ⟨-, htry⟩ | ⟨-, -, htry⟩ | ⟨-, -, outcome, hload, -, htry⟩
  · rw [htry] at h
    cases h
  · rw [htry] at h
    cases h
  · rw [htry] at h ⊢
    obtain rfl : outcome = .started := h
    generalize ((c.shouldIgnore i file).2.shouldRelaunch i).2 = decided at hload ⊢
    have hsent : ((decided.observerOf i).control.proto.sendRequest .startReplay).1 = true := hload
    have hwrite := ProtoInterface.sendRequest_snd_of_sent _ hsent
    refine ⟨(decided.observerOf i).control.proto.ensureConnection.log,
      (decided.observerOf i).control.proto.ensureConnection.serial, ?_⟩
    have hloaded : ((decided.onObserver i (·.loadReplay.2)).observerOf i).control.proto =
        ((decided.observerOf i).control.proto.sendRequest .startReplay).2 := by
      rw [observerOf_onObserver_self]
      rfl
    exact (congrArg ProtoInterface.log (hloaded.trans hwrite))

/-- `ShouldRelaunch` finds fault with a version that is not that of the replay, if there is an
executable of the replay's. -/
theorem shouldRelaunch_iff (i : ObserverId) (ignored : Bool) (outcome : ReplayOutcome) :
    (c.shouldRelaunch i).1 = false ↔ (c.attempt i ignored outcome).Settled := by
  unfold shouldRelaunch ReplayAttempt.Settled attempt
  dsimp only
  rw [ReplayVersion.mk.injEq]
  split
  next hmatch => exact ⟨fun _ => .inl hmatch, fun _ => rfl⟩
  next hmatch => cases c.world.baseExes.head <;> simp [hmatch]

/-- An observer that is not to be relaunched is left alone. -/
theorem observerOf_shouldRelaunch {i : ObserverId} (h : (c.shouldRelaunch i).1 = false) :
    (c.shouldRelaunch i).2.observerOf i = c.observerOf i := by
  unfold shouldRelaunch at h ⊢
  dsimp only at h ⊢
  split at h
  next hmatch => rw [if_pos hmatch]
  next hmatch =>
    rw [if_neg hmatch]
    split at h
    · rfl
    · cases h

theorem shouldIgnore_fst (i : ObserverId) (file : String) :
    (c.shouldIgnore i file).1 = (file = "" || c.world.ignores.head) := by
  unfold shouldIgnore
  split
  next hname => simp [hname]
  next hname =>
    rw [decide_eq_false hname, Bool.false_or]
    rfl

theorem decided_tryReplay (i : ObserverId) (file : String) : (c.tryReplay i file).1.Decided := by
  rcases c.tryReplay_cases i file with
    ⟨hignored, htry⟩ | ⟨hignored, hversion, htry⟩ | ⟨hignored, hversion, outcome, hload, hor, htry⟩
  · rw [shouldIgnore_fst] at hignored
    rw [htry]
    refine ⟨?_, ?_, ?_, ?_⟩ <;> simp [attempt, ReplayAttempt.ComesToLoad, hignored]
  · have hwrong := hversion
    rw [← Bool.not_eq_false, shouldRelaunch_iff i false .wrongVersion] at hwrong
    rw [shouldIgnore_fst] at hignored
    rw [htry]
    refine ⟨?_, ?_, ?_, ?_⟩
    · simp [attempt, hignored]
    · exact ⟨fun _ => ⟨hignored, hwrong⟩, fun _ => rfl⟩
    · exact ⟨fun h => (by cases h), fun h => absurd h.1.2 hwrong⟩
    · exact ⟨fun h => (by cases h), fun h => absurd h.1.2 hwrong⟩
  · have hsettled := (shouldRelaunch_iff i false outcome).1 hversion
    rw [observerOf_shouldRelaunch hversion] at hload
    rw [shouldIgnore_fst] at hignored
    have hcan : outcome = .started ↔
        ((c.shouldIgnore i file).2.observerOf i).control.CanSend := by
      rw [← Control.sendRequest_sent_iff _ .startReplay]
      constructor
      · exact fun h => hload.trans (decide_eq_true h)
      · exact fun h => decide_eq_true_iff.1 (hload.symm.trans h)
    rw [htry]
    refine ⟨?_, ?_, ?_, ?_⟩
    · rcases hor with rfl | rfl <;> simp [attempt, hignored]
    · refine ⟨fun h => ?_, fun h => absurd hsettled h.2⟩
      rcases hor with rfl | rfl <;> cases h
    · exact ⟨fun h => ⟨⟨hignored, hsettled⟩, decide_eq_true (hcan.1 h)⟩,
        fun h => hcan.2 (decide_eq_true_iff.1 h.2)⟩
    · refine ⟨fun h => ⟨⟨hignored, hsettled⟩, decide_eq_false fun hyes => ?_⟩, fun h => ?_⟩
      · cases h.symm.trans (hcan.2 hyes)
      · exact hor.resolve_left fun hstarted =>
          absurd (hcan.1 hstarted) (decide_eq_false_iff_not.1 h.2)

end CoordinatorImp

/-! ## Runs -/

/-- The attempts of a run of updates. -/
def replayAttempts (c : CoordinatorImp) (worlds : List Worlds) : List ReplayAttempt :=
  (replayMachine.outputs c worlds).flatten

theorem uses_updates (c : CoordinatorImp) (worlds : List Worlds) :
    c.Uses (replayAttempts c worlds) (replayMachine.final c worlds) := by
  induction worlds generalizing c with
  | nil => exact (CoordinatorImp.SameReplays.refl c).uses
  | cons w worlds ih =>
    have hupdate : (c.inWorlds w).Uses (c.inWorlds w).replayAttempts
        (c.inWorlds w).update.2 := CoordinatorImp.uses_update
    have hfirst : c.Uses (c.inWorlds w).replayAttempts (c.inWorlds w).update.2 :=
      ⟨hupdate.left, hupdate.consumes, hupdate.replayObservers⟩
    exact hfirst.trans (ih _)

/-- What a run of updates does to the list of replays: the list loses entries at its end,
every entry it loses is removed once, by an attempt that ignores it or starts it. -/
structure ReplaysKept (c : CoordinatorImp) (worlds : List Worlds) : Prop where
  left : (replayMachine.final c worlds).replaySettings.replayFile <+:
    c.replaySettings.replayFile
  once : ∀ entry, (replayAttempts c worlds).countP (fun a => a.entry = entry ∧ a.removes) =
    if (replayMachine.final c worlds).replaySettings.replayFile.length ≤ entry ∧
      entry < c.replaySettings.replayFile.length then 1 else 0
  removed : ∀ a ∈ replayAttempts c worlds, a.removes = true →
    a.outcome = .ignored ∨ a.outcome = .started

theorem decided_of_mem_replayAttempts {worlds : List Worlds} {c : CoordinatorImp} :
    ∀ a ∈ replayAttempts c worlds, a.Decided := by
  unfold replayAttempts
  induction worlds generalizing c with
  | nil => exact List.forall_mem_nil _
  | cons w worlds ih =>
    rw [Machine.outputs_cons, List.flatten_cons]
    exact List.forall_mem_append.2
      ⟨CoordinatorImp.forall_mem_replayAttempts fun i _ c => c.decided_tryReplay i, ih⟩

/-- Replays are kept exactly when every observer that comes to load one can send a request:
its client expects no response, and has a connection or can make one. -/
theorem replays_kept_iff (c : CoordinatorImp) (worlds : List Worlds) :
    ReplaysKept c worlds ↔
      ∀ a ∈ replayAttempts c worlds, a.ComesToLoad → a.canLoad = true := by
  have huses := uses_updates c worlds
  constructor
  · intro hkept a ha hcomes
    by_contra hcannot
    have hfailed : a.outcome = .failed :=
      (decided_of_mem_replayAttempts a ha).failed.2 ⟨hcomes, Bool.eq_false_iff.2 hcannot⟩
    have hremoves : a.removes = true := by rw [ReplayAttempt.removes, hfailed]; rfl
    rcases hkept.removed a ha hremoves with h | h
    · exact absurd (h.symm.trans hfailed) (by decide)
    · exact absurd (h.symm.trans hfailed) (by decide)
  · intro hcan
    refine ⟨huses.left, huses.consumes.countP_removes, fun a ha hremoves => ?_⟩
    have hne : a.outcome ≠ .failed := by
      intro hfailed
      obtain ⟨hcomes, hcannot⟩ := (decided_of_mem_replayAttempts a ha).failed.1 hfailed
      exact Bool.false_ne_true (hcannot.symm.trans (hcan a ha hcomes))
    unfold ReplayAttempt.removes at hremoves
    generalize a.outcome = outcome at hremoves hne ⊢
    cases outcome with
    | ignored => exact .inl rfl
    | started => exact .inr rfl
    | wrongVersion => cases hremoves
    | failed => exact absurd rfl hne

/-- A game that answers the first ping and hangs; its connection cannot be made again. -/
def hangingWorlds : Worlds where
  observers _ := {
    deliveries := .cons { waiting := [.answer { status := some .launched }] } (.const {})
    connects := .cons true (.const false) }

def oneObserver (files : List String) : CoordinatorImp :=
  coordinatorMachine.final {} [({}, .addReplayObserver 0), ({}, .setReplays files)]

/-- The whole list is dropped by an observer that hangs while it asks for the first
replay's info. -/
theorem replays_dropped :
    (replayMachine.final (oneObserver ["a.SC2Replay", "b.SC2Replay"])
      [hangingWorlds]).replaySettings.replayFile = [] ∧
    (replayAttempts (oneObserver ["a.SC2Replay", "b.SC2Replay"]) [hangingWorlds]).map
      (fun a => (a.entry, a.outcome)) = [(1, .failed), (0, .failed)] ∧
    ¬ ReplaysKept (oneObserver ["a.SC2Replay", "b.SC2Replay"]) [hangingWorlds] := by
  refine ⟨by decide +kernel, by decide +kernel, fun hkept => ?_⟩
  have hall : (replayAttempts (oneObserver ["a.SC2Replay", "b.SC2Replay"])
      [hangingWorlds]).all (fun a => !a.removes || (a.outcome = .ignored || a.outcome = .started))
      = true := by
    rw [List.all_eq_true]
    intro a ha
    cases hremoves : a.removes with
    | false => rfl
    | true => simpa using hkept.removed a ha hremoves
  exact absurd hall (by decide +kernel)

end Sc2Api
