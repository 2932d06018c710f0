import Sc2Api.Lib.Reports
import Sc2Api.Verify.ObserverRuns
import Sc2Api.Verify.ReplayRuns

/-!
# Frames of a replay

A replay observer is told of a frame when it is new and the replay is running. What
`IssueEvents` looks at are the two last game loops, whether or not an observation came
in since it looked the last time.
-/

namespace Sc2Api

open Lib

/-! ## What is promised -/

/-- What happens to an observer: it receives an observation, or a callback is made. -/
inductive ObserverMark
  | observation
  | event (event : ClientEvent)
  deriving DecidableEq

/-- What follows from it: there is a frame to be told, or the replay is over. -/
inductive ObserverFact
  | frame
  | over

namespace ObserverMark

/-- The callbacks of one `IssueEvents`, with `OnStep`. -/
def isFrame : ObserverMark → Bool
  | event (.events _) => true
  | _ => false

def reports : ObserverMark → ObserverFact → Bool
  | observation, .frame => true
  | event .onGameEnd, .over => true
  | _, _ => false

def loses : ObserverMark → ObserverFact → Bool
  | event (.events _), .frame => true
  | event .onGameStart, .over => true
  | _, _ => false

end ObserverMark

/-- The fact follows from the past. -/
def Stands (past : List ObserverMark) (x : ObserverFact) : Prop :=
  Told (fun a x => ObserverMark.reports a x = true) (fun a x => ObserverMark.loses a x = true)
    past x

instance (past : List ObserverMark) (x : ObserverFact) : Decidable (Stands past x) :=
  decidableTold past

/-- Every delivery is of an observation that came in after the one before, and while the
replay is running. -/
def FramesTold (past trace : List ObserverMark) : Prop :=
  Each (·.isFrame = true) (fun past => Stands past .frame ∧ ¬Stands past .over) past trace

/-- The callbacks an observer has seen. -/
def ReplayObserver.past (r : ReplayObserver) : List ObserverMark := r.events.map .event

/-- What happens to an observer in an update. Observations are only received before the
callbacks of `IssueEvents`. -/
def CoordinatorImp.observerMarks (c : CoordinatorImp) (i : ObserverId) : List ObserverMark :=
  List.replicate ((c.updateAgents.updateObservers.observerOf i).control.observations -
      (c.observerOf i).control.observations) .observation ++
    ((c.update.2.observerOf i).events.drop (c.observerOf i).events.length).map .event

/-- A coordinator that is updated, with what happens to one of its observers. -/
def markMachine (i : ObserverId) : Machine CoordinatorImp Worlds (List ObserverMark) where
  step c w := ((c.inWorlds w).update.2, (c.inWorlds w).observerMarks i)

/-! ## The condition -/

namespace CoordinatorImp

/-- `IssueEvents` is called in the pass, and finds two different game loops. -/
def Issues (settings : ProcessSettings) (several : Bool) (r : ReplayObserver) : Prop :=
  if settings.multiThreaded then
    Steps several r ∧ (advance settings.realtime (awaited several r)).Due
  else (run settings several r).control.appState = .normal ∧ (run settings several r).Due

instance (settings : ProcessSettings) (several : Bool) (r : ReplayObserver) :
    Decidable (Issues settings several r) :=
  inferInstanceAs (Decidable (if settings.multiThreaded then _ ∧ _ else _ ∧ _))

/-- The observation of `OnGameStart`, or that of the step, was asked for and received. -/
def Answered (settings : ProcessSettings) (several : Bool) (r : ReplayObserver) : Prop :=
  ((awaited several r).events.length ≠ r.events.length ∧
    (loaded several r).reported.isSome = true) ∨
  (Steps several r ∧ if settings.realtime then (awaited several r).control.reported.isSome = true
    else (awaited several r).control.StepAnswered)

instance (settings : ProcessSettings) (several : Bool) (r : ReplayObserver) :
    Decidable (Answered settings several r) :=
  inferInstanceAs (Decidable ((_ ∧ _) ∨ (_ ∧ if settings.realtime then _ = _ else _)))

/-- An observer is only stepped in a replay it has seen the start of. -/
def Started (several : Bool) (r : ReplayObserver) : Prop :=
  Steps several r → ¬Stands (awaited several r).past .over

instance (several : Bool) (r : ReplayObserver) : Decidable (Started several r) :=
  inferInstanceAs (Decidable (_ → _))

/-- Without threads, the replay is still running after its step. -/
def Continues (settings : ProcessSettings) (several : Bool) (r : ReplayObserver) : Prop :=
  settings.multiThreaded = false → Steps several r →
    (advance settings.realtime (awaited several r)).control.isInGame = true

instance (settings : ProcessSettings) (several : Bool) (r : ReplayObserver) :
    Decidable (Continues settings several r) :=
  inferInstanceAs (Decidable (_ → _ → _))

/-- When events are issued in an update, the observer is on the list once, its requests
are answered, and its replay was started and continues. -/
def IssuesNewFrames (i : ObserverId) (c : CoordinatorImp) : Prop :=
  c.RunsObservers → i ∈ c.replayObservers →
    c.replayObservers.count i = 1 ∧
    (Issues c.processSettings (1 < c.replayObservers.length) (c.observerOf i) →
      Answered c.processSettings (1 < c.replayObservers.length) (c.observerOf i) ∧
      Started (1 < c.replayObservers.length) (c.observerOf i) ∧
      Continues c.processSettings (1 < c.replayObservers.length) (c.observerOf i))

instance (i : ObserverId) (c : CoordinatorImp) : Decidable (c.IssuesNewFrames i) :=
  inferInstanceAs (Decidable (_ → _ → _ ∧ (_ → _ ∧ _ ∧ _)))

/-! ## Observations in a pass -/

variable {settings : ProcessSettings} {several : Bool} {r : ReplayObserver}

theorem observations_loaded (several : Bool) (r : ReplayObserver) :
    r.control.observations ≤ (loaded several r).observations := by
  unfold loaded
  split
  · refine Nat.le_trans ?_ Control.le_observations_waitForResponse
    rw [observations_pollResponse]
  · exact Control.le_observations_waitForResponse

theorem observations_awaited (several : Bool) (r : ReplayObserver) :
    r.control.observations ≤ (awaited several r).control.observations := by
  rcases awaited_cases several r with ⟨-, hle⟩ | hstarted
  · exact hle
  · rw [hstarted]
    refine Nat.le_trans ?_ (ReplayObserver.callback_observations_le _)
    exact (observations_loaded several r).trans Control.getObservation_talks.observations_le

theorem observations_advance (settings : ProcessSettings) (r : ReplayObserver) :
    r.control.observations ≤ (advance settings.realtime r).control.observations := by
  unfold advance
  dsimp only
  split
  · exact Control.getObservation_talks.observations_le
  · exact Control.le_observations_waitStep

theorem observations_ran (settings : ProcessSettings) (several : Bool) (r : ReplayObserver) :
    (advance settings.realtime (awaited several r)).control.observations ≤
      (ran settings several r).control.observations := by
  unfold ran
  split
  · exact (ReplayObserver.tell_talks _ _).observations_le
  · exact Nat.le_refl _

theorem observations_run_of_steps (h : Steps several r) :
    (advance settings.realtime (awaited several r)).control.observations ≤
      (run settings several r).control.observations := by
  refine (observations_ran settings several r).trans ?_
  rw [run_of_steps h]
  split
  · exact ReplayObserver.callback_observations_le _
  · exact Nat.le_refl _

theorem observations_run (settings : ProcessSettings) (several : Bool) (r : ReplayObserver) :
    (awaited several r).control.observations ≤ (run settings several r).control.observations := by
  by_cases h : Steps several r
  · exact (observations_advance settings _).trans (observations_run_of_steps h)
  · rw [run_of_not_steps h]

theorem observations_pass (settings : ProcessSettings) (several : Bool) (r : ReplayObserver) :
    (run settings several r).control.observations ≤
      (pass settings several r).control.observations := by
  unfold pass
  split
  · exact Nat.le_refl _
  · rw [call_eq]
    split
    · exact Nat.le_refl _
    · exact (ReplayObserver.tell_talks _ (run settings several r).drained).observations_le

/-- An answer is an observation that the pass receives. -/
theorem Answered.received (h : Answered settings several r) :
    r.control.observations < (pass settings several r).control.observations := by
  refine Nat.lt_of_lt_of_le ?_ (observations_pass settings several r)
  rcases h with ⟨hstart, hreported⟩ | ⟨hsteps, hanswered⟩
  · refine Nat.lt_of_lt_of_le ?_ (observations_run settings several r)
    rcases awaited_cases several r with ⟨hsame, -⟩ | hstarted
    · exact absurd (congrArg List.length hsame) hstart
    · rw [hstarted]
      refine Nat.lt_of_lt_of_le ?_ (ReplayObserver.callback_observations_le _)
      exact Nat.lt_of_le_of_lt (observations_loaded several r)
        (Control.observations_getObservation hreported)
  · refine Nat.lt_of_lt_of_le ?_ (observations_run_of_steps hsteps)
    refine Nat.lt_of_le_of_lt (observations_awaited several r) ?_
    unfold advance
    dsimp only
    split at hanswered
    next hrealtime =>
      rw [if_pos hrealtime]
      exact Control.observations_getObservation hanswered
    next hstepping =>
      rw [if_neg hstepping]
      exact Control.observations_waitStep_of_answered hanswered

/-! ## Callbacks in a pass -/

/-- None of the callbacks are those of `IssueEvents`. -/
def Silent (events : List ClientEvent) : Prop :=
  ∀ e ∈ events, (ObserverMark.event e).isFrame = false

theorem events_awaited (several : Bool) (r : ReplayObserver) :
    ∃ start, (awaited several r).events = r.events ++ start ∧
      (start = [] ∨ start = [.onGameStart]) := by
  rcases awaited_cases several r with ⟨hsame, -⟩ | hstarted
  · exact ⟨[], by rw [hsame, List.append_nil], .inl rfl⟩
  · exact ⟨[.onGameStart], by rw [hstarted]; rfl, .inr rfl⟩

theorem events_run_of_steps (settings : ProcessSettings) (h : Steps several r) :
    ∃ ending, (run settings several r).events = (ran settings several r).events ++ ending ∧
      Silent ending ∧ ((ran settings several r).control.isInGame = true → ending = []) := by
  rw [run_of_steps h]
  cases hin : (ran settings several r).control.isInGame with
  | true => exact ⟨[], by simp, by simp [Silent], fun _ => rfl⟩
  | false => exact ⟨[.onGameEnd], rfl, by simp [Silent, ObserverMark.isFrame], nofun⟩

theorem events_tell_cases (realtime : Bool) (r : ReplayObserver) :
    (¬r.Due ∧ (r.tell realtime).events = r.events) ∨
      (r.Due ∧ ∃ callbacks, (r.tell realtime).events = r.events ++ [.events callbacks]) := by
  rw [ReplayObserver.events_tell]
  by_cases hdue : r.Due
  · exact .inr ⟨hdue, ReplayObserver.events_issueEvents_of_due hdue⟩
  · exact .inl ⟨hdue, ReplayObserver.events_issueEvents_of_not_due hdue⟩

/-- With threads, `IssueEvents` comes before the replay can be found to be over. -/
theorem events_run_threads (hthreads : settings.multiThreaded = true)
    (hsteps : Steps several r) :
    ∃ rest, (run settings several r).events = (awaited several r).events ++ rest ∧
      (Silent rest ∨ ∃ callbacks ending, rest = .events callbacks :: ending ∧ Silent ending ∧
        (advance settings.realtime (awaited several r)).Due) := by
  obtain ⟨ending, hrun, hending, -⟩ := events_run_of_steps settings hsteps
  have hran : (ran settings several r).events =
      ((advance settings.realtime (awaited several r)).tell settings.realtime).events := by
    unfold ran
    rw [if_pos hthreads]
  rcases events_tell_cases settings.realtime
    (advance settings.realtime (awaited several r)) with ⟨-, htell⟩ | ⟨hdue, callbacks, htell⟩
  · exact ⟨ending, hrun.trans (by rw [hran, htell]; rfl), .inl hending⟩
  · refine ⟨.events callbacks :: ending, hrun.trans ?_,
      .inr ⟨callbacks, ending, rfl, hending, hdue⟩⟩
    rw [hran, htell, List.append_assoc]
    rfl

/-- Without threads, the first loop only finds out that the replay is over. -/
theorem events_run_one (several : Bool) (r : ReplayObserver)
    (hone : settings.multiThreaded = false) :
    ∃ ending, (run settings several r).events = (awaited several r).events ++ ending ∧
      Silent ending ∧ ((Steps several r →
        (advance settings.realtime (awaited several r)).control.isInGame = true) →
          ending = []) := by
  by_cases hsteps : Steps several r
  · obtain ⟨ending, hrun, hending, hnone⟩ := events_run_of_steps settings hsteps
    have hran : ran settings several r = advance settings.realtime (awaited several r) := by
      unfold ran
      rw [hone]
      rfl
    rw [hran] at hrun hnone
    exact ⟨ending, hrun, hending, fun hin => hnone (hin hsteps)⟩
  · rw [run_of_not_steps hsteps]
    exact ⟨[], (List.append_nil _).symm, by simp [Silent], fun _ => rfl⟩

/-- The callbacks of `IssueEvents` are made at most once in a pass. -/
theorem events_pass (settings : ProcessSettings) (several : Bool) (r : ReplayObserver)
    (hcontinues : Issues settings several r → Continues settings several r) :
    ∃ rest, (pass settings several r).events = (awaited several r).events ++ rest ∧
      (Silent rest ∨ ∃ callbacks ending, rest = .events callbacks :: ending ∧ Silent ending ∧
        Issues settings several r) := by
  have hsilent : Silent [] := by simp [Silent]
  unfold Issues Continues at hcontinues
  unfold pass Issues
  cases hmode : settings.multiThreaded with
  | true =>
    simp only [if_true]
    by_cases hsteps : Steps several r
    · obtain ⟨rest, hrun, hrest⟩ := events_run_threads hmode hsteps
      refine ⟨rest, hrun, hrest.imp_right ?_⟩
      rintro ⟨callbacks, ending, rfl, hending, hdue⟩
      exact ⟨callbacks, ending, rfl, hending, hsteps, hdue⟩
    · refine ⟨[], ?_, .inl hsilent⟩
      rw [run_of_not_steps hsteps, List.append_nil]
      rfl
  | false =>
    simp only [hmode, Bool.false_eq_true, if_false, true_implies] at hcontinues ⊢
    obtain ⟨ending, hrun, hending, hnone⟩ := events_run_one several r hmode
    rw [call_eq]
    split
    · exact ⟨ending, hrun, .inl hending⟩
    next happ =>
      rcases events_tell_cases settings.realtime (run settings several r).drained with
        ⟨-, htell⟩ | ⟨hdue, callbacks, htell⟩
      · exact ⟨ending, htell.trans hrun, .inl hending⟩
      · have hissues : (run settings several r).control.appState = .normal ∧
            (run settings several r).Due := ⟨not_not.1 happ, hdue⟩
        refine ⟨[.events callbacks], htell.trans ?_,
          .inr ⟨callbacks, [], rfl, hsilent, hissues⟩⟩
        rw [hnone (hcontinues hissues), List.append_nil] at hrun
        exact congrArg (· ++ _) hrun

theorem not_over_awaited (hanswered : Answered settings several r) (hstarted : Started several r) :
    ¬Stands (awaited several r).past .over := by
  by_cases hsteps : Steps several r
  · exact hstarted hsteps
  · rcases hanswered with ⟨hstart, -⟩ | ⟨hsteps', -⟩
    · obtain ⟨start, hevents, rfl | rfl⟩ := events_awaited several r
      · rw [List.append_nil] at hevents
        exact absurd (congrArg List.length hevents) hstart
      · unfold ReplayObserver.past Stands
        rw [hevents, List.map_append, List.map_singleton, told_concat]
        simp [ObserverMark.reports, ObserverMark.loses]
    · exact absurd hsteps' hsteps

/-- An observer is told of no frame, or of one that it may be told of. -/
def Tells (r r' : ReplayObserver) : Prop :=
  ∃ events, r'.events = r.events ++ events ∧
    (Silent events ∨ ∃ start callbacks ending, events = start ++ .events callbacks :: ending ∧
      Silent start ∧ Silent ending ∧ r.control.observations < r'.control.observations ∧
      ¬Stands (r.past ++ start.map .event) .over)

theorem Tells.refl (r : ReplayObserver) : Tells r r :=
  ⟨[], (List.append_nil _).symm, .inl (by simp [Silent])⟩

theorem tells_pass (h : Issues settings several r → Answered settings several r ∧
    Started several r ∧ Continues settings several r) : Tells r (pass settings several r) := by
  obtain ⟨start, hstart, hwhich⟩ := events_awaited several r
  have hquiet : Silent start := by
    rcases hwhich with rfl | rfl <;> simp [Silent, ObserverMark.isFrame]
  obtain ⟨rest, hevents, hrest⟩ := events_pass settings several r fun hissues => (h hissues).2.2
  refine ⟨start ++ rest, by rw [hevents, hstart, List.append_assoc], ?_⟩
  rcases hrest with hrest | ⟨callbacks, ending, rfl, hending, hissues⟩
  · exact .inl (List.forall_mem_append.2 ⟨hquiet, hrest⟩)
  · obtain ⟨hanswered, hstarted, -⟩ := h hissues
    refine .inr ⟨start, callbacks, ending, rfl, hquiet, hending, hanswered.received, ?_⟩
    have hover := not_over_awaited hanswered hstarted
    unfold ReplayObserver.past at hover ⊢
    rwa [hstart, List.map_append] at hover

end CoordinatorImp

/-! ## Marks -/

/-- Observations do not end or start a replay. -/
theorem stands_over_append {past past' : List ObserverMark}
    (h : Stands past .over ↔ Stands past' .over) (n : Nat) (events : List ObserverMark) :
    Stands (past ++ (List.replicate n .observation ++ events)) .over ↔
      Stands (past' ++ events) .over := by
  have hnone : ¬Stands (List.replicate n .observation) .over := by
    apply not_told_of_none
    intro a ha
    rw [List.eq_of_mem_replicate ha]
    simp [ObserverMark.reports]
  have hkept : ∀ a ∈ List.replicate n ObserverMark.observation, ¬a.loses .over = true := by
    intro a ha
    rw [List.eq_of_mem_replicate ha]
    simp [ObserverMark.loses]
  unfold Stands at h hnone ⊢
  rw [told_append, told_append, told_append, h, List.forall_mem_append]
  constructor
  · rintro ((htold | ⟨hreplicate, -⟩) | ⟨htold, -, hrest⟩)
    · exact .inl htold
    · exact absurd hreplicate hnone
    · exact .inr ⟨htold, hrest⟩
  · rintro (htold | ⟨htold, hrest⟩)
    · exact .inl (.inl htold)
    · exact .inr ⟨htold, hkept, hrest⟩

/-- An observation, and then no callbacks of `IssueEvents`. -/
theorem stands_frame_append {n : Nat} (hn : 0 < n) {events : List ClientEvent}
    (hsilent : CoordinatorImp.Silent events) (past : List ObserverMark) :
    Stands (past ++ (List.replicate n .observation ++ events.map .event)) .frame := by
  obtain ⟨n, rfl⟩ := Nat.exists_eq_succ_of_ne_zero (Nat.ne_of_gt hn)
  refine told_append.2 (.inl (told_append.2 (.inr ⟨?_, ?_⟩)))
  · exact ⟨List.replicate n .observation, .observation, [], List.replicate_succ', rfl, by simp⟩
  · intro a ha
    obtain ⟨e, he, rfl⟩ := List.mem_map.1 ha
    have hframe := hsilent e he
    cases e <;> simp_all [ObserverMark.loses, ObserverMark.isFrame]

theorem framesTold_silent {past : List ObserverMark} (n : Nat) {events : List ClientEvent}
    (hsilent : CoordinatorImp.Silent events) :
    FramesTold past (List.replicate n .observation ++ events.map .event) := by
  apply Each.of_none
  intro a ha
  rcases List.mem_append.1 ha with ha | ha
  · rw [List.eq_of_mem_replicate ha]
    simp [ObserverMark.isFrame]
  · obtain ⟨e, he, rfl⟩ := List.mem_map.1 ha
    simp [hsilent e he]

/-- One delivery, of an observation that was received. -/
theorem framesTold_delivery {past : List ObserverMark} {n : Nat} (hn : 0 < n)
    {start ending : List ClientEvent} (callbacks : List Callback)
    (hstart : CoordinatorImp.Silent start) (hending : CoordinatorImp.Silent ending)
    (hrunning : ¬Stands (past ++ (List.replicate n .observation ++ start.map .event)) .over) :
    FramesTold past (List.replicate n .observation ++
      (start ++ .events callbacks :: ending).map .event) := by
  have hsplit : List.replicate n ObserverMark.observation ++
      (start ++ .events callbacks :: ending).map ObserverMark.event =
        (List.replicate n .observation ++ start.map .event) ++
          ([.event (.events callbacks)] ++ (List.replicate 0 .observation ++
            ending.map .event)) := by simp
  have hdelivery : FramesTold (past ++ (List.replicate n .observation ++ start.map .event))
      [.event (.events callbacks)] :=
    Each.one ⟨stands_frame_append hn hstart past, hrunning⟩
  rw [hsplit]
  exact Each.append (framesTold_silent n hstart)
    (Each.append hdelivery (framesTold_silent 0 hending))

/-! ## Updates -/

namespace CoordinatorImp

variable {c : CoordinatorImp} {i : ObserverId}

/-- The end of an update calls nothing but `OnError` on an observer. -/
theorem events_update (c : CoordinatorImp) (i : ObserverId) : ∃ errors,
    (c.update.2.observerOf i).events =
      (c.updateAgents.updateObservers.observerOf i).events ++ errors ∧
    ∀ e ∈ errors, e = .onError := by
  have hclients : c.updateAgents.updateObservers.Tends c.updateClients := by
    unfold updateClients
    dsimp only
    split
    · exact tends_startReplay
    · exact .refl
  have hfailed := sameObservers_foldl (c := c.updateClients) c.updateClients.failedAgents
    (·.callback .onError)
  obtain ⟨errors, hevents, herrors⟩ := hclients.events i
  obtain ⟨errors', hevents', herrors'⟩ := c.tends_checkErrors.events i
  refine ⟨errors ++ errors', ?_, List.forall_mem_append.2 ⟨herrors, herrors'⟩⟩
  rw [hevents', hfailed.observerOf, hevents, List.append_assoc]

theorem silent_of_errors {errors : List ClientEvent} (h : ∀ e ∈ errors, e = .onError) :
    Silent errors := by
  intro e he
  rw [h e he]
  rfl

theorem tells_updateObservers (h : c.IssuesNewFrames i) :
    Tells (c.observerOf i) (c.updateAgents.updateObservers.observerOf i) := by
  have hsame := sameObservers_updateAgents (c := c)
  have hruns : c.updateAgents.RunsObservers ↔ c.RunsObservers := by
    unfold RunsObservers
    rw [hsame.replayObservers, hsame.starcraftStarted]
  have hcount : c.updateAgents.replayObservers.count i = c.replayObservers.count i := by
    rw [hsame.replayObservers]
  rw [← hsame.observerOf]
  by_cases hr : c.RunsObservers
  · by_cases hi : i ∈ c.replayObservers
    · obtain ⟨hone, hnew⟩ := h hr hi
      rw [observerOf_updateObservers (hruns.2 hr) (hcount.trans hone), hsame.processSettings,
        hsame.replayObservers, hsame.observerOf]
      exact tells_pass hnew
    · rw [observerOf_updateObservers_of_not_mem (hcount.trans (List.count_eq_zero.2 hi))]
      exact .refl _
  · rw [updateObservers_of_not_runs (mt hruns.1 hr)]
    exact .refl _

/-- The marks of one update are as promised, and tell whether the replay is over. -/
theorem framesTold_observerMarks (h : c.IssuesNewFrames i) {past : List ObserverMark}
    (hpast : Stands past .over ↔ Stands (c.observerOf i).past .over) :
    FramesTold past (c.observerMarks i) ∧
      (Stands (past ++ c.observerMarks i) .over ↔ Stands (c.update.2.observerOf i).past .over) := by
  obtain ⟨events, hevents, hcases⟩ := tells_updateObservers h
  obtain ⟨errors, hupdate, herrors⟩ := c.events_update i
  have hall : (c.update.2.observerOf i).events =
      (c.observerOf i).events ++ (events ++ errors) := by
    rw [hupdate, hevents, List.append_assoc]
  unfold observerMarks
  rw [hall, List.drop_left]
  constructor
  · rcases hcases with hsilent | ⟨start, callbacks, ending, rfl, hstart, hending, hlt, hover⟩
    · exact framesTold_silent _ (List.forall_mem_append.2 ⟨hsilent, silent_of_errors herrors⟩)
    · rw [List.append_assoc, List.cons_append]
      refine framesTold_delivery (Nat.sub_pos_of_lt hlt) callbacks hstart
        (List.forall_mem_append.2 ⟨hending, silent_of_errors herrors⟩) ?_
      rwa [stands_over_append hpast]
  · rw [stands_over_append hpast]
    unfold ReplayObserver.past
    rw [hall]
    simp only [List.map_append]

end CoordinatorImp

theorem framesTold_marks {i : ObserverId} (c : CoordinatorImp) (worlds : List Worlds)
    (h : (markMachine i).Along (fun c w => (c.inWorlds w).IssuesNewFrames i) c worlds)
    {past : List ObserverMark} (hpast : Stands past .over ↔ Stands (c.observerOf i).past .over) :
    FramesTold past ((markMachine i).outputs c worlds).flatten := by
  induction worlds generalizing c past with
  | nil => exact Each.of_none (by simp)
  | cons w worlds ih =>
    obtain ⟨hfirst, hrest⟩ := h
    obtain ⟨htold, hover⟩ := CoordinatorImp.framesTold_observerMarks
      (c := c.inWorlds w) hfirst hpast
    rw [Machine.outputs_cons, List.flatten_cons]
    exact htold.append (ih _ hrest hover)

/-- In every run of updates in which events are only issued for new frames of a running
replay, every observer is told at most once of an observation, and not after the end. -/
theorem frames_told_once (c : CoordinatorImp) (worlds : List Worlds) (i : ObserverId)
    (h : (markMachine i).Along (fun c w => (c.inWorlds w).IssuesNewFrames i) c worlds) :
    FramesTold (c.observerOf i).past ((markMachine i).outputs c worlds).flatten :=
  framesTold_marks c worlds h Iff.rfl

/-! ## One replay -/

/-- A game that answers everything, with one status, and observations at one loop. -/
def replayWorlds (status : Status) (loop : GameLoop) : Worlds where
  observers _ := { deliveries := .const { waiting := [.answer {
    status := some status
    observation := { observation := some (.full loop [.idleOwn 1] [] []) } }] } }

/-- An observer that is about to load a replay. -/
def waitingObserver (settings : ProcessSettings) : CoordinatorImp :=
  coordinatorMachine.final {} [({}, .configure settings), ({}, .addReplayObserver 0),
    ({}, .setReplays ["a.SC2Replay"])]

/-- A replay that is loaded, started, stepped twice and over, and an update after it. -/
def replayOnce : List Worlds :=
  [replayWorlds .launched 0, replayWorlds .inReplay 1, replayWorlds .inReplay 2,
    replayWorlds .ended 3, replayWorlds .ended 3]

/-- With threads, two frames are told, and then the end. -/
theorem frames_told_once_threads :
    FramesTold ((waitingObserver { multiThreaded := true }).observerOf 0).past
      ((markMachine 0).outputs (waitingObserver { multiThreaded := true }) replayOnce).flatten ∧
    ((markMachine 0).outputs (waitingObserver { multiThreaded := true })
      replayOnce).flatten.countP (·.isFrame) = 2 :=
  ⟨frames_told_once _ _ 0 (by decide +kernel), by decide +kernel⟩

/-- Without threads, the last frame is told after the end, and again in the update
after it, in which nothing is received. -/
theorem frames_told_again : [false, true].Forall fun realtime =>
    ((markMachine 0).outputs (waitingObserver { realtime }) replayOnce).map
      (·.map (·.isFrame)) =
        [[], [false, false, false], [false, true], [false, false, true], [true]] ∧
    ¬ FramesTold ((waitingObserver { realtime }).observerOf 0).past
      ((markMachine 0).outputs (waitingObserver { realtime }) replayOnce).flatten := by
  refine List.forall_iff_forall_mem.2 fun realtime _ => ⟨?_, fun htold => ?_⟩
  · cases realtime <;> decide +kernel
  · obtain ⟨mark, hmark, hlast⟩ : ∃ mark, (((markMachine 0).outputs
        (waitingObserver { realtime }) replayOnce).flatten)[8]? = some mark ∧
          mark.isFrame = true := by
      rw [← Option.any_eq_true]
      cases realtime <;> decide +kernel
    have hframe := (htold.of_getElem? hmark hlast).1
    revert hframe
    cases realtime <;> decide +kernel

end Sc2Api
