import Sc2Api.Verify.DifferenceRuns

/-!
# Several observations between two deliveries

Every observation overwrites the difference the one before it made, whether it
was delivered or not. `Owed` keeps, beside a client, the events that its
observations call for and that were not delivered yet; `events_delivered` says
when every `IssueEvents` that finds the game loop advanced leaves nothing owed.
-/

namespace Sc2Api

open Lib Difference

/-! ## What is owed -/

/-- The observations of a run so far, the events they call for that no delivery
reported, the game loop last delivered, and whether an observation came since. -/
structure Owed where
  earlier : List Proto.Observation := []
  destroyed : List Tag := []
  created : List Tag := []
  upgrades : List UpgradeID := []
  deliveredLoop : Option GameLoop := none
  pending : Bool := false
  deriving DecidableEq

namespace Owed

/-- The units of the bot that first appear in an observation. -/
def appearing (w : Owed) (o : Proto.Observation) : List Tag :=
  (o.alive.filter fun u => u.isOwn && decide (IsNew (previousUnits w.earlier) u)).map (·.tagD)

/-- The bot still has the unit. -/
def StillOwn (o : Proto.Observation) (t : Tag) : Prop := ∃ u ∈ o.alive, u.isOwn ∧ u.tagD = t

instance (o : Proto.Observation) (t : Tag) : Decidable (StillOwn o t) :=
  inferInstanceAs (Decidable (∃ u ∈ o.alive, u.isOwn ∧ u.tagD = t))

/-- An observation calls for the deaths of known units, for the creation of the
bot's units that appear and are still there at the end, and for the new upgrades. -/
def observe (w : Owed) (o : Proto.Observation) : Owed :=
  { w with
    earlier := w.earlier ++ [o]
    destroyed := w.destroyed ++ o.deadUnits.filter fun t => Seen (w.earlier ++ [o]) t
    created := (w.created ++ w.appearing o).filter fun t => StillOwn o t
    upgrades := w.upgrades ++ o.upgradeIds.filter (· ∉ previousUpgrades w.earlier)
    pending := true }

/-- What is reported is no longer owed. -/
def issue (w : Owed) (log : List Callback) : Owed :=
  { w with
    destroyed := w.destroyed.filter (.onUnitDestroyed · ∉ log)
    created := w.created.filter (.onUnitCreated · ∉ log)
    upgrades := w.upgrades.filter (.onUpgradeCompleted · ∉ log)
    deliveredLoop := if .onStep ∈ log then some (lastLoop w.earlier) else w.deliveredLoop
    pending := w.pending && decide (.onStep ∉ log) }

/-- The game loop moved since the last delivery. -/
def Advanced (w : Owed) : Prop := w.deliveredLoop ≠ some (lastLoop w.earlier)

instance (w : Owed) : Decidable w.Advanced := inferInstanceAs (Decidable (_ ≠ _))

/-- Nothing is owed. -/
def Settled (w : Owed) : Prop := w.destroyed = [] ∧ w.created = [] ∧ w.upgrades = []

instance (w : Owed) : Decidable w.Settled := inferInstanceAs (Decidable (_ ∧ _ ∧ _))

end Owed

/-! ## Runs -/

/-- A step of a run in which observations and deliveries come in any order; an
observation fetched in `OnStep` follows the delivery that made the callback. -/
inductive FetchOp
  | observe (orders : UpdateOrders) (observation : Proto.Observation)
      (response : Proto.ResponseObservation)
  | issue (order : UnitPool.Order) (commands : List Tag)

def FetchOp.op : FetchOp → ClientOp
  | .observe orders o r => .getObservation orders (some (.ofObservation o r))
  | .issue order commands => .issueEvents order commands

/-- Every observation of the step is well formed. -/
def FetchOp.WellFormed : FetchOp → Prop
  | .observe _ o _ => o.WellFormed
  | .issue _ _ => True

instance : DecidablePred FetchOp.WellFormed
  | .observe _ o _ => inferInstanceAs (Decidable o.WellFormed)
  | .issue _ _ => inferInstanceAs (Decidable True)

/-- A client next to what it owes. -/
structure Indebted where
  client : ControlImp
  owed : Owed := {}

namespace Indebted

def initial (answers : List (Option (List Proto.AbilityData))) : Indebted where
  client := .withAnswers answers

def step (s : Indebted) (op : FetchOp) : Indebted × List Callback :=
  let r := Sc2Api.client.step s.client op.op
  match op with
  | .observe _ o _ => (⟨r.1, s.owed.observe o⟩, r.2)
  | .issue _ _ => (⟨r.1, s.owed.issue r.2⟩, r.2)

def machine : Machine Indebted FetchOp (List Callback) := ⟨step⟩

/-- An `IssueEvents` that finds the game loop advanced leaves nothing owed. -/
def Delivers (s : Indebted) : FetchOp → Prop
  | .observe _ _ _ => True
  | .issue order commands =>
    s.owed.Advanced → (s.step (.issue order commands)).1.owed.Settled

instance (s : Indebted) : DecidablePred s.Delivers
  | .observe _ _ _ => inferInstanceAs (Decidable True)
  | .issue _ _ => inferInstanceAs (Decidable (_ → _))

end Indebted

/-! ## The condition -/

namespace EventState

/-- The delivery at hand creates the unit. -/
def creates (σ : EventState) (t : Tag) : Bool :=
  match σ.reap.units t, σ.before t with
  | some now, none => now.alliance = .self
  | _, _ => false

/-- The deaths, creations and upgrades at hand survive an observation: they are in it
again, or the unit is gone, or there are none. -/
def SurvivesIn (σ : EventState) (o : Proto.Observation) : Prop :=
  (∀ t ∈ σ.dead, σ.known t = true → t ∈ o.deadUnits) ∧
    (∀ u ∈ o.alive, u.isOwn = true → σ.creates u.tagD = false) ∧
    ∀ x ∈ σ.upgrades, x ∈ σ.upgradesPrevious

/-- The last observation brought nothing to deliver. -/
def NoNews (σ : EventState) (units : List Proto.Unit) : Prop :=
  (∀ t ∈ σ.dead, σ.known t = false) ∧
    (∀ u ∈ units, u.isOwn = true → σ.creates u.tagD = false) ∧
    ∀ x ∈ σ.upgrades, x ∈ σ.upgradesPrevious

-- The tags and upgrades are machine integers; the instances go through the lists, not
-- through all integers.
instance (σ : EventState) (o : Proto.Observation) : Decidable (σ.SurvivesIn o) :=
  letI := List.decidableBAll (fun t => σ.known t = true → t ∈ o.deadUnits) σ.dead
  letI := List.decidableBAll (· ∈ σ.upgradesPrevious) σ.upgrades
  inferInstanceAs (Decidable (_ ∧ _ ∧ _))

instance (σ : EventState) (units : List Proto.Unit) : Decidable (σ.NoNews units) :=
  letI := List.decidableBAll (fun t => σ.known t = false) σ.dead
  letI := List.decidableBAll (· ∈ σ.upgradesPrevious) σ.upgrades
  inferInstanceAs (Decidable (_ ∧ _ ∧ _))

end EventState

namespace Indebted

/-- An observation finds nothing undelivered that it would overwrite, and an
`IssueEvents` whose delivery is not due finds nothing to deliver. -/
def Keeps (s : Indebted) : FetchOp → Prop
  | .observe _ o _ => s.owed.pending = true → s.client.eventState.SurvivesIn o
  | .issue _ _ => s.owed.pending = true → s.owed.Advanced → ¬s.client.eventState.Due →
      s.client.eventState.NoNews (previousUnits s.owed.earlier)

instance (s : Indebted) : DecidablePred s.Keeps
  | .observe _ _ _ => inferInstanceAs (Decidable (_ → _))
  | .issue _ _ => inferInstanceAs (Decidable (_ → _ → _ → _))

end Indebted

/-! ## The books are kept -/

theorem EventState.creates_iff {σ : EventState} {t : Tag} : σ.creates t = true ↔
    ∃ now, σ.reap.units t = some now ∧ now.alliance = .self ∧ σ.before t = none := by
  unfold EventState.creates
  cases σ.reap.units t <;> cases σ.before t <;> simp

/-- What is owed is at hand: the last observation is the one remembered, and every
event owed is one the next delivery makes. -/
structure Booked (σ : EventState) (w : Owed) : Prop where
  loop : σ.loop = lastLoop w.earlier
  known : ∀ t, σ.known t = true ↔ Seen w.earlier t
  upgrades : σ.upgrades = previousUpgrades w.earlier
  nodup : ((previousUnits w.earlier).map (·.tagD)).Nodup
  units : ∀ t, σ.reap.units t = (Proto.lastWith t (previousUnits w.earlier)).map (·.view)
  unitsKnown : ∀ t, (σ.units t).isSome → σ.known t = true
  /-- Between a delivery and the next observation nothing is owed, and the dead are gone. -/
  settled : w.pending = false → w.Settled ∧ ∀ t, σ.reap.units t = σ.units t
  destroyed : ∀ t ∈ w.destroyed, t ∈ σ.dead ∧ σ.known t = true
  created : ∀ t ∈ w.created, σ.creates t = true
  newUpgrades : ∀ x ∈ w.upgrades, x ∈ σ.upgrades ∧ x ∉ σ.upgradesPrevious

namespace Booked

variable {σ : EventState} {w : Owed} {o : Proto.Observation}

theorem initial : Booked .initial {} where
  loop := rfl
  known t := by simp [EventState.initial, Seen]
  upgrades := rfl
  nodup := List.nodup_nil
  units t := by simp [EventState.initial, EventState.reap, previousUnits, Proto.lastWith]
  unitsKnown t h := by cases h
  settled _ := ⟨⟨rfl, rfl, rfl⟩, fun t => by simp [EventState.initial, EventState.reap]⟩
  destroyed t h := by cases h
  created t h := by cases h
  newUpgrades x h := by cases h

/-- A unit that appears was not remembered: the dead of an undelivered observation
are dead in this one too. -/
theorem units_none_of_appears (h : Booked σ w) (hkeep : w.pending = true → σ.SurvivesIn o)
    {u : Proto.Unit} (hu : u ∈ o.alive) (hnew : IsNew (previousUnits w.earlier) u) :
    σ.units u.tagD = none := by
  have hreap : σ.reap.units u.tagD = none := by
    rw [h.units, Proto.lastWith_eq_none.2 hnew]
    rfl
  cases hp : w.pending with
  | false => rw [← (h.settled hp).2, hreap]
  | true =>
    by_contra hsome
    have hsome : (σ.units u.tagD).isSome := Option.isSome_iff_ne_none.2 hsome
    have hdead : u.tagD ∈ σ.dead := by
      by_contra hd
      simp only [EventState.reap, if_neg hd] at hreap
      rw [hreap] at hsome
      cases hsome
    have halive := (List.mem_filter.1 hu).2
    exact absurd ((hkeep hp).1 _ hdead (h.unitsKnown _ hsome)) (by simpa using halive)

theorem creates_observe (hwf : o.WellFormed) {u : Proto.Unit} (hu : u ∈ o.alive)
    (hown : u.isOwn = true) (hnone : σ.units u.tagD = none) :
    (σ.observe o).creates u.tagD = true := by
  have hview : (Proto.lastWith u.tagD o.alive).map (·.view) = some u.view := by
    rw [(Proto.lastWith_eq_some hwf.alive_nodup).2 ⟨hu, rfl⟩]
    rfl
  rw [EventState.creates_iff, σ.observe_of_complete hwf.complete]
  refine ⟨u.view, ?_, Proto.Unit.view_alliance_self.2 hown, hnone⟩
  simp only [EventState.reap, o.map_view_alive, hview]

/-- An observation keeps the books when what it overwrites survives in it. -/
theorem observe (h : Booked σ w) (hwf : o.WellFormed)
    (hkeep : w.pending = true → σ.SurvivesIn o) : Booked (σ.observe o) (w.observe o) := by
  have hknown : ∀ t, (σ.observe o).known t = true ↔ Seen (w.earlier ++ [o]) t := fun t => by
    rw [σ.observe_of_complete hwf.complete, seen_concat, ← h.known, ← Bool.or_eq_true]
  -- what is owed was at hand before, so it is still there only after an undelivered observation
  have hpending : ¬w.Settled → w.pending = true := fun hn => by
    cases hp : w.pending with
    | false => exact absurd (h.settled hp).1 hn
    | true => rfl
  refine ⟨?_, hknown, ?_, ?_, fun t => ?_, fun t ht => ?_, ?_, fun t ht => ?_, fun t ht => ?_,
    fun x hx => ?_⟩
  · rw [σ.observe_of_complete hwf.complete, Owed.observe, lastLoop_concat]
  · rw [σ.observe_of_complete hwf.complete, Owed.observe, previousUpgrades_concat]
  · rw [Owed.observe, previousUnits_concat]
    exact hwf.alive_nodup
  · rw [σ.observe_of_complete hwf.complete, Owed.observe, previousUnits_concat]
    exact o.map_view_alive t
  · rw [σ.observe_of_complete hwf.complete] at ht
    exact (hknown t).2 (seen_concat.2 (Or.inl ht))
  · intro hp
    cases hp
  · have hdead : (σ.observe o).dead = o.deadUnits := by
      rw [σ.observe_of_complete hwf.complete]
    rw [hdead, hknown]
    rcases List.mem_append.1 ht with hold | hnew
    · obtain ⟨hd, hk⟩ := h.destroyed t hold
      have hp := hpending fun hs => by rw [hs.1] at hold; cases hold
      exact ⟨(hkeep hp).1 t hd hk, seen_concat.2 (Or.inr ((h.known t).1 hk))⟩
    · simpa using hnew
  · obtain ⟨ht, hstill⟩ := List.mem_filter.1 ht
    obtain ⟨u, hu, hown, rfl⟩ := of_decide_eq_true hstill
    rcases List.mem_append.1 ht with hold | hnew
    · have hp := hpending fun hs => by rw [hs.2.1] at hold; cases hold
      exact absurd (h.created _ hold) (by rw [(hkeep hp).2.1 u hu hown]; exact Bool.false_ne_true)
    · obtain ⟨v, hv, hvt⟩ := List.mem_map.1 hnew
      simp only [List.mem_filter, Bool.and_eq_true, decide_eq_true_eq] at hv
      obtain ⟨hva, hvown, hvnew⟩ := hv
      rw [← hvt]
      exact creates_observe hwf hva hvown (h.units_none_of_appears hkeep hva hvnew)
  · have hups : (σ.observe o).upgrades = o.upgradeIds ∧
        (σ.observe o).upgradesPrevious = σ.upgrades := by
      rw [σ.observe_of_complete hwf.complete]
      exact ⟨rfl, rfl⟩
    rw [hups.1, hups.2, h.upgrades]
    rcases List.mem_append.1 hx with hold | hnew
    · have hp := hpending fun hs => by rw [hs.2.2] at hold; cases hold
      obtain ⟨hx, hxn⟩ := h.newUpgrades x hold
      exact absurd ((hkeep hp).2.2 x hx) hxn
    · simpa using hnew

theorem reap_reap (σ : EventState) : σ.reap.reap = σ.reap := by
  unfold EventState.reap
  congr 1
  funext t
  dsimp only
  split <;> rfl

/-- A delivery reports everything that is owed. -/
theorem settled_of_delivered (h : Booked σ w) {order commands : List Tag}
    (lists : σ.reap.Lists order) : (w.issue (σ.callbacks order commands)).Settled := by
  refine ⟨List.filter_eq_nil_iff.2 fun t ht => ?_, List.filter_eq_nil_iff.2 fun t ht => ?_,
    List.filter_eq_nil_iff.2 fun x hx => ?_⟩
  · simpa [EventState.destroyed_mem_callbacks lists] using h.destroyed t ht
  · have hcreates := EventState.creates_iff.1 (h.created t ht)
    simpa [EventState.created_mem_callbacks lists] using hcreates
  · simpa [EventState.upgrade_mem_callbacks lists] using h.newUpgrades x hx

/-- A skipped delivery changes nothing. -/
theorem issue_nil (w : Owed) : w.issue [] = w := by
  simp [Owed.issue]

/-- Where there is no news, nothing is owed. -/
theorem settled_of_noNews (h : Booked σ w)
    (hnews : w.pending = true → σ.NoNews (previousUnits w.earlier)) : w.Settled := by
  cases hp : w.pending with
  | false => exact (h.settled hp).1
  | true =>
    obtain ⟨hdead, hunits, hupgrades⟩ := hnews hp
    refine ⟨List.eq_nil_iff_forall_not_mem.2 fun t ht => ?_,
      List.eq_nil_iff_forall_not_mem.2 fun t ht => ?_,
      List.eq_nil_iff_forall_not_mem.2 fun x hx => ?_⟩
    · obtain ⟨hd, hk⟩ := h.destroyed t ht
      exact absurd hk (by rw [hdead t hd]; exact Bool.false_ne_true)
    · have hcreates := h.created t ht
      obtain ⟨now, hnow, hself, -⟩ := EventState.creates_iff.1 hcreates
      rw [h.units] at hnow
      obtain ⟨u, hu, rfl⟩ := Option.map_eq_some_iff.1 hnow
      obtain ⟨hmem, rfl⟩ := (Proto.lastWith_eq_some h.nodup).1 hu
      rw [hunits u hmem (Proto.Unit.view_alliance_self.1 hself)] at hcreates
      cases hcreates
    · obtain ⟨hx, hn⟩ := h.newUpgrades x hx
      exact hn (hupgrades x hx)

/-- Issuing events keeps the books. -/
theorem issue (h : Booked σ w) {commands : List Tag} {log : List Callback} {σ' : EventState}
    (hissues : σ.Issues commands log σ') : Booked σ' (w.issue log) := by
  cases hissues with
  | delivered due order lists =>
    have hsettled : (w.issue (σ.callbacks _ commands)).Settled := h.settled_of_delivered lists
    refine ⟨h.loop, h.known, h.upgrades, h.nodup, fun t => ?_, fun t ht => ?_, fun _ => ?_, ?_, ?_,
      ?_⟩
    · rw [reap_reap]
      exact h.units t
    · refine h.unitsKnown t ?_
      unfold EventState.reap at ht
      dsimp only at ht
      split at ht
      · cases ht
      · exact ht
    · exact ⟨hsettled, fun t => by rw [reap_reap]⟩
    · rw [hsettled.1]
      exact fun t ht => by cases ht
    · rw [hsettled.2.1]
      exact fun t ht => by cases ht
    · rw [hsettled.2.2]
      exact fun x hx => by cases hx
  | skipped notDue =>
    rw [issue_nil]
    exact h

/-- An `IssueEvents` that keeps the events at hand leaves nothing owed. -/
theorem settled_issue (h : Booked σ w) {commands : List Tag} {log : List Callback} {σ' : EventState}
    (hissues : σ.Issues commands log σ')
    (hkeep : w.pending = true → ¬σ.Due → σ.NoNews (previousUnits w.earlier)) :
    (w.issue log).Settled := by
  cases hissues with
  | delivered due order lists => exact h.settled_of_delivered lists
  | skipped notDue =>
    rw [issue_nil]
    exact h.settled_of_noNews fun hp => hkeep hp notDue

end Booked

/-! ## The theorem -/

/-- A client in order whose books are kept. -/
structure Indebted.InOrder (s : Indebted) : Prop where
  ready : s.client.Ready
  booked : Booked s.client.eventState s.owed

theorem Indebted.InOrder.step {s : Indebted} (h : s.InOrder) {op : FetchOp} (hwf : op.WellFormed)
    (hkeep : s.Keeps op) : (s.step op).1.InOrder := by
  have hready := h.ready.step op.op
  cases op with
  | observe orders o r =>
    obtain ⟨-, -, hstate⟩ := getObservation_spec h.ready.appState h.ready.tagged orders o r
    refine ⟨hready, ?_⟩
    show Booked (s.client.getObservation orders (some (.ofObservation o r))).2.eventState _
    rw [hstate]
    exact h.booked.observe hwf hkeep
  | issue order commands =>
    obtain ⟨-, -, hissues⟩ := issueEvents_spec h.ready.tagged order commands
    exact ⟨hready, h.booked.issue hissues⟩

/-- In every run of well-formed observations and deliveries that keeps the events at
hand, every `IssueEvents` that finds the game loop advanced leaves nothing owed. -/
theorem events_delivered (answers : List (Option (List Proto.AbilityData))) (ops : List FetchOp)
    (hwf : ∀ op ∈ ops, op.WellFormed)
    (hkeeps : Indebted.machine.Along Indebted.Keeps (.initial answers) ops) :
    Indebted.machine.Along Indebted.Delivers (.initial answers) ops := by
  have hboth := (Machine.along_of_mem (m := Indebted.machine) hwf (.initial answers)).and hkeeps
  have hinit : (Indebted.initial answers).InOrder := ⟨.initial answers, .initial⟩
  refine (Machine.Along.strengthen (fun s op h hop => h.step hop.1 hop.2) hinit hboth).imp ?_
  rintro s op ⟨h, -, hkeep⟩
  cases op with
  | observe => trivial
  | issue order commands =>
    intro hadvanced
    obtain ⟨-, -, hissues⟩ := issueEvents_spec h.ready.tagged order commands
    exact h.booked.settled_issue hissues fun hp => hkeep hp hadvanced

/-- An observation fetched in `OnStep` that the next one repeats loses nothing. -/
theorem events_delivered_after_quiet_fetch : Indebted.machine.Along Indebted.Delivers
  (.initial [some [{ abilityId := some 16 }]]) [
    .observe {} (.full 1 [.idleOwn 7] [] []) {}, .issue default [],
    .observe {} (.full 2 [.idleOwn 7] [] []) {},
    .observe {} (.full 3 [.idleOwn 7, .idleOwn 8] [] [5]) {}, .issue default []] :=
  events_delivered _ _ (by decide) (by decide +kernel)

/-- A unit that appears in an observation fetched in `OnStep` is never created when
the next observation contains it too. -/
theorem creation_lost_by_fetch : ¬∀ answers (ops : List FetchOp), (∀ op ∈ ops, op.WellFormed) →
    Indebted.machine.Along Indebted.Delivers (.initial answers) ops := by
  intro h
  have hrun := h [] [
    .observe {} (.full 1 [] [] []) {}, .issue default [],
    .observe {} (.full 2 [.idleOwn 7] [] []) {},
    .observe {} (.full 3 [.idleOwn 7] [] []) {}, .issue default []] (by decide)
  exact absurd hrun (by decide +kernel)

end Sc2Api
