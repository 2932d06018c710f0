import Mathlib.Tactic.Push
import Sc2Api.Lib.Lists

/-!
# Reports that are not repeated

The entries of a trace report things and lose things. `Told` says that something
was reported and not lost since; `NoRepeat` that nothing is reported again
unless it was lost in between. Both are followed along a trace entry by entry.
`Each` asks of every entry of a kind that what came before it allows it.

A `Snapshot` is the memory of a reporter of differences: what is there now and
what was there before. It takes in pictures, some of them partial, and reports
what is new when a report is due. `Ledger` is the invariant that says what it
told, and `Ledger.step` when a picture makes it tell something twice.
-/

namespace Sc2Api.Lib

universe u v

section Reports

variable {α : Type u} {ι : Type v} (reports loses : α → ι → Prop)

/-- Something was reported by an entry and lost by none after it. -/
def Told (trace : List α) (x : ι) : Prop :=
  ∃ before a after, trace = before ++ a :: after ∧ reports a x ∧ ∀ b ∈ after, ¬loses b x

/-- Between two reports of one thing, or with the later of them, it was lost. -/
def NoRepeat (trace : List α) : Prop :=
  ∀ before a middle b after, trace = before ++ a :: middle ++ b :: after →
    ∀ x, reports a x → reports b x → ∃ c ∈ middle ++ [b], loses c x

variable {reports loses}

theorem told_nil (x : ι) : ¬Told reports loses [] x := by
  rintro ⟨before, a, after, h, -⟩
  simp at h

theorem told_concat {trace : List α} {a : α} {x : ι} :
    Told reports loses (trace ++ [a]) x ↔
      reports a x ∨ (Told reports loses trace x ∧ ¬loses a x) := by
  constructor
  · rintro ⟨before, b, after, h, hb, hafter⟩
    rcases concat_eq_append_cons.1 h with ⟨-, rfl, -⟩ | ⟨after', rfl, rfl⟩
    · exact Or.inl hb
    · exact Or.inr ⟨⟨before, b, after', rfl, hb, fun c hc => hafter c (by simp [hc])⟩,
        hafter a (by simp)⟩
  · rintro (ha | ⟨⟨before, b, after, rfl, hb, hafter⟩, ha⟩)
    · exact ⟨trace, a, [], rfl, ha, by simp⟩
    · exact ⟨before, b, after ++ [a], by simp, hb, forall_mem_concat hafter ha⟩

theorem told_cons {trace : List α} {a : α} {x : ι} : Told reports loses (a :: trace) x ↔
    (reports a x ∧ ∀ b ∈ trace, ¬loses b x) ∨ Told reports loses trace x := by
  constructor
  · rintro ⟨before, b, after, h, hb, hafter⟩
    rcases List.cons_eq_append_iff.1 h with ⟨rfl, h⟩ | ⟨before', rfl, rfl⟩
    · obtain ⟨rfl, rfl⟩ := List.cons.inj h
      exact Or.inl ⟨hb, hafter⟩
    · exact Or.inr ⟨before', b, after, rfl, hb, hafter⟩
  · rintro (⟨ha, hafter⟩ | ⟨before, b, after, rfl, hb, hafter⟩)
    · exact ⟨[], a, trace, rfl, ha, hafter⟩
    · exact ⟨a :: before, b, after, rfl, hb, hafter⟩

instance decidableTold {x : ι} [∀ a, Decidable (reports a x)] [∀ a, Decidable (loses a x)] :
    ∀ trace : List α, Decidable (Told reports loses trace x)
  | [] => isFalse (told_nil x)
  | _ :: trace =>
    have : Decidable (Told reports loses trace x) := decidableTold trace
    decidable_of_iff _ told_cons.symm

theorem told_append {trace trace' : List α} {x : ι} : Told reports loses (trace ++ trace') x ↔
    Told reports loses trace' x ∨ (Told reports loses trace x ∧ ∀ b ∈ trace', ¬loses b x) := by
  induction trace with
  | nil => simp [told_nil]
  | cons a trace ih =>
    rw [List.cons_append, told_cons, told_cons, ih, List.forall_mem_append]
    tauto

theorem not_told_of_none {trace : List α} {x : ι} (h : ∀ a ∈ trace, ¬reports a x) :
    ¬Told reports loses trace x := by
  rintro ⟨before, a, after, rfl, ha, -⟩
  exact h a (by simp) ha

theorem noRepeat_nil : NoRepeat reports loses [] := by
  intro before a middle b after h
  simp at h

/-- A further entry repeats nothing when what it reports was not told, or it loses it. -/
theorem noRepeat_concat {trace : List α} {b : α} :
    NoRepeat reports loses (trace ++ [b]) ↔ NoRepeat reports loses trace ∧
      ∀ x, reports b x → Told reports loses trace x → loses b x := by
  constructor
  · intro h
    refine ⟨fun before a middle c after htrace x ha hc => ?_, fun x hb htold => ?_⟩
    · exact h before a middle c (after ++ [b]) (by rw [htrace]; simp) x ha hc
    · obtain ⟨before, a, after, rfl, ha, hafter⟩ := htold
      obtain ⟨c, hc, hl⟩ := h before a after b [] (by simp) x ha hb
      rcases List.mem_append.1 hc with hc | hc
      · exact absurd hl (hafter c hc)
      · rwa [← List.mem_singleton.1 hc]
  · rintro ⟨h, hb⟩ before a middle c after htrace x ha hc
    rcases concat_eq_append_cons.1 htrace with ⟨rfl, rfl, -⟩ | ⟨after', rfl, rfl⟩
    · by_contra hnone
      push Not at hnone
      have htold : Told reports loses (before ++ a :: middle) x :=
        ⟨before, a, middle, rfl, ha, fun d hd => hnone d (by simp [hd])⟩
      exact hnone c (by simp) (hb x hc htold)
    · exact h before a middle c after' rfl x ha hc

end Reports

/-! ## Judging by the past -/

section Each

variable {α : Type u} {e : α → Prop} {allowed : List α → Prop} {past trace trace' : List α}

/-- Every entry that meets `e` is allowed by what came before it. -/
def Each (e : α → Prop) (allowed : List α → Prop) (past trace : List α) : Prop :=
  ∀ before a after, trace = before ++ a :: after → e a → allowed (past ++ before)

theorem Each.append (h : Each e allowed past trace)
    (h' : Each e allowed (past ++ trace) trace') : Each e allowed past (trace ++ trace') := by
  intro before a after hsplit ha
  rcases List.append_eq_append_iff.1 hsplit with ⟨rest, hbefore, hrest⟩ | ⟨rest, htrace, hrest⟩
  · rw [hbefore, ← List.append_assoc]
    exact h' rest a after hrest ha
  · cases rest with
    | nil =>
      rw [List.append_nil] at htrace
      have hfirst := h' [] a after hrest.symm ha
      rwa [htrace, List.append_nil] at hfirst
    | cons b rest =>
      obtain ⟨rfl, -⟩ := List.cons.inj hrest
      exact h before a rest htrace ha

theorem Each.of_getElem? {past as : List α} (h : Each e allowed past as) {n : Nat} {a : α}
    (ha : as[n]? = some a) (he : e a) : allowed (past ++ as.take n) := by
  obtain ⟨hn, rfl⟩ := List.getElem?_eq_some_iff.1 ha
  refine h (as.take n) as[n] (as.drop (n + 1)) ?_ he
  rw [List.getElem_cons_drop, List.take_append_drop]

theorem Each.of_none (h : ∀ a ∈ trace, ¬e a) : Each e allowed past trace := by
  intro before a after hsplit ha
  exact absurd ha (h a (by rw [hsplit]; simp))

theorem Each.one {a : α} (h : allowed past) : Each e allowed past [a] := by
  intro before b after hsplit _
  cases before with
  | nil => rwa [List.append_nil]
  | cons c before => cases before <;> cases hsplit

end Each

/-! ## Reporting differences -/

/-- What is there, the part of it that is reported when it is new, and what was there. -/
structure Snapshot (ι : Type v) where
  now : ι → Prop
  reported : ι → Prop
  before : ι → Prop

/-- A picture: whether it is taken in, what it shows, what it removes, and whether a
report is due after it. -/
structure Picture (ι : Type v) where
  taken : Prop
  shown : ι → Prop
  reported : ι → Prop
  removed : ι → Prop
  due : Prop

/-- What was told of the difference at hand: anything at all, and what was removed
from the pictures since. -/
structure Watch (ι : Type v) where
  told : Prop
  lost : ι → Prop

section Reporter

variable {ι : Type v}

namespace Snapshot

/-- A picture that is taken in shifts the memory by one. -/
def take (d : Snapshot ι) (p : Picture ι) : Snapshot ι where
  now x := (p.taken ∧ p.shown x) ∨ (¬p.taken ∧ d.now x)
  reported x := (p.taken ∧ p.reported x) ∨ (¬p.taken ∧ d.reported x)
  before x := (p.taken ∧ d.now x) ∨ (¬p.taken ∧ d.before x)

/-- A report drops what the picture removed. -/
def after (d : Snapshot ι) (p : Picture ι) : Snapshot ι where
  now x := (d.take p).now x ∧ ¬(p.due ∧ p.removed x)
  reported x := (d.take p).reported x ∧ ¬(p.due ∧ p.removed x)
  before := (d.take p).before

/-- To be reported: there now, and not before. -/
def New (d : Snapshot ι) (x : ι) : Prop := d.reported x ∧ ¬d.before x

/-- The report after a picture. -/
def Reports (d : Snapshot ι) (p : Picture ι) (x : ι) : Prop :=
  p.due ∧ (d.take p).New x ∧ ¬p.removed x

end Snapshot

/-- A picture loses what it removes, and what it does not show when it is taken in. -/
def Picture.Loses (p : Picture ι) (x : ι) : Prop := p.removed x ∨ (p.taken ∧ ¬p.shown x)

def Watch.next (w : Watch ι) (p : Picture ι) : Watch ι where
  told := p.due ∨ (w.told ∧ ¬p.taken)
  lost x := ¬p.due ∧ (w.lost x ∨ p.removed x)

/-- Nothing told is told again: no report is due, or the picture is taken in, or the
difference at hand was not told yet, or nothing of it is left. -/
def Snapshot.Fresh (d : Snapshot ι) (w : Watch ι) (p : Picture ι) : Prop :=
  p.due → p.taken ∨ ¬w.told ∨ ∀ x, ¬p.removed x → ¬w.lost x → ¬d.New x

/-- What was told and not lost since is still there; it can only still look new when
the difference at hand was told, and then everything left of it was. -/
structure Ledger (d : Snapshot ι) (w : Watch ι) (told : ι → Prop) : Prop where
  there : ∀ x, told x → d.now x
  looksNew : ∀ x, told x → ¬d.before x → w.told ∧ ¬w.lost x
  told : ∀ x, w.told → ¬w.lost x → d.New x → told x

namespace Ledger

variable {d : Snapshot ι} {w : Watch ι} {told : ι → Prop} {p : Picture ι}

theorem congr {told' : ι → Prop} (h : Ledger d w told) (hiff : ∀ x, told' x ↔ told x) :
    Ledger d w told' where
  there x hx := h.there x ((hiff x).1 hx)
  looksNew x hx := h.looksNew x ((hiff x).1 hx)
  told x hw hl hn := (hiff x).2 (h.told x hw hl hn)

/-- What is still told after a picture is still there. -/
theorem there_take (h : Ledger d w told) {x : ι} (hx : told x) (hl : ¬p.Loses x) :
    (d.take p).now x := by
  by_cases ht : p.taken
  · exact Or.inl ⟨ht, not_not.1 fun hs => hl (Or.inr ⟨ht, hs⟩)⟩
  · exact Or.inr ⟨ht, h.there x hx⟩

/-- What was told looks new only after a picture that is not taken in. -/
theorem looksNew_take (h : Ledger d w told) {x : ι} (hx : told x)
    (hb : ¬(d.take p).before x) : ¬p.taken ∧ ¬d.before x := by
  have ht : ¬p.taken := fun ht => hb (Or.inl ⟨ht, h.there x hx⟩)
  exact ⟨ht, fun hd => hb (Or.inr ⟨ht, hd⟩)⟩

/-- The ledger is kept when the reports are entered and the losses struck out. -/
theorem step (h : Ledger d w told) (hsub : ∀ x, (d.take p).reported x → (d.take p).now x) :
    Ledger (d.after p) (w.next p) fun x => d.Reports p x ∨ (told x ∧ ¬p.Loses x) where
  there := by
    rintro x (⟨-, hnew, hr⟩ | ⟨hx, hl⟩)
    · exact ⟨hsub x hnew.1, fun hrem => hr hrem.2⟩
    · exact ⟨h.there_take hx hl, fun hrem => hl (Or.inl hrem.2)⟩
  looksNew := by
    rintro x (⟨hdue, -, -⟩ | ⟨hx, hl⟩) hb
    · exact ⟨Or.inl hdue, fun hlost => hlost.1 hdue⟩
    · obtain ⟨ht, hd⟩ := h.looksNew_take hx hb
      obtain ⟨htold, hlost⟩ := h.looksNew x hx hd
      refine ⟨Or.inr ⟨htold, ht⟩, ?_⟩
      rintro ⟨-, hlost' | hrem⟩
      · exact hlost hlost'
      · exact hl (Or.inl hrem)
  told := by
    rintro x htold hlost ⟨hrep, hb⟩
    by_cases hdue : p.due
    · exact Or.inl ⟨hdue, ⟨hrep.1, hb⟩, fun hr => hrep.2 ⟨hdue, hr⟩⟩
    · have hlost' : ¬w.lost x ∧ ¬p.removed x := by
        constructor
        · exact fun hw => hlost ⟨hdue, Or.inl hw⟩
        · exact fun hr => hlost ⟨hdue, Or.inr hr⟩
      obtain ⟨hw, ht⟩ := htold.resolve_left hdue
      have hrep' : d.reported x := by
        rcases hrep.1 with hr | hr
        · exact absurd hr.1 ht
        · exact hr.2
      refine Or.inr ⟨h.told x hw hlost'.1 ⟨hrep', fun hd => hb (Or.inr ⟨ht, hd⟩)⟩, ?_⟩
      rintro (hr | hr)
      · exact hlost'.2 hr
      · exact ht hr.1

/-- A picture makes nothing told twice exactly when it is fresh. -/
theorem fresh_iff (h : Ledger d w told) :
    (∀ x, d.Reports p x → told x → p.Loses x) ↔ d.Fresh w p := by
  constructor
  · intro hno hdue
    by_cases ht : p.taken
    · exact Or.inl ht
    by_cases hw : w.told
    · refine Or.inr (Or.inr fun x hr hl hnew => ?_)
      have hreports : d.Reports p x :=
        ⟨hdue, ⟨Or.inr ⟨ht, hnew.1⟩, fun hb => hb.elim (fun hb => ht hb.1) fun hb => hnew.2 hb.2⟩,
          hr⟩
      rcases hno x hreports (h.told x hw hl hnew) with hr' | hs
      · exact hr hr'
      · exact ht hs.1
    · exact Or.inr (Or.inl hw)
  · rintro hfresh x ⟨hdue, hnew, hr⟩ hx
    obtain ⟨ht, hd⟩ := h.looksNew_take hx hnew.2
    obtain ⟨hw, hl⟩ := h.looksNew x hx hd
    rcases hfresh hdue with ht' | hw' | hall
    · exact absurd ht' ht
    · exact absurd hw hw'
    · have hrep : d.reported x := by
        rcases hnew.1 with hr | hr
        · exact absurd hr.1 ht
        · exact hr.2
      exact absurd ⟨hrep, hd⟩ (hall x hr hl)

end Ledger

end Reporter

end Sc2Api.Lib
