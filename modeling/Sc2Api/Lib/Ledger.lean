import Mathlib.Data.List.Nodup

/-!
# Ledgers

What is done with resources known by a name: one is opened, used, or closed, where
closing may fail. A ledger is honest when only open resources are used or closed,
and fresh when no name is given to two resources that are open at once.
-/

namespace Sc2Api.Lib

universe u

inductive Entry (α : Type u)
  | opened (name : α)
  | used (name : α)
  | closed (name : α) (done : Bool)
  deriving DecidableEq, Repr

namespace Ledger

variable {α : Type u} [DecidableEq α]

/-- The open resources after an entry. -/
def after (live : List α) : Entry α → List α
  | .opened a => a :: live
  | .used _ => live
  | .closed a done => if done then live.filter (· ≠ a) else live

/-- The entry is about an open resource, or opens one. -/
def Permits (live : List α) : Entry α → Prop
  | .opened _ => True
  | .used a => a ∈ live
  | .closed a _ => a ∈ live

/-- An opened resource gets the name of no open one. -/
def Unused (live : List α) : Entry α → Prop
  | .opened a => a ∉ live
  | .used _ => True
  | .closed _ _ => True

instance (live : List α) : ∀ entry : Entry α, Decidable (Permits live entry)
  | .opened _ => isTrue trivial
  | .used a => inferInstanceAs (Decidable (a ∈ live))
  | .closed a _ => inferInstanceAs (Decidable (a ∈ live))

instance (live : List α) : ∀ entry : Entry α, Decidable (Unused live entry)
  | .opened a => inferInstanceAs (Decidable (a ∉ live))
  | .used _ => isTrue trivial
  | .closed _ _ => isTrue trivial

/-- Every entry meets `P` at the resources open when it is made. -/
def All (P : List α → Entry α → Prop) : List α → List (Entry α) → Prop
  | _, [] => True
  | live, entry :: entries => P live entry ∧ All P (after live entry) entries

instance decidableAll (P : List α → Entry α → Prop) [∀ live entry, Decidable (P live entry)] :
    ∀ (live : List α) (entries : List (Entry α)), Decidable (All P live entries)
  | _, [] => isTrue trivial
  | live, entry :: entries =>
    have : Decidable (All P (after live entry) entries) := decidableAll P (after live entry) entries
    inferInstanceAs (Decidable (P live entry ∧ All P (after live entry) entries))

abbrev Honest (entries : List (Entry α)) : Prop := All Permits [] entries

abbrev Fresh (entries : List (Entry α)) : Prop := All Unused [] entries

theorem all_append {P : List α → Entry α → Prop} {live : List α}
    {entries entries' : List (Entry α)} : All P live (entries ++ entries') ↔
      All P live entries ∧ All P (entries.foldl after live) entries' := by
  induction entries generalizing live with
  | nil => simp [All]
  | cons entry entries ih => simp [All, ih, and_assoc]

/-- Nothing was closed yet. -/
def Lasting (entries : List (Entry α)) : Prop := ∀ a, .closed a true ∉ entries

/-- While nothing is closed, what was opened is open. -/
theorem mem_foldl_after {live : List α} {entries : List (Entry α)} (h : Lasting entries) {a : α}
    (ha : a ∈ live ∨ .opened a ∈ entries) : a ∈ entries.foldl after live := by
  induction entries generalizing live with
  | nil => simpa using ha
  | cons entry entries ih =>
    have hrest : Lasting entries := fun b hb => h b (List.mem_cons_of_mem _ hb)
    refine ih hrest ?_
    cases entry with
    | opened b =>
      rcases ha with ha | ha
      · exact .inl (List.mem_cons_of_mem _ ha)
      · rcases List.mem_cons.1 ha with heq | ha
        · cases heq
          exact .inl List.mem_cons_self
        · exact .inr ha
    | used b => exact ha.imp_right fun ha => (List.mem_cons.1 ha).resolve_left (by simp)
    | closed b done =>
      cases done with
      | true => exact absurd List.mem_cons_self (h b)
      | false => exact ha.imp_right fun ha => (List.mem_cons.1 ha).resolve_left (by simp)

/-- The names that were opened. -/
def opened (entries : List (Entry α)) : List α :=
  entries.filterMap fun
    | .opened a => some a
    | _ => none

omit [DecidableEq α] in
theorem opened_append (entries entries' : List (Entry α)) :
    opened (entries ++ entries') = opened entries ++ opened entries' := List.filterMap_append

omit [DecidableEq α] in
theorem mem_opened {entries : List (Entry α)} {a : α} :
    a ∈ opened entries ↔ .opened a ∈ entries := by
  unfold opened
  rw [List.mem_filterMap]
  constructor
  · rintro ⟨entry, hentry, heq⟩
    split at heq
    · cases heq
      exact hentry
    · cases heq
  · exact fun hentry => ⟨_, hentry, rfl⟩

/-- The names opened in a fresh ledger that closes nothing are different. -/
theorem Lasting.nodup {live : List α} {entries : List (Entry α)} (h : Lasting entries)
    (hfresh : All Unused live entries) :
    (opened entries).Nodup ∧ ∀ a ∈ opened entries, a ∉ live := by
  induction entries generalizing live with
  | nil => simp [opened]
  | cons entry entries ih =>
    have hrest : Lasting entries := fun b hb => h b (List.mem_cons_of_mem _ hb)
    obtain ⟨hentry, hfresh⟩ := hfresh
    cases entry with
    | opened b =>
      obtain ⟨hnodup, hout⟩ := ih hrest hfresh
      refine ⟨List.nodup_cons.2 ⟨fun hb => hout b hb List.mem_cons_self, hnodup⟩, ?_⟩
      intro a ha
      rcases List.mem_cons.1 ha with rfl | ha
      · exact hentry
      · exact fun hlive => hout a ha (List.mem_cons_of_mem _ hlive)
    | used b => exact ih hrest hfresh
    | closed b done =>
      cases done with
      | true => exact absurd List.mem_cons_self (h b)
      | false => exact ih hrest hfresh

/-- Open resources may be closed one after the other, if none is named twice. -/
theorem all_permits_closed {live : List α} {names : List α} (hnodup : names.Nodup)
    (hlive : ∀ a ∈ names, a ∈ live) {entries : List (Entry α)}
    (h : List.Forall₂ (fun a entry => ∃ done, entry = .closed a done) names entries) :
    All Permits live entries := by
  induction h generalizing live with
  | nil => trivial
  | @cons a entry names entries hentry _ ih =>
    obtain ⟨done, rfl⟩ := hentry
    obtain ⟨ha, hnodup⟩ := List.nodup_cons.1 hnodup
    refine ⟨hlive a List.mem_cons_self, ih hnodup fun b hb => ?_⟩
    have hb' := hlive b (List.mem_cons_of_mem _ hb)
    have hne : b ≠ a := fun heq => ha (heq ▸ hb)
    cases done with
    | true => exact List.mem_filter.2 ⟨hb', by simpa using hne⟩
    | false => exact hb'

end Ledger

end Sc2Api.Lib
