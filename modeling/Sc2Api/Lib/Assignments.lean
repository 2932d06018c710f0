import Mathlib.Data.List.AList
import Mathlib.Data.List.Induction

/-!
# Assignments

Maps that come about by inserting values one after the other: the last value of a key is the
one found.
-/

namespace Sc2Api.Lib

universe u v

variable {α : Type u} {β : Type v} {entries : List (α × β)}

/-! ## Keys that are assigned once -/

section Lookup

variable [BEq α] [LawfulBEq α] {key : α}

/-- A key that is assigned once has its value, wherever that stands. -/
theorem lookup_of_mem (hnodup : (entries.map (·.1)).Nodup) {value : β}
    (h : (key, value) ∈ entries) : entries.lookup key = some value := by
  obtain ⟨before, after, rfl⟩ := List.append_of_mem h
  refine List.lookup_eq_some_iff.2 ⟨before, after, rfl, fun entry hentry => ?_⟩
  rw [List.map_append, List.map_cons] at hnodup
  have hne : entry.1 ≠ key := (List.nodup_append.1 hnodup).2.2 _ (List.mem_map_of_mem hentry)
    _ List.mem_cons_self
  exact bne_iff_ne.2 hne.symm

theorem lookup_of_notMem (h : key ∉ entries.map (·.1)) : entries.lookup key = none :=
  List.lookup_eq_none_iff.2 fun _ hentry =>
    bne_iff_ne.2 fun heq => h (heq ▸ List.mem_map_of_mem hentry)

/-- Where each key is assigned once, the order does not matter. -/
theorem lookup_perm {entries' : List (α × β)} (hnodup : (entries.map (·.1)).Nodup)
    (h : entries'.Perm entries) (key : α) : entries'.lookup key = entries.lookup key := by
  by_cases hkey : key ∈ entries.map (·.1)
  · obtain ⟨⟨_, value⟩, hmem, rfl⟩ := List.mem_map.1 hkey
    rw [lookup_of_mem hnodup hmem,
      lookup_of_mem ((h.map _).nodup_iff.2 hnodup) (h.mem_iff.2 hmem)]
  · rw [lookup_of_notMem hkey, lookup_of_notMem fun hmem => hkey ((h.map _).mem_iff.1 hmem)]

end Lookup

/-! ## Inserting -/

section Insert

variable [DecidableEq α]

def insertAll (entries : List (α × β)) (map : AList fun _ : α => β) : AList fun _ : α => β :=
  entries.foldl (fun map entry => map.insert entry.1 entry.2) map

theorem lookup_insertAll [BEq α] [LawfulBEq α] (entries : List (α × β))
    (map : AList fun _ : α => β) (key : α) :
    (insertAll entries map).lookup key = (entries.reverse.lookup key).or (map.lookup key) := by
  unfold insertAll
  induction entries using List.reverseRecOn with
  | nil => rfl
  | append_singleton entries entry ih =>
    rw [List.foldl_append, List.reverse_append, List.foldl_cons, List.foldl_nil]
    change _ = ((entry :: entries.reverse).lookup key).or _
    rw [List.lookup_cons]
    by_cases hkey : key = entry.1
    · rw [hkey, AList.lookup_insert, beq_self_eq_true]
      rfl
    · rw [AList.lookup_insert_ne hkey, ih, beq_false_of_ne hkey]

/-- What is inserted once for each key is found, and otherwise what was there. -/
theorem lookup_insertAll_of_nodup [BEq α] [LawfulBEq α] (hnodup : (entries.map (·.1)).Nodup)
    (map : AList fun _ : α => β) (key : α) :
    (insertAll entries map).lookup key = (entries.lookup key).or (map.lookup key) := by
  rw [lookup_insertAll, lookup_perm hnodup (List.reverse_perm entries)]

end Insert

end Sc2Api.Lib
