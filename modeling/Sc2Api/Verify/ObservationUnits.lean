import Mathlib.Data.List.Induction
import Sc2Api.EventState
import Sc2Api.Verify.UnitPool

/-!
# The units of an observation in the pool

What `UpdateObservation` does to the pool, read tag by tag: `existingUnit p t` is the
record of the existing unit `t`. A conversion replaces the existing units by the
units of the message, the remap of orders changes ability ids only, and the
previous map is a copy of what existed before.
-/

namespace Sc2Api

open Lib

namespace UnitPool

/-! ## Records by tag -/

/-- The tags of the existing units in an enumeration order. -/
def existingTags (p : UnitPool) (order : Order) : List Tag :=
  (order.visit p.tagToExistingUnit.entries).map (·.1)

/-- The pool is well formed and every record carries the tag that owns it. -/
structure Tagged (p : UnitPool) : Prop extends WF p where
  tag : ∀ {t u}, p.content t = some u → u.tag = t

section

variable {p : UnitPool}

theorem WF.content_of_existing (h : p.WF) {t : Tag} {u : Unit} (hu : p.existingUnit t = some u) :
    p.content t = some u := by
  unfold existingUnit at hu
  obtain ⟨i, hi, hread⟩ := Option.bind_eq_some_iff.1 hu
  unfold content
  rw [h.existing hi]
  exact hread

theorem WF.existing_isSome (h : p.WF) (t : Tag) :
    (p.existingUnit t).isSome = (p.getExistingUnit t).isSome := by
  unfold existingUnit
  cases hi : p.getExistingUnit t with
  | none => rfl
  | some i =>
    obtain ⟨u, hu⟩ := (h.inBounds (h.existing hi)).exists_read
    rw [Option.bind_some, hu]
    rfl

theorem WF.getUnit_of_existing (h : p.WF) {t : Tag} (ht : p.existingUnit t ≠ none) :
    p.getUnit t ≠ none := by
  intro hn
  rcases h.existing_eq t with he | he
  · exact ht (by rw [existingUnit, he]; rfl)
  · exact ht (by rw [existingUnit, he, hn]; rfl)

theorem Tagged.existing_tag (h : p.Tagged) {t : Tag} {u : Unit} (hu : p.existingUnit t = some u) :
    u.tag = t :=
  h.tag (h.toWF.content_of_existing hu)

theorem Tagged.empty : Tagged {} where
  toWF := WF.empty
  tag := fun h => by cases h

theorem existingTags_nodup (p : UnitPool) (order : Order) : (p.existingTags order).Nodup := by
  have hperm := (order.perm p.tagToExistingUnit.entries).map (·.1)
  exact hperm.nodup_iff.2 p.tagToExistingUnit.nodupKeys

theorem mem_existingTags_iff {order : Order} {t : Tag} :
    t ∈ p.existingTags order ↔ (p.getExistingUnit t).isSome := by
  have hperm := (order.perm p.tagToExistingUnit.entries).map (·.1)
  unfold existingTags getExistingUnit
  rw [hperm.mem_iff, AList.lookup_isSome]
  rfl

theorem WF.mem_existingTags (h : p.WF) {order : Order} {t : Tag} :
    t ∈ p.existingTags order ↔ p.existingUnit t ≠ none := by
  rw [mem_existingTags_iff, ← h.existing_isSome, Option.isSome_iff_ne_none]

/-- The pointers an enumeration meets are those of the tags it meets. -/
theorem existingUnits_eq (p : UnitPool) (order : Order) :
    p.existingUnits order =
      (p.existingTags order).map fun t => (p.getExistingUnit t).getD ⟨0, 0⟩ := by
  unfold existingUnits existingTags
  rw [List.map_map]
  refine List.map_congr_left fun e he => ?_
  have hmem := order.mem_visit.1 he
  have hlook : p.getExistingUnit e.1 = some e.2 :=
    AList.mem_lookup_iff.2 hmem
  rw [Function.comp_apply, hlook]
  rfl

/-- The records an enumeration meets are those of the tags it meets. -/
theorem map_deref_existingUnits (p : UnitPool) (order : Order) :
    (p.existingUnits order).map p.deref =
      (p.existingTags order).map fun t => (p.existingUnit t).getD default := by
  rw [existingUnits_eq, List.map_map]
  refine List.map_congr_left fun t ht => ?_
  obtain ⟨i, hi⟩ := Option.isSome_iff_exists.1 (mem_existingTags_iff.1 ht)
  rw [Function.comp_apply, existingUnit, hi]
  rfl

/-- The tags that an enumeration reads from the records are those it meets. -/
theorem Tagged.map_tag_existingUnits (h : p.Tagged) (order : Order) :
    (p.existingUnits order).map (fun i => (p.deref i).tag) = p.existingTags order := by
  have hmap : (p.existingUnits order).map (fun i => (p.deref i).tag) =
      ((p.existingUnits order).map p.deref).map (·.tag) := by
    rw [List.map_map]
    rfl
  rw [hmap, map_deref_existingUnits, List.map_map]
  refine (List.map_congr_left fun t ht => ?_).trans (List.map_id _)
  obtain ⟨u, hu⟩ := Option.ne_none_iff_exists'.1 (h.mem_existingTags.1 ht)
  rw [Function.comp_apply, hu, Option.getD_some, h.existing_tag hu]
  rfl

end

/-! ## Writes through a pointer -/

section Write

variable {p : UnitPool} {t : Tag} {i : PoolIndex} {f : Unit → Unit}

theorem content_write_self (hi : p.getUnit t = some i) :
    (p.write i f).content t = (p.content t).map f := by
  unfold content
  rw [getUnit_write, hi]
  exact Arena.read?_modify_self _ _ _

theorem WF.content_write_ne (h : p.WF) {t' : Tag} (hi : p.getUnit t = some i) (hne : t' ≠ t) :
    (p.write i f).content t' = p.content t' := by
  unfold content
  rw [getUnit_write]
  cases hj : p.getUnit t' with
  | none => rfl
  | some j =>
    exact Arena.read?_modify_of_ne _ _ fun he => hne (h.inj hj (he ▸ hi))

theorem existing_write_self (hi : p.getExistingUnit t = some i) :
    (p.write i f).existingUnit t = (p.existingUnit t).map f := by
  unfold existingUnit
  rw [getExistingUnit_write, hi]
  exact Arena.read?_modify_self _ _ _

theorem WF.existing_write_ne (h : p.WF) {t' : Tag} (hi : p.getUnit t = some i)
    (hne : t' ≠ t) : (p.write i f).existingUnit t' = p.existingUnit t' := by
  unfold existingUnit
  rw [getExistingUnit_write]
  cases hj : p.getExistingUnit t' with
  | none => rfl
  | some j =>
    exact Arena.read?_modify_of_ne _ _ fun he => hne (h.inj (h.existing hj) (he ▸ hi))

theorem Tagged.write (h : p.Tagged) (hi : p.getUnit t = some i)
    (hf : ∀ u, u.tag = t → (f u).tag = t) :
    (p.write i f).Tagged where
  toWF := h.toWF.write i f
  tag := by
    intro t' u hu
    by_cases hne : t' = t
    · subst hne
      rw [content_write_self hi] at hu
      obtain ⟨u', hu', rfl⟩ := Option.map_eq_some_iff.1 hu
      exact hf u' (h.tag hu')
    · rw [h.toWF.content_write_ne hi hne] at hu
      exact h.tag hu

end Write

/-! ## Deaths -/

section Dead

variable {p : UnitPool} {t : Tag}

theorem Tagged.deref_tag (h : p.Tagged) {i : PoolIndex} (hi : p.getUnit t = some i) :
    (p.deref i).tag = t := by
  obtain ⟨u, hu⟩ := h.exists_content hi
  have hread : p.unitPool.read? i = some u := by
    rw [content, hi, Option.bind_some] at hu
    exact hu
  rw [UnitPool.deref, hread, Option.getD_some]
  exact h.tag hu

theorem Tagged.markDead (h : p.Tagged) (t : Tag) : (p.markDead t).Tagged where
  toWF := h.toWF.markDead t
  tag := by
    intro t' u hu
    rw [content, getUnit_markDead] at hu
    obtain ⟨i, hi, hread⟩ := Option.bind_eq_some_iff.1 hu
    by_cases hne : t' = t
    · subst hne
      rw [read_markDead_self hi] at hread
      obtain ⟨v, hv, rfl⟩ := Option.map_eq_some_iff.1 hread
      have hcontent : p.content t' = some v := by rw [content, hi]; exact hv
      have hv : v.tag = t' := h.tag hcontent
      exact hv
    · rw [h.read_markDead_ne hne hi] at hread
      exact h.tag (by rw [content, hi]; exact hread)

theorem WF.existingUnit_markDead (h : p.WF) (t t' : Tag) :
    (p.markDead t).existingUnit t' = if t' = t then none else p.existingUnit t' := by
  unfold existingUnit
  by_cases hne : t' = t
  · subst hne
    rw [h.getExistingUnit_markDead_self, if_pos rfl]
    rfl
  · rw [getExistingUnit_markDead_ne _ _ hne, if_neg hne]
    cases hi : p.getExistingUnit t' with
    | none => rfl
    | some i => exact h.read_markDead_ne hne (h.existing hi)

end Dead

end UnitPool

/-! ## Conversion of units -/

section Convert

open UnitPool

variable {p : UnitPool} {loop : GameLoop}

namespace Proto

theorem lastWith_concat (t : Tag) (units : List Unit) (u : Unit) :
    lastWith t (units ++ [u]) = if u.tagD = t then some u else lastWith t units := by
  unfold lastWith
  rw [List.reverse_append, List.reverse_singleton, List.singleton_append, List.find?_cons]
  by_cases h : u.tagD = t
  · simp [h]
  · rw [if_neg h, beq_false_of_ne h]

theorem lastWith_isSome {t : Tag} {units : List Unit} :
    (lastWith t units).isSome ↔ ∃ u ∈ units, u.tagD = t := by
  unfold lastWith
  simp

theorem lastWith_eq_some {t : Tag} {units : List Unit} {u : Unit}
    (hnodup : (units.map (·.tagD)).Nodup) :
    lastWith t units = some u ↔ u ∈ units ∧ u.tagD = t := by
  unfold lastWith
  constructor
  · intro h
    exact ⟨List.mem_reverse.1 (List.mem_of_find?_eq_some h), by simpa using List.find?_some h⟩
  · rintro ⟨hmem, rfl⟩
    have hsome : ((units.reverse).find? (·.tagD == u.tagD)).isSome := by
      simp only [List.find?_isSome, List.mem_reverse]
      exact ⟨u, hmem, by simp⟩
    obtain ⟨v, hv⟩ := Option.isSome_iff_exists.1 hsome
    have hvm : v ∈ units := List.mem_reverse.1 (List.mem_of_find?_eq_some hv)
    have hvt : v.tagD = u.tagD := by simpa using List.find?_some hv
    rw [hv, List.inj_on_of_nodup_map hnodup hvm hmem hvt]

end Proto

@[simp] theorem convertUnit_tag (u : Proto.Unit) (loop : GameLoop) (old : Unit) :
    (convertUnit u loop old).tag = u.tagD := rfl

theorem convertIntoPool_eq (p : UnitPool) (loop : GameLoop) (u : Proto.Unit) :
    convertIntoPool loop p u =
      (p.createUnit u.tagD).2.write (p.createUnit u.tagD).1 (convertUnit u loop) := rfl

/-- Creating a unit and writing its record, seen through the tags. -/
structure ConvertedInto (p p' : UnitPool) (loop : GameLoop) (u : Proto.Unit) : Prop where
  wf : p'.WF
  getUnit : ∀ t, p'.getUnit t ≠ none ↔ t = u.tagD ∨ p.getUnit t ≠ none
  content_self : p'.content u.tagD = some (convertUnit u loop default)
  content_ne : ∀ t, t ≠ u.tagD → p'.content t = p.content t
  existing_self : p'.existingUnit u.tagD = some (convertUnit u loop default)
  existing_ne : ∀ t, t ≠ u.tagD → p'.existingUnit t = p.existingUnit t

theorem convertedInto (h : p.WF) (loop : GameLoop) (u : Proto.Unit) :
    ConvertedInto p (convertIntoPool loop p u) loop u := by
  have hw := h.createUnit u.tagD
  have hself := getUnit_createUnit_self p u.tagD
  have hex := getExistingUnit_createUnit_self p u.tagD
  obtain ⟨old, hold⟩ := (h.createUnit_inBounds u.tagD).exists_read
  rw [convertIntoPool_eq]
  refine ⟨hw.write _ _, fun t => ?_, ?_, fun t hne => ?_, ?_, fun t hne => ?_⟩
  · rw [getUnit_write]
    by_cases ht : t = u.tagD
    · subst ht
      simp [hself]
    · simp [getUnit_createUnit_ne _ _ ht, ht]
  · rw [content_write_self hself, content, hself, Option.bind_some, hold]
    rfl
  · rw [hw.content_write_ne hself hne, content, content, getUnit_createUnit_ne _ _ hne]
    cases hi : p.getUnit t with
    | none => rfl
    | some i => exact h.read_createUnit _ hi
  · rw [existing_write_self hex, existingUnit, hex, Option.bind_some, hold]
    rfl
  · rw [hw.existing_write_ne hself hne, existingUnit, existingUnit,
      getExistingUnit_createUnit_ne _ _ hne]
    cases hi : p.getExistingUnit t with
    | none => rfl
    | some i => exact h.read_createUnit _ (h.existing hi)

theorem UnitPool.Tagged.convertIntoPool (h : p.Tagged) (loop : GameLoop) (u : Proto.Unit) :
    (convertIntoPool loop p u).Tagged := by
  have hc := convertedInto h.toWF loop u
  refine ⟨hc.wf, fun {t v} hv => ?_⟩
  by_cases ht : t = u.tagD
  · subst ht
    rw [hc.content_self] at hv
    rw [← Option.some.inj hv, convertUnit_tag]
  · rw [hc.content_ne t ht] at hv
    exact h.tag hv

/-- A list of units converted into a pool: the last unit of a tag owns its record. -/
theorem foldl_convertIntoPool (h : p.Tagged) (loop : GameLoop) (units : List Proto.Unit) :
    let p' := units.foldl (convertIntoPool loop) p
    p'.Tagged ∧
      (∀ t, p'.getUnit t ≠ none ↔ (∃ u ∈ units, u.tagD = t) ∨ p.getUnit t ≠ none) ∧
      ∀ t, p'.existingUnit t = match Proto.lastWith t units with
        | some u => some (convertUnit u loop default)
        | none => p.existingUnit t := by
  induction units using List.reverseRecOn with
  | nil => exact ⟨h, fun t => by simp, fun t => rfl⟩
  | append_singleton units u ih =>
    obtain ⟨htag, hknown, hex⟩ := ih
    have hc := convertedInto htag.toWF loop u
    simp only [List.foldl_append, List.foldl_cons, List.foldl_nil]
    refine ⟨htag.convertIntoPool loop u, fun t => ?_, fun t => ?_⟩
    · rw [hc.getUnit, hknown]
      simp only [List.mem_append, List.mem_singleton]
      constructor
      · rintro (rfl | ⟨v, hv, hvt⟩ | hp)
        · exact Or.inl ⟨u, Or.inr rfl, rfl⟩
        · exact Or.inl ⟨v, Or.inl hv, hvt⟩
        · exact Or.inr hp
      · rintro (⟨v, hv | rfl, hvt⟩ | hp)
        · exact Or.inr (Or.inl ⟨v, hv, hvt⟩)
        · exact Or.inl hvt.symm
        · exact Or.inr (Or.inr hp)
    · rw [Proto.lastWith_concat]
      by_cases ht : u.tagD = t
      · subst ht
        simp [hc.existing_self]
      · rw [hc.existing_ne t (Ne.symm ht), hex, if_neg ht]

theorem UnitPool.Tagged.clearExisting (h : p.Tagged) : p.clearExisting.Tagged where
  toWF := h.toWF.clearExisting
  tag := h.tag

theorem convertUnits_spec (h : p.Tagged) (loop : GameLoop) (raw : Proto.ObservationRaw) :
    let p' := convertUnits raw p.clearExisting loop
    p'.Tagged ∧
      (∀ t, p'.getUnit t ≠ none ↔ (∃ u ∈ raw.units, u.tagD = t) ∨ p.getUnit t ≠ none) ∧
      ∀ t, p'.existingUnit t =
        (Proto.lastWith t raw.units).map fun u => convertUnit u loop default := by
  obtain ⟨htag, hknown, hex⟩ := foldl_convertIntoPool h.clearExisting loop raw.units
  refine ⟨htag, fun t => hknown t, fun t => (hex t).trans ?_⟩
  cases Proto.lastWith t raw.units with
  | none => rw [existingUnit, getExistingUnit_clearExisting]; rfl
  | some u => rfl

end Convert

/-! ## The remap of orders -/

section Remap

open UnitPool ObservationImp

/-- A list remapped under the ability table keeps its length. -/
theorem length_mapM_run {α β σ : Type} (f : α → StateM σ β) (l : List α) (s : σ) :
    ((l.mapM f).run s).1.length = l.length := by
  induction l generalizing s with
  | nil => rfl
  | cons a l ih =>
    rw [List.mapM_cons]
    exact congrArg (· + 1) (ih _)

/-- The two pools hold the same units up to the contents of their orders. -/
structure SameUnits (p p' : UnitPool) : Prop where
  getUnit : ∀ t, p'.getUnit t = p.getUnit t
  getExistingUnit : ∀ t, p'.getExistingUnit t = p.getExistingUnit t
  record : ∀ t, ∃ g : Unit → List UnitOrder, (∀ u, (g u).length = u.orders.length) ∧
    p'.existingUnit t = (p.existingUnit t).map fun u => { u with orders := g u }

namespace SameUnits

variable {p p' p'' : UnitPool}

theorem refl (p : UnitPool) : SameUnits p p :=
  ⟨fun _ => rfl, fun _ => rfl, fun _ => ⟨(·.orders), fun _ => rfl, Option.map_id'.symm⟩⟩

theorem trans (h : SameUnits p p') (h' : SameUnits p' p'') : SameUnits p p'' where
  getUnit t := (h'.getUnit t).trans (h.getUnit t)
  getExistingUnit t := (h'.getExistingUnit t).trans (h.getExistingUnit t)
  record t := by
    obtain ⟨g, hlen, hg⟩ := h.record t
    obtain ⟨g', hlen', hg'⟩ := h'.record t
    refine ⟨fun u => g' { u with orders := g u }, fun u => (hlen' _).trans (hlen u), ?_⟩
    rw [hg', hg, Option.map_map]
    rfl

end SameUnits

theorem sameUnits_remapUnit {p : UnitPool} (h : p.WF) (table : AbilityTable) {t : Tag}
    {i : PoolIndex} (hi : p.getExistingUnit t = some i) :
    SameUnits p (remapUnit (p, table) i).1 where
  getUnit _ := rfl
  getExistingUnit _ := rfl
  record t' := by
    by_cases hne : t' = t
    · subst hne
      refine ⟨fun u => ((u.orders.mapM remapOrder).run table).1,
        fun u => length_mapM_run remapOrder u.orders table, ?_⟩
      refine (existing_write_self hi).trans (Option.map_congr fun u hu => ?_)
      have hderef : p.deref i = u := by
        rw [existingUnit, hi, Option.bind_some] at hu
        rw [UnitPool.deref, hu, Option.getD_some]
      show { u with orders := (((p.deref i).orders.mapM remapOrder).run table).1 } = _
      rw [hderef]
    · exact ⟨(·.orders), fun _ => rfl,
        (h.existing_write_ne (h.existing hi) hne).trans Option.map_id'.symm⟩

theorem UnitPool.Tagged.remapUnit {p : UnitPool} (h : p.Tagged) (table : AbilityTable)
    {t : Tag} {i : PoolIndex} (hi : p.getExistingUnit t = some i) :
    (ObservationImp.remapUnit (p, table) i).1.Tagged :=
  h.write (h.existing hi) fun _ hu => hu

theorem foldl_remapUnit {units : List PoolIndex} :
    ∀ {p : UnitPool} (table : AbilityTable), p.Tagged →
      (∀ i ∈ units, ∃ t, p.getExistingUnit t = some i) →
      (units.foldl remapUnit (p, table)).1.Tagged ∧
        SameUnits p (units.foldl remapUnit (p, table)).1 := by
  induction units with
  | nil => exact fun _ h _ => ⟨h, .refl _⟩
  | cons i units ih =>
    intro p table h hunits
    obtain ⟨t, hi⟩ := hunits i List.mem_cons_self
    obtain ⟨htag, hsame⟩ := ih (remapUnit (p, table) i).2 (h.remapUnit table hi)
      fun j hj => hunits j (List.mem_cons_of_mem _ hj)
    exact ⟨htag, (sameUnits_remapUnit h.toWF table hi).trans hsame⟩

theorem mem_existingUnits {p : UnitPool} {order : UnitPool.Order} {i : PoolIndex}
    (hi : i ∈ p.existingUnits order) : ∃ t, p.getExistingUnit t = some i := by
  obtain ⟨e, he, rfl⟩ := List.mem_map.1 hi
  exact ⟨e.1, AList.mem_lookup_iff.2 (order.mem_visit.1 he)⟩

theorem remapOrders_spec {s : ObservationImp} (h : s.unitPool.Tagged) (order : UnitPool.Order) :
    (s.remapOrders order).unitPool.Tagged ∧
      SameUnits s.unitPool (s.remapOrders order).unitPool := by
  unfold remapOrders
  split
  · exact foldl_remapUnit s.abilityTable h fun _ hi => mem_existingUnits hi
  · exact ⟨h, .refl _⟩

end Remap

/-! ## The previous map -/

section Previous

open UnitPool ObservationImp

theorem lookup_foldl_insert (record : Tag → Unit) (tags : List Tag) (t : Tag)
    (htag : ∀ t ∈ tags, (record t).tag = t) :
    ((tags.map record).foldl (fun (map : AList fun _ : Tag => Unit) u => map.insert u.tag u)
      ∅).lookup t = if t ∈ tags then some (record t) else none := by
  induction tags using List.reverseRecOn with
  | nil => rfl
  | append_singleton tags t' ih =>
    simp only [List.map_append, List.map_cons, List.map_nil, List.foldl_append, List.foldl_cons,
      List.foldl_nil, List.mem_append, List.mem_singleton]
    rw [htag t' (by simp)]
    by_cases ht : t = t'
    · subst ht
      rw [AList.lookup_insert, if_pos (Or.inr rfl)]
    · rw [AList.lookup_insert_ne ht, ih fun s hs => htag s (List.mem_append_left _ hs)]
      simp [ht]

/-- The previous map is a copy of the existing units. -/
theorem lookup_previousMap {p : UnitPool} (h : p.Tagged) (order : UnitPool.Order) (t : Tag) :
    (previousMap order p).lookup t = p.existingUnit t := by
  have hmap : previousMap order p =
      (((p.existingUnits order).map p.deref).foldl
        (fun (map : AList fun _ : Tag => Unit) u => map.insert u.tag u) ∅) := by
    rw [List.foldl_map]
    rfl
  rw [hmap, map_deref_existingUnits, lookup_foldl_insert]
  · by_cases ht : t ∈ p.existingTags order
    · obtain ⟨u, hu⟩ := Option.ne_none_iff_exists'.1 (h.mem_existingTags.1 ht)
      rw [if_pos ht, hu]
      rfl
    · rw [if_neg ht]
      exact (not_not.1 fun hn => ht (h.mem_existingTags.2 hn)).symm
  · intro t' ht'
    obtain ⟨u, hu⟩ := Option.ne_none_iff_exists'.1 (h.mem_existingTags.1 ht')
    rw [hu]
    exact h.existing_tag hu

end Previous

end Sc2Api
