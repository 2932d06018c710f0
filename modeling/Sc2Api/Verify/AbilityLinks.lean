import Sc2Api.DataTables
import Mathlib.Data.List.Count

/-!
# The links between abilities

The remap loop of `GetAbilityData` builds a relation and its inverse in one table. What the
table is after the turns of the first entries has a closed form, `linkAbilities`, from which
the facts about the loaded table follow.
-/

namespace Sc2Api

open Lib

/-! ## The remap loop -/

/-- The ids of the first `k` entries that remap to `j`. -/
def sources (entries : Abilities) (k j : Nat) : List AbilityID :=
  ((entries.take k).filter fun source =>
    source.remapsToAbilityId ≠ 0 ∧ source.remapsToAbilityId.toNat = j).map (·.abilityId)

theorem sources_succ {entries : Abilities} {k : Nat} (hk : k < entries.length) (j : Nat) :
    sources entries (k + 1) j = sources entries k j ++
      if entries[k].remapsToAbilityId ≠ 0 ∧ entries[k].remapsToAbilityId.toNat = j then
        [entries[k].abilityId] else [] := by
  unfold sources
  rw [← List.take_append_getElem hk, List.filter_append, List.map_append]
  congr 1
  by_cases h : entries[k].remapsToAbilityId ≠ 0 ∧ entries[k].remapsToAbilityId.toNat = j
  · rw [if_pos h, List.filter_cons_of_pos (by simpa using h)]
    rfl
  · rw [if_neg h, List.filter_cons_of_neg (by simpa using h)]
    rfl

/-- The number of remaps of the first `k` entries that point outside the table. -/
def strays (entries : Abilities) (k : Nat) : Nat :=
  (entries.take k).countP fun entry =>
    entry.remapsToAbilityId ≠ 0 ∧ entries.length ≤ entry.remapsToAbilityId.toNat

theorem strays_succ {entries : Abilities} {k : Nat} (hk : k < entries.length) :
    strays entries (k + 1) = strays entries k +
      if entries[k].remapsToAbilityId ≠ 0 ∧
        entries.length ≤ entries[k].remapsToAbilityId.toNat then 1 else 0 := by
  unfold strays
  rw [← List.take_append_getElem hk, List.countP_append, List.countP_singleton]
  simp only [decide_eq_true_eq]

/-- An entry after the remaps of the first `k` entries. -/
def linkAbility (entries : Abilities) (k j : Nat) (entry : AbilityData) : AbilityData :=
  { entry with
    remapsToAbilityId :=
      if j < k ∧ entries.length ≤ entry.remapsToAbilityId.toNat then 0
      else entry.remapsToAbilityId
    remapsFromAbilityId := entry.remapsFromAbilityId ++ sources entries k j }

/-- The table and the errors after the remaps of the first `k` entries. -/
def linkAbilities (entries : Abilities) (k : Nat) : Abilities × List ClientError :=
  (entries.mapIdx (linkAbility entries k),
    List.replicate (strays entries k) .invalidAbilityRemap)

theorem linkAbilities_zero (entries : Abilities) : linkAbilities entries 0 = (entries, []) := by
  have hlink : entries.mapIdx (linkAbility entries 0) = entries := by
    refine List.ext_getElem? fun j => ?_
    rw [List.getElem?_mapIdx]
    cases entries[j]? with
    | none => rfl
    | some entry => simp [linkAbility, sources]
  unfold linkAbilities
  rw [hlink]
  rfl

section Step

variable {entries : Abilities} {k : Nat} (hk : k < entries.length)

include hk

/-- The entry whose turn it is still has its remap. -/
theorem getElem?_linkAbilities : (linkAbilities entries k).1[k]? =
    some { entries[k] with
      remapsFromAbilityId := entries[k].remapsFromAbilityId ++ sources entries k k } := by
  unfold linkAbilities linkAbility
  rw [List.getElem?_mapIdx, List.getElem?_eq_getElem hk]
  simp

/-- The turn of an entry whose remap is in range drops no remap. -/
theorem dropped_succ_iff (hlt : entries[k].remapsToAbilityId.toNat < entries.length) {j : Nat}
    (hj : j < entries.length) :
    (j < k + 1 ∧ entries.length ≤ entries[j].remapsToAbilityId.toNat) ↔
      (j < k ∧ entries.length ≤ entries[j].remapsToAbilityId.toNat) := by
  refine ⟨fun h => ⟨?_, h.2⟩, fun h => ⟨Nat.lt_succ_of_lt h.1, h.2⟩⟩
  refine Nat.lt_of_le_of_ne (Nat.le_of_lt_succ h.1) fun hjk => ?_
  subst hjk
  exact Nat.not_le_of_lt hlt h.2

/-- An entry without a remap changes nothing. -/
theorem linkAbilities_succ_of_zero (hzero : entries[k].remapsToAbilityId = 0) :
    linkAbilities entries (k + 1) = linkAbilities entries k := by
  unfold linkAbilities
  rw [strays_succ hk, if_neg (fun h => h.1 hzero), Nat.add_zero]
  congr 1
  rw [List.mapIdx_eq_mapIdx_iff]
  intro j hj
  have hsources : sources entries (k + 1) j = sources entries k j := by
    rw [sources_succ hk, if_neg (fun h => h.1 hzero), List.append_nil]
  have hlt : entries[k].remapsToAbilityId.toNat < entries.length := by
    rw [hzero]
    exact Nat.zero_lt_of_lt hk
  unfold linkAbility
  rw [hsources]
  simp only [dropped_succ_iff hk hlt hj]

/-- A remap outside the table is dropped with an error. -/
theorem linkAbilities_succ_of_stray (hne : entries[k].remapsToAbilityId ≠ 0)
    (hstray : entries.length ≤ entries[k].remapsToAbilityId.toNat) :
    linkAbilities entries (k + 1) =
      ((linkAbilities entries k).1.modify k fun entry => { entry with remapsToAbilityId := 0 },
        (linkAbilities entries k).2 ++ [.invalidAbilityRemap]) := by
  unfold linkAbilities
  rw [strays_succ hk, if_pos ⟨hne, hstray⟩, List.replicate_succ', modify_mapIdx]
  congr 1
  rw [List.mapIdx_eq_mapIdx_iff]
  intro j hj
  have hnot : ¬(entries[k].remapsToAbilityId ≠ 0 ∧ entries[k].remapsToAbilityId.toNat = j) := by
    omega
  have hsources : sources entries (k + 1) j = sources entries k j := by
    rw [sources_succ hk, if_neg hnot, List.append_nil]
  unfold linkAbility
  rw [hsources]
  by_cases hjk : k = j
  · subst hjk
    simp [hstray]
  · have hremap : j < k + 1 ↔ j < k := by omega
    simp only [hremap, if_neg hjk]

/-- A remap into the table is entered where it points to. -/
theorem linkAbilities_succ_of_lt (hne : entries[k].remapsToAbilityId ≠ 0)
    (hlt : entries[k].remapsToAbilityId.toNat < entries.length) :
    linkAbilities entries (k + 1) =
      ((linkAbilities entries k).1.modify entries[k].remapsToAbilityId.toNat fun entry =>
        { entry with
          remapsFromAbilityId := entry.remapsFromAbilityId ++ [entries[k].abilityId] },
        (linkAbilities entries k).2) := by
  unfold linkAbilities
  rw [strays_succ hk, if_neg (fun h => Nat.not_le_of_lt hlt h.2), Nat.add_zero, modify_mapIdx]
  congr 1
  rw [List.mapIdx_eq_mapIdx_iff]
  intro j hj
  unfold linkAbility
  rw [sources_succ hk]
  simp only [dropped_succ_iff hk hlt hj]
  by_cases hdest : entries[k].remapsToAbilityId.toNat = j
  · simp [hdest, hne]
  · simp [hdest]

theorem remapAbility_linkAbilities :
    remapAbility (linkAbilities entries k) k = linkAbilities entries (k + 1) := by
  have hlength : (linkAbilities entries k).1.length = entries.length := List.length_mapIdx
  unfold remapAbility
  rw [getElem?_linkAbilities hk, hlength]
  dsimp only
  split
  · next hzero => exact (linkAbilities_succ_of_zero hk hzero).symm
  · next hne =>
    split
    · next hstray => exact (linkAbilities_succ_of_stray hk hne hstray).symm
    · next hlt => exact (linkAbilities_succ_of_lt hk hne (Nat.lt_of_not_le hlt)).symm

end Step

/-- The remap loop links all entries. -/
theorem foldl_remapAbility (entries : Abilities) :
    (List.range entries.length).foldl remapAbility (entries, []) =
      linkAbilities entries entries.length := by
  have hprefix : ∀ k ≤ entries.length,
      (List.range k).foldl remapAbility (entries, []) = linkAbilities entries k := by
    intro k hk
    induction k with
    | zero => exact (linkAbilities_zero entries).symm
    | succ k ih =>
      rw [List.range_succ, List.foldl_append, ih (by omega)]
      exact remapAbility_linkAbilities (by omega)
  exact hprefix _ le_rfl

/-! ## A loaded ability table -/

/-- The remap of a message, 0 where there is none. -/
def Proto.AbilityData.remap (data : Proto.AbilityData) : UInt32 := data.remapsToAbilityId.getD 0

/-- The message's remap points outside a table of a size. -/
def Proto.AbilityData.Stray (size : Nat) (data : Proto.AbilityData) : Prop :=
  data.remap ≠ 0 ∧ size ≤ data.remap.toNat

instance (size : Nat) (data : Proto.AbilityData) : Decidable (data.Stray size) :=
  inferInstanceAs (Decidable (_ ∧ _))

/-- The messages have no ids, or those of their positions. -/
def IdsByPosition (messages : List Proto.AbilityData) : Prop :=
  ∀ i data, messages[i]? = some data →
    data.abilityId = none ∨ data.abilityId = some (UInt32.ofNat i)

/-- What a table says of the messages it was made of: remaps lead into the table, and `i` is
once among those that remap to `j` exactly when it does. -/
structure Linked (messages : List Proto.AbilityData) (abilities : Abilities) : Prop where
  length : abilities.length = messages.length
  abilityId : ∀ (i : Nat) (entry : AbilityData), abilities[i]? = some entry →
    entry.abilityId = UInt32.ofNat i
  remapsTo : ∀ (i : Nat) (data : Proto.AbilityData) (entry : AbilityData),
    messages[i]? = some data → abilities[i]? = some entry →
      entry.remapsToAbilityId = if data.Stray messages.length then 0 else data.remap
  remapsTo_lt : ∀ entry ∈ abilities, entry.remapsToAbilityId.toNat < abilities.length
  remapsFrom : ∀ (i j : Nat) (source dest : AbilityData),
    abilities[i]? = some source → abilities[j]? = some dest →
      dest.remapsFromAbilityId.count (UInt32.ofNat i) =
        if source.remapsToAbilityId.toNat = j ∧ j ≠ 0 then 1 else 0
  remapsFrom_lt : ∀ entry ∈ abilities, ∀ id ∈ entry.remapsFromAbilityId,
    id.toNat < abilities.length

/-- The entries before the remaps. -/
def readAbilities (messages : List Proto.AbilityData) : Abilities :=
  messages.mapIdx fun i data => AbilityData.readFromProto { abilityId := UInt32.ofNat i } data

theorem loadAbilityData_eq (messages : List Proto.AbilityData) :
    loadAbilityData messages =
      linkAbilities (readAbilities messages) (readAbilities messages).length :=
  foldl_remapAbility (readAbilities messages)

section Loading

variable {messages : List Proto.AbilityData}

theorem getElem?_readAbilities {i : Nat} {entry : AbilityData}
    (h : (readAbilities messages)[i]? = some entry) :
    ∃ data, messages[i]? = some data ∧
      entry = AbilityData.readFromProto { abilityId := UInt32.ofNat i } data := by
  unfold readAbilities at h
  rw [List.getElem?_mapIdx, Option.map_eq_some_iff] at h
  obtain ⟨data, hdata, rfl⟩ := h
  exact ⟨data, hdata, rfl⟩

@[simp] theorem length_readAbilities : (readAbilities messages).length = messages.length :=
  List.length_mapIdx

theorem abilityId_readAbilities (hids : IdsByPosition messages) {i : Nat} {entry : AbilityData}
    (h : (readAbilities messages)[i]? = some entry) : entry.abilityId = UInt32.ofNat i := by
  obtain ⟨data, hdata, rfl⟩ := getElem?_readAbilities h
  unfold AbilityData.readFromProto
  rcases hids i data hdata with hid | hid <;> rw [hid] <;> rfl

/-- Positions are their ids: a list of messages has at most `INT_MAX` entries. -/
theorem toNat_position {i n : Nat} (hi : i < n) (hn : n < 2 ^ 31) :
    (UInt32.ofNat i).toNat = i := by
  refine UInt32.toNat_ofNat_of_lt' ?_
  have hsize : UInt32.size = 2 ^ 32 := rfl
  omega

/-- How often an entry is among those that remap to `j`. -/
theorem count_sources (hids : IdsByPosition messages) (hsize : messages.length < 2 ^ 31)
    {i : Nat} {entry : AbilityData} (h : (readAbilities messages)[i]? = some entry) (j : Nat) :
    (sources (readAbilities messages) messages.length j).count (UInt32.ofNat i) =
      if entry.remapsToAbilityId ≠ 0 ∧ entry.remapsToAbilityId.toNat = j then 1 else 0 := by
  unfold sources
  rw [List.take_of_length_le (by simp), List.count, List.countP_map, List.countP_filter,
    countP_of_position h]
  · simp [abilityId_readAbilities hids h]
  · intro k y hk hy
    have hid : y.abilityId = UInt32.ofNat i := by
      simp only [Function.comp_apply, Bool.and_eq_true, beq_iff_eq] at hy
      exact hy.1
    rw [abilityId_readAbilities hids hk] at hid
    have hklt := (List.getElem?_eq_some_iff.1 hk).1
    have hilt := (List.getElem?_eq_some_iff.1 h).1
    rw [length_readAbilities] at hklt hilt
    rw [← toNat_position hklt hsize, hid, toNat_position hilt hsize]

theorem mem_sources (hids : IdsByPosition messages) (hsize : messages.length < 2 ^ 31) {k j : Nat}
    {id : AbilityID} (h : id ∈ sources (readAbilities messages) k j) :
    id.toNat < messages.length := by
  obtain ⟨entry, hentry, rfl⟩ := List.mem_map.1 h
  obtain ⟨i, hi⟩ := List.getElem?_of_mem (List.mem_of_mem_take (List.mem_filter.1 hentry).1)
  have hilt := (List.getElem?_eq_some_iff.1 hi).1
  rw [length_readAbilities] at hilt
  rwa [abilityId_readAbilities hids hi, toNat_position hilt hsize]

/-- An entry of the table comes from its message. -/
theorem getElem?_loadAbilityData {i : Nat} {entry : AbilityData}
    (h : (loadAbilityData messages).1[i]? = some entry) :
    ∃ before, (readAbilities messages)[i]? = some before ∧
      entry = linkAbility (readAbilities messages) messages.length i before := by
  rw [loadAbilityData_eq, length_readAbilities] at h
  unfold linkAbilities at h
  rw [List.getElem?_mapIdx, Option.map_eq_some_iff] at h
  obtain ⟨before, hbefore, rfl⟩ := h
  exact ⟨before, hbefore, rfl⟩

/-- The remap that is left is the one read, if it leads into the table. -/
theorem remapsTo_linkAbility {entries : Abilities} {i : Nat} (hi : i < entries.length)
    (entry : AbilityData) :
    (linkAbility entries entries.length i entry).remapsToAbilityId =
      if entries.length ≤ entry.remapsToAbilityId.toNat then 0 else entry.remapsToAbilityId := by
  unfold linkAbility
  simp only [hi, true_and]

theorem loadAbilityData_linked (hfilled : messages ≠ []) (hsize : messages.length < 2 ^ 31)
    (hids : IdsByPosition messages) : Linked messages (loadAbilityData messages).1 := by
  have hpos : 0 < messages.length := List.length_pos_iff.2 hfilled
  have hlength : (loadAbilityData messages).1.length = messages.length := by
    rw [loadAbilityData_eq]
    exact List.length_mapIdx.trans length_readAbilities
  have hremapsTo : ∀ (i : Nat) (before : AbilityData), (readAbilities messages)[i]? = some before →
      (linkAbility (readAbilities messages) messages.length i before).remapsToAbilityId =
        if messages.length ≤ before.remapsToAbilityId.toNat then 0
        else before.remapsToAbilityId := by
    intro i before hbefore
    have hi := (List.getElem?_eq_some_iff.1 hbefore).1
    have hlink := remapsTo_linkAbility hi before
    rwa [length_readAbilities] at hlink
  have hremapsTo_lt : ∀ (i : Nat) (before : AbilityData),
      (readAbilities messages)[i]? = some before →
      (linkAbility (readAbilities messages) messages.length i before).remapsToAbilityId.toNat <
        messages.length := by
    intro i before hbefore
    rw [hremapsTo i before hbefore]
    split
    · exact hpos
    · omega
  have hempty : ∀ (i : Nat) (before : AbilityData), (readAbilities messages)[i]? = some before →
      before.remapsFromAbilityId = [] := by
    intro i before hbefore
    obtain ⟨data, -, rfl⟩ := getElem?_readAbilities hbefore
    rfl
  constructor
  · exact hlength
  · intro i entry h
    obtain ⟨before, hbefore, rfl⟩ := getElem?_loadAbilityData h
    show before.abilityId = _
    exact abilityId_readAbilities hids hbefore
  · intro i data entry hdata h
    obtain ⟨before, hbefore, rfl⟩ := getElem?_loadAbilityData h
    rw [hremapsTo i before hbefore]
    obtain ⟨data', hdata', rfl⟩ := getElem?_readAbilities hbefore
    obtain rfl : data = data' := Option.some.inj (hdata.symm.trans hdata')
    have hstray : messages.length ≤ data.remap.toNat ↔ data.Stray messages.length := by
      refine ⟨fun hle => ⟨fun hzero => ?_, hle⟩, fun hs => hs.2⟩
      rw [hzero] at hle
      exact absurd hle (Nat.not_le_of_lt hpos)
    show (if messages.length ≤ data.remap.toNat then 0 else data.remap) = _
    simp only [hstray]
  · intro entry hmem
    obtain ⟨i, hi⟩ := List.getElem?_of_mem hmem
    obtain ⟨before, hbefore, rfl⟩ := getElem?_loadAbilityData hi
    rw [hlength]
    exact hremapsTo_lt i before hbefore
  · intro i j source dest hsource hdest
    obtain ⟨before, hbefore, rfl⟩ := getElem?_loadAbilityData hsource
    obtain ⟨target, htarget, rfl⟩ := getElem?_loadAbilityData hdest
    have hj := (List.getElem?_eq_some_iff.1 htarget).1
    rw [length_readAbilities] at hj
    rw [hremapsTo i before hbefore]
    show (target.remapsFromAbilityId ++ sources _ _ j).count _ = _
    rw [hempty j target htarget, List.nil_append, count_sources hids hsize hbefore]
    refine if_congr ?_ rfl rfl
    have hne : before.remapsToAbilityId ≠ 0 ↔ before.remapsToAbilityId.toNat ≠ 0 :=
      not_congr UInt32.toNat_inj.symm
    have hzero : (0 : UInt32).toNat = 0 := rfl
    rw [hne, apply_ite UInt32.toNat, hzero]
    split <;> omega
  · intro entry hmem id hid
    obtain ⟨j, hj⟩ := List.getElem?_of_mem hmem
    obtain ⟨before, hbefore, rfl⟩ := getElem?_loadAbilityData hj
    rw [hlength]
    have hid : id ∈ before.remapsFromAbilityId ++ sources _ _ j := hid
    rw [hempty j before hbefore, List.nil_append] at hid
    exact mem_sources hids hsize hid

/-- There is an error for each remap that is out of range. -/
theorem loadAbilityData_errors (messages : List Proto.AbilityData) :
    (loadAbilityData messages).2 =
      List.replicate (messages.countP fun data => data.Stray messages.length)
        .invalidAbilityRemap := by
  have hstrays : strays (readAbilities messages) messages.length =
      messages.countP fun data => data.Stray messages.length := by
    unfold strays
    rw [List.take_of_length_le (by simp), length_readAbilities]
    unfold readAbilities
    rw [List.mapIdx_eq_zipIdx_map, List.countP_map]
    have hcount := List.countP_map (p := fun data : Proto.AbilityData =>
      decide (data.Stray messages.length)) (f := Prod.fst) (l := messages.zipIdx)
    rw [List.zipIdx_map_fst] at hcount
    exact hcount.symm
  rw [loadAbilityData_eq, length_readAbilities]
  unfold linkAbilities
  rw [hstrays]

end Loading

end Sc2Api
