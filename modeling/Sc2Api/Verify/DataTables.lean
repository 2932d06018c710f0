import Sc2Api.Verify.AbilityLinks
import Sc2Api.Verify.ShownAbilities

/-!
# Loading and keeping tables

A loaded ability table is served without requests until its flag is cleared or it is asked
for anew. A refresh that fails leaves no table at all.
-/

namespace Sc2Api

open Lib

/-! ## The getters -/

namespace CachedTable

variable {μ ε : Type} {messages : Proto.ResponseData → List μ}
  {load : List μ → List ε × List ClientError} {table : CachedTable ε}

/-- The table is at hand. -/
def Loaded (table : CachedTable ε) : Prop := table.cached = true ∧ table.entries ≠ []

theorem get_of_loaded (h : table.Loaded) (answer : DataAnswer) :
    table.get messages load false answer = (false, table, []) := by
  obtain ⟨entries, cached⟩ := table
  obtain ⟨rfl, hfilled⟩ : cached = true ∧ entries ≠ [] := h
  cases entries with
  | nil => exact absurd rfl hfilled
  | cons => rfl

/-- A call that makes a request clears the table and stores what comes. -/
theorem get_of_requested {forceRefresh : Bool} {answer : DataAnswer}
    (h : (table.get messages load forceRefresh answer).1 = true) :
    table.get messages load forceRefresh answer = (true,
      (answer.data?.map fun data =>
        if messages data = [] then (⟨[], false⟩, [])
        else (⟨(load (messages data)).1, true⟩, (load (messages data)).2)).getD
          (⟨[], false⟩, [])) := by
  unfold get at h ⊢
  dsimp only at h ⊢
  split at h
  · cases h
  · next hcached =>
    rw [if_neg hcached]
    cases answer.data? with
    | none => rfl
    | some data =>
      simp only [List.length_eq_zero_iff, Option.map_some, Option.getD_some]
      split <;> rfl

theorem get_force_requested (answer : DataAnswer) :
    (table.get messages load true answer).1 = true := by
  unfold get
  simp only [Bool.true_or, Bool.not_true, Bool.and_false, Bool.false_eq_true, if_false]
  split
  · rfl
  · split <;> rfl

end CachedTable

namespace DataTables

/-- The getter of the abilities is the one that the conversions use. -/
theorem run_getAbilityData (t : DataTables) (forceRefresh : Bool) (answer : DataAnswer)
    {answers : List (Option (List Proto.AbilityData))} :
    (Sc2Api.getAbilityData forceRefresh).run ⟨t.abilities.entries, t.abilities.cached,
        answer.data?.map (·.abilities) :: answers, t.errors⟩ =
      let (requested, t') := t.getAbilityData forceRefresh answer
      (t'.abilities.entries, ⟨t'.abilities.entries, t'.abilities.cached,
        if requested then answers else answer.data?.map (·.abilities) :: answers,
        t'.errors⟩) := by
  obtain ⟨⟨entries, cached⟩, unitTypes, upgrades, buffs, effects, errors⟩ := t
  unfold getAbilityData CachedTable.get
  dsimp only
  generalize answer.data? = data
  rcases data with _ | ⟨_ | ⟨message, messages⟩, _⟩ <;> cases entries <;> cases cached <;>
    cases forceRefresh <;> simp <;> rfl

variable {t : DataTables} {answer : DataAnswer}

/-- A call that loads the table stores what it reads and records the errors. -/
theorem getAbilityData_of_answer {forceRefresh : Bool} {data : Proto.ResponseData}
    (hrequested : (t.getAbilityData forceRefresh answer).1 = true)
    (hdata : answer.data? = some data) (hfilled : data.abilities ≠ []) :
    (t.getAbilityData forceRefresh answer).2 = { t with
      abilities := ⟨(loadAbilityData data.abilities).1, true⟩
      errors := t.errors ++ (loadAbilityData data.abilities).2 } := by
  unfold getAbilityData at hrequested ⊢
  dsimp only at hrequested ⊢
  rw [CachedTable.get_of_requested hrequested, hdata, Option.map_some, Option.getD_some,
    if_neg hfilled]

end DataTables

/-! ## Keeping the ability table -/

/-- A call after which a loaded ability table is the same: neither `ClearFlags` nor a forced
refresh. -/
def DataOp.KeepsAbilities : DataOp → Prop
  | .clearFlags => False
  | .get .abilities forceRefresh _ => forceRefresh = false
  | .get _ _ _ => True

namespace DataTables

variable {t : DataTables}

theorem step_of_keepsAbilities (h : t.abilities.Loaded) {op : DataOp} (hop : op.KeepsAbilities) :
    (dataMachine.step t op).1.abilities = t.abilities := by
  cases op with
  | clearFlags => exact absurd hop id
  | get table forceRefresh answer =>
    cases table with
    | abilities =>
      obtain rfl : forceRefresh = false := hop
      show (t.getAbilityData false answer).2.abilities = _
      unfold getAbilityData
      rw [CachedTable.get_of_loaded h]
    | unitTypes => rfl
    | upgrades => rfl
    | buffs => rfl
    | effects => rfl

theorem final_of_keepsAbilities (h : t.abilities.Loaded) {ops : List DataOp}
    (hops : ∀ op ∈ ops, op.KeepsAbilities) :
    (dataMachine.final t ops).abilities = t.abilities := by
  refine Machine.invariant (m := dataMachine) (I := fun s => s.abilities = t.abilities)
    (C := fun _ op => op.KeepsAbilities) ?_ rfl (Machine.along_of_mem hops t)
  intro s op hs hop
  rw [step_of_keepsAbilities (hs ▸ h) hop, hs]

/-- A table that is at hand is returned without a request. -/
theorem step_get_of_loaded (h : t.abilities.Loaded) (answer : DataAnswer) :
    dataMachine.step t (.get .abilities false answer) = (t, false) := by
  show ((t.getAbilityData false answer).2, (t.getAbilityData false answer).1) = _
  unfold getAbilityData
  rw [CachedTable.get_of_loaded h]
  simp

/-- A successful `GetAbilityData` makes a table whose remaps are linked both ways, with an
error for each that is out of range, and calls that are not forced return this table without
a request until a call of `ClearFlags` or with `force_refresh`. -/
theorem ability_table_linked_and_kept (t : DataTables) {forceRefresh : Bool}
    {answer : DataAnswer} {data : Proto.ResponseData}
    (hrequested : (t.getAbilityData forceRefresh answer).1 = true)
    (hdata : answer.data? = some data) (hfilled : data.abilities ≠ [])
    (hsize : data.abilities.length < 2 ^ 31) (hids : IdsByPosition data.abilities) :
    let t' := (t.getAbilityData forceRefresh answer).2
    Linked data.abilities t'.abilities.entries ∧
      t'.errors = t.errors ++ List.replicate
        (data.abilities.countP fun ability => ability.Stray data.abilities.length)
        .invalidAbilityRemap ∧
      ∀ ops : List DataOp, (∀ op ∈ ops, op.KeepsAbilities) → ∀ later : DataAnswer,
        dataMachine.step (dataMachine.final t' ops) (.get .abilities false later) =
          (dataMachine.final t' ops, false) ∧
        (dataMachine.final t' ops).abilities.entries = t'.abilities.entries := by
  dsimp only
  rw [getAbilityData_of_answer hrequested hdata hfilled]
  have hlinked := loadAbilityData_linked hfilled hsize hids
  refine ⟨hlinked, ?_, ?_⟩
  · show t.errors ++ (loadAbilityData data.abilities).2 = _
    rw [loadAbilityData_errors]
  · intro ops hops later
    have hloaded : (⟨(loadAbilityData data.abilities).1, true⟩ : CachedTable AbilityData).Loaded :=
      ⟨rfl, fun hnil => hfilled (List.length_eq_zero_iff.1 (by
        rw [← hlinked.length]
        exact List.length_eq_zero_iff.2 hnil))⟩
    have hkept := final_of_keepsAbilities (t := { t with
      abilities := ⟨(loadAbilityData data.abilities).1, true⟩
      errors := t.errors ++ (loadAbilityData data.abilities).2 }) hloaded hops
    exact ⟨step_get_of_loaded (hkept ▸ hloaded) later, by rw [hkept]⟩

end DataTables

/-- A response with the data of abilities that remap to the given ones. -/
def DataAnswer.ofRemaps (targets : List UInt32) : DataAnswer :=
  .response [] (some { abilities := remapsTo targets })

theorem idsByPosition_remapsTo (targets : List UInt32) : IdsByPosition (remapsTo targets) := by
  intro i data h
  unfold remapsTo at h
  rw [List.getElem?_map, Option.map_eq_some_iff] at h
  obtain ⟨target, -, rfl⟩ := h
  exact .inl rfl

namespace DataTables

/-- The abilities 1 and 2 remap to each other, 3 to itself and 4 nowhere. -/
theorem ability_table_linked_and_kept_five :
    let t' := (({} : DataTables).getAbilityData false (.ofRemaps [0, 2, 1, 3, 9])).2
    Linked (remapsTo [0, 2, 1, 3, 9]) t'.abilities.entries ∧
      t'.errors = [] ++ List.replicate
        ((remapsTo [0, 2, 1, 3, 9]).countP fun ability =>
          ability.Stray (remapsTo [0, 2, 1, 3, 9]).length)
        .invalidAbilityRemap ∧
      ∀ ops : List DataOp, (∀ op ∈ ops, op.KeepsAbilities) → ∀ later : DataAnswer,
        dataMachine.step (dataMachine.final t' ops) (.get .abilities false later) =
          (dataMachine.final t' ops, false) ∧
        (dataMachine.final t' ops).abilities.entries = t'.abilities.entries :=
  have hdata : (DataAnswer.ofRemaps [0, 2, 1, 3, 9]).data? =
      some { abilities := remapsTo [0, 2, 1, 3, 9] } := rfl
  ability_table_linked_and_kept {} rfl hdata (by decide) (by decide) (idsByPosition_remapsTo _)

/-- A forced refresh in between changes the table that calls return, without `ClearFlags`. -/
theorem ability_table_refreshed :
    let t' := (({} : DataTables).getAbilityData false (.ofRemaps [0, 2, 0])).2
    ¬∀ ops : List DataOp, (∀ op ∈ ops, op ≠ .clearFlags) → ∀ later : DataAnswer,
      dataMachine.step (dataMachine.final t' ops) (.get .abilities false later) =
        (dataMachine.final t' ops, false) ∧
      (dataMachine.final t' ops).abilities.entries = t'.abilities.entries := by
  intro t' h
  have hrefreshed := (h [.get .abilities true (.ofRemaps [0, 0])] (by simp) .notSent).2
  exact absurd hrefreshed (by decide +kernel)

end DataTables

/-! ## Failed refreshes -/

/-- The entries of a table. -/
def DataTable.Entry : DataTable → Type
  | .abilities => AbilityData
  | .unitTypes => UnitTypeData
  | .upgrades => UpgradeData
  | .buffs => BuffData
  | .effects => EffectData

def DataTables.table (t : DataTables) : (table : DataTable) → CachedTable table.Entry
  | .abilities => t.abilities
  | .unitTypes => t.unitTypes
  | .upgrades => t.upgrades
  | .buffs => t.buffs
  | .effects => t.effects

/-- The number of messages that a response has for a table. -/
def DataTable.count (data : Proto.ResponseData) : DataTable → Nat
  | .abilities => data.abilities.length
  | .unitTypes => data.units.length
  | .upgrades => data.upgrades.length
  | .buffs => data.buffs.length
  | .effects => data.effects.length

/-- The round trip brings nothing for a table. -/
inductive DataAnswer.Fails (table : DataTable) : DataAnswer → Prop
  | notSent : Fails table .notSent
  | noResponse : Fails table .noResponse
  | errors {error : List String} {data : Option Proto.ResponseData} (errors : error ≠ []) :
    Fails table (.response error data)
  | otherKind {error : List String} : Fails table (.response error none)
  | empty {error : List String} {data : Proto.ResponseData} (empty : table.count data = 0) :
    Fails table (.response error (some data))

theorem DataAnswer.Fails.count_eq {table : DataTable} {answer : DataAnswer}
    (h : answer.Fails table) {data : Proto.ResponseData} (hdata : answer.data? = some data) :
    table.count data = 0 := by
  cases h with
  | notSent => cases hdata
  | noResponse => cases hdata
  | @errors error data' hne =>
    cases error with
    | nil => exact absurd rfl hne
    | cons message messages => cases hdata
  | @otherKind error => cases error <;> cases hdata
  | @empty error data' hempty =>
    cases error with
    | nil =>
      obtain rfl : data' = data := Option.some.inj hdata
      exact hempty
    | cons message messages => cases hdata

/-- A forced call without messages leaves the empty table. -/
theorem CachedTable.get_force_of_empty {μ ε : Type} {messages : Proto.ResponseData → List μ}
    {load : List μ → List ε × List ClientError} (table : CachedTable ε) {answer : DataAnswer}
    (hempty : ∀ data, answer.data? = some data → (messages data).length = 0) :
    table.get messages load true answer = (true, ⟨[], false⟩, []) := by
  rw [get_of_requested (get_force_requested answer)]
  cases hdata : answer.data? with
  | none => rfl
  | some data =>
    rw [Option.map_some, Option.getD_some,
      if_pos (List.length_eq_zero_iff.1 (hempty data hdata))]

namespace DataTables

/-- A forced call whose round trip fails empties the table. -/
theorem get_of_fails (t : DataTables) {table : DataTable} {answer : DataAnswer}
    (h : answer.Fails table) : ((t.get table true answer).2.table table) = ⟨[], false⟩ := by
  have hcount := fun data (hdata : answer.data? = some data) => h.count_eq hdata
  cases table with
  | abilities =>
    show (t.getAbilityData true answer).2.abilities = _
    unfold getAbilityData
    rw [t.abilities.get_force_of_empty hcount]
    rfl
  | unitTypes =>
    show (t.getUnitTypeData true answer).2.unitTypes = _
    unfold getUnitTypeData
    rw [t.unitTypes.get_force_of_empty hcount]
    rfl
  | upgrades =>
    show (t.getUpgradeData true answer).2.upgrades = _
    unfold getUpgradeData
    rw [t.upgrades.get_force_of_empty hcount]
    rfl
  | buffs =>
    show (t.getBuffData true answer).2.buffs = _
    unfold getBuffData
    rw [t.buffs.get_force_of_empty hcount]
    rfl
  | effects =>
    show (t.getEffectData true answer).2.effects = _
    unfold getEffectData
    rw [t.effects.get_force_of_empty hcount]
    rfl

/-- A forced call leaves the entries of the table as they are, and returns them. -/
def KeepsOnRefresh (t : DataTables) (table : DataTable) (answer : DataAnswer) : Prop :=
  ((t.get table true answer).2.table table).entries = (t.table table).entries

/-- A refresh that fails discards a table that was loaded. -/
theorem failed_refresh_discards (t : DataTables) (table : DataTable) (answer : DataAnswer)
    (hloaded : (t.table table).Loaded) (hfails : answer.Fails table) :
    ¬t.KeepsOnRefresh table answer := by
  unfold KeepsOnRefresh
  rw [t.get_of_fails hfails]
  exact fun h => hloaded.2 h.symm

/-- A table of two buffs. -/
def ofBuff : DataTables where
  buffs := ⟨[⟨0, ""⟩, ⟨1, "Buff"⟩], true⟩

theorem failed_refresh_discards_buffs : ¬ofBuff.KeepsOnRefresh .buffs .notSent :=
  failed_refresh_discards ofBuff .buffs .notSent ⟨rfl, List.cons_ne_nil _ _⟩ .notSent

/-- The request is not sent: nothing is left to index by id. -/
theorem buffs_discarded :
    (ofBuff.get .buffs true .notSent).2.buffs.entries = [] ∧
      ¬ofBuff.KeepsOnRefresh .buffs .notSent :=
  ⟨rfl, fun h => List.cons_ne_nil _ _ h.symm⟩

end DataTables

end Sc2Api
