import Mathlib.Tactic.Common
import Sc2Api.Lib.Lists
import Sc2Api.Serialization

/-!
# Reading back what is written

Numbers are written as unsigned and read as signed ones: what is written is read back if all
numbers and the sizes of all sets are below `2 ^ 31`.
-/

namespace Sc2Api.Value

open Lib

/-! ## Numbers -/

section Numbers

variable {n : Nat} {rest : Text}

/-- A line that is written is read, and the rest is left. -/
theorem getLine_writeLine {line : Text} (h : '\n' ∉ line) (old rest : Text) :
    getLine old { text := writeLine line ++ rest } = (true, line, { text := rest }) := by
  have hbreak : '\n' ∈ writeLine line ++ rest := by
    simp [writeLine]
  have hline : getline (writeLine line ++ rest) = some (line, rest) := by
    unfold writeLine
    rw [List.append_assoc]
    exact getline_append h rest
  unfold getLine
  dsimp only
  rw [hline]
  simp [hbreak]

theorem toUInt32_ofInt (t : UInt32) : (Int32.ofInt (t.toNat : Int)).toUInt32 = t := by
  refine UInt32.toBitVec_inj.1 ?_
  change BitVec.ofInt 32 (t.toBitVec.toNat : Int) = t.toBitVec
  rw [BitVec.ofInt_natCast, BitVec.ofNat_toNat, BitVec.setWidth_eq]

theorem readNumber_of_lt (h : n < 2 ^ 31) (t : UInt32) (rest : Text) :
    readNumber t { text := writeLine (decimal n) ++ rest } =
      .ok (UInt32.ofNat n, { text := rest }) := by
  have hfits : FitsInt (n : Int) := by
    unfold FitsInt
    omega
  have hn : (UInt32.ofNat n).toNat = n := UInt32.toNat_ofNat_of_lt' (h.trans (by decide))
  have hvalue := toUInt32_ofInt (UInt32.ofNat n)
  rw [hn] at hvalue
  unfold readNumber
  rw [getLine_writeLine newline_notMem_decimal]
  dsimp only
  rw [stoi_decimal, checked_of_fits hfits]
  change Except.ok ((Int32.ofInt (n : Int)).toUInt32, InputFile.mk rest true) = _
  rw [hvalue]

theorem readNumber_of_le (h : 2 ^ 31 ≤ n) (t : UInt32) (rest : Text) :
    readNumber t { text := writeLine (decimal n) ++ rest } = .error .outOfRange := by
  have hfits : ¬FitsInt (n : Int) := by
    unfold FitsInt
    omega
  unfold readNumber
  rw [getLine_writeLine newline_notMem_decimal]
  dsimp only
  rw [stoi_decimal, checked_of_not_fits hfits]
  rfl

theorem readBool_write (b t : Bool) (rest : Text) :
    readBool t { text := write (.bool b) ++ rest } = .ok (b, { text := rest }) := by
  cases b with
  | false =>
    unfold readBool write
    rw [getLine_writeLine (by decide)]
    rfl
  | true =>
    unfold readBool write
    rw [getLine_writeLine (by decide)]
    rfl

end Numbers

/-! ## Sets -/

section Sets

variable {elements : List UInt32}

theorem readElements_of_lt (h : ∀ t ∈ elements, t.toNat < 2 ^ 31) (s : Finset UInt32)
    (rest : Text) :
    readElements elements.length s { text := elements.flatMap writeNumber ++ rest } =
      .ok (s ∪ elements.toFinset, { text := rest }) := by
  induction elements generalizing s with
  | nil =>
    rw [List.toFinset_nil, Finset.union_empty]
    rfl
  | cons t elements ih =>
    obtain ⟨ht, htail⟩ := List.forall_mem_cons.1 h
    have hread : readNumber 0 { text := writeNumber t ++ (elements.flatMap writeNumber ++ rest) } =
        .ok (t, { text := elements.flatMap writeNumber ++ rest }) := by
      rw [writeNumber, readNumber_of_lt ht, UInt32.ofNat_toNat]
    rw [List.flatMap_cons, List.append_assoc, List.length_cons, readElements, hread]
    refine (ih htail (insert t s)).trans ?_
    rw [List.toFinset_cons, Finset.insert_union, Finset.union_insert]

theorem lt_of_readElements {s s' : Finset UInt32} {rest : Text} {file : InputFile}
    (h : readElements elements.length s { text := elements.flatMap writeNumber ++ rest } =
      .ok (s', file)) :
    ∀ t ∈ elements, t.toNat < 2 ^ 31 := by
  induction elements generalizing s with
  | nil => exact nofun
  | cons t elements ih =>
    rw [List.flatMap_cons, List.append_assoc, List.length_cons, readElements] at h
    by_cases ht : t.toNat < 2 ^ 31
    · rw [writeNumber, readNumber_of_lt ht] at h
      exact List.forall_mem_cons.2 ⟨ht, ih h⟩
    · rw [writeNumber, readNumber_of_le (not_lt.1 ht)] at h
      cases h

theorem readSet_write {s : Finset UInt32} (hcard : s.card < 2 ^ 31)
    (h : ∀ t ∈ s, t.toNat < 2 ^ 31) (rest : Text) :
    readSet ∅ { text := writeSet s ++ rest } = .ok (s, { text := rest }) := by
  have helements := @readElements_of_lt (s.sort (· ≤ ·))
    (fun t ht => h t ((Finset.mem_sort _).1 ht)) ∅ rest
  rw [Finset.length_sort, Finset.sort_toFinset, Finset.empty_union] at helements
  unfold readSet writeSet
  rw [List.append_assoc, readNumber_of_lt hcard]
  change readElements (UInt32.ofNat s.card).toNat ∅ _ = _
  rw [UInt32.toNat_ofNat_of_lt' (hcard.trans (by decide))]
  exact helements

theorem lt_of_readSet {s s' : Finset UInt32} {rest : Text} {file : InputFile}
    (h : readSet ∅ { text := writeSet s ++ rest } = .ok (s', file)) :
    s.card < 2 ^ 31 ∧ ∀ t ∈ s, t.toNat < 2 ^ 31 := by
  unfold readSet writeSet at h
  rw [List.append_assoc] at h
  by_cases hcard : s.card < 2 ^ 31
  · rw [readNumber_of_lt hcard] at h
    change readElements (UInt32.ofNat s.card).toNat ∅ _ = _ at h
    rw [UInt32.toNat_ofNat_of_lt' (hcard.trans (by decide)),
      ← Finset.length_sort (s := s) (· ≤ ·)] at h
    exact ⟨hcard, fun t ht => lt_of_readElements h t ((Finset.mem_sort _).2 ht)⟩
  · rw [readNumber_of_le (not_lt.1 hcard)] at h
    cases h

end Sets

/-! ## Sequences -/

/-- A string is a line. -/
def IsLine : Value → Prop
  | .string t => '\n' ∉ t
  | _ => True

/-- The numbers of the value, and the size of a set, are below `2 ^ 31`. -/
def Small : Value → Prop
  | .number t => t.toNat < 2 ^ 31
  | .set s => s.card < 2 ^ 31 ∧ ∀ t ∈ s, t.toNat < 2 ^ 31
  | _ => True

/-- A variable of the type of a value: a set is empty before it is read. -/
inductive Receives : Value → Value → Prop
  | string (t t' : Text) : Receives (.string t) (.string t')
  | bool (t t' : Bool) : Receives (.bool t) (.bool t')
  | number (t t' : UInt32) : Receives (.number t) (.number t')
  | set (s : Finset UInt32) : Receives (.set ∅) (.set s)

/-- What is written is read back, to the end of the file. -/
def RoundTrips (values : List Value) : Prop :=
  ∀ targets, List.Forall₂ Receives targets values →
    readAll targets { text := writeAll values } = .ok (values, { text := [] })

section Sequences

variable {target value : Value} {targets values : List Value}

theorem read_write (h : Receives target value) (hline : value.IsLine) (hsmall : value.Small)
    (rest : Text) :
    target.read { text := value.write ++ rest } = .ok (value, { text := rest }) := by
  cases h with
  | string t t' =>
    unfold read write readString
    dsimp only
    rw [getLine_writeLine hline]
  | bool t t' =>
    unfold read
    dsimp only
    rw [readBool_write]
    rfl
  | number t t' =>
    unfold read write writeNumber
    dsimp only
    rw [readNumber_of_lt hsmall, UInt32.ofNat_toNat]
    rfl
  | set s =>
    unfold read write
    dsimp only
    rw [readSet_write hsmall.1 hsmall.2]
    rfl

theorem small_of_read (h : Receives target value) {rest : Text} {result : Value × InputFile}
    (hread : target.read { text := value.write ++ rest } = .ok result) : value.Small := by
  cases h with
  | string t t' => trivial
  | bool t t' => trivial
  | number t t' =>
    obtain ⟨result, hresult, -⟩ := bind_eq_ok_iff.1 hread
    by_contra hsmall
    unfold write writeNumber at hresult
    rw [readNumber_of_le (not_lt.1 hsmall)] at hresult
    cases hresult
  | set s =>
    obtain ⟨result, hresult, -⟩ := bind_eq_ok_iff.1 hread
    exact lt_of_readSet hresult

theorem readAll_writeAll_iff (h : List.Forall₂ Receives targets values)
    (hlines : ∀ v ∈ values, v.IsLine) :
    readAll targets { text := writeAll values } = .ok (values, { text := [] }) ↔
      ∀ v ∈ values, v.Small := by
  induction h with
  | nil => exact iff_of_true rfl nofun
  | @cons target value targets values hreceives _ ih =>
    obtain ⟨hline, htail⟩ := List.forall_mem_cons.1 hlines
    unfold readAll writeAll
    rw [List.flatMap_cons, List.forall_mem_cons]
    constructor
    · intro hread
      obtain ⟨result, hresult, hrest⟩ := bind_eq_ok_iff.1 hread
      have hsmall := small_of_read hreceives hresult
      rw [read_write hreceives hline hsmall] at hresult
      cases hresult
      obtain ⟨⟨values', file⟩, hvalues, hrest⟩ := bind_eq_ok_iff.1 hrest
      cases hrest
      exact ⟨hsmall, (ih htail).1 hvalues⟩
    · rintro ⟨hsmall, hrest⟩
      rw [read_write hreceives hline hsmall]
      change (readAll targets { text := writeAll values } >>= fun result =>
        pure (value :: result.1, result.2)) = _
      rw [(ih htail).2 hrest]
      rfl

/-- For every value there is a variable. -/
theorem exists_receives (values : List Value) :
    ∃ targets, List.Forall₂ Receives targets values := by
  induction values with
  | nil => exact ⟨[], .nil⟩
  | cons value values ih =>
    obtain ⟨targets, htargets⟩ := ih
    cases value with
    | string t => exact ⟨_, .cons (.string [] t) htargets⟩
    | bool t => exact ⟨_, .cons (.bool false t) htargets⟩
    | number t => exact ⟨_, .cons (.number 0 t) htargets⟩
    | set s => exact ⟨_, .cons (.set s) htargets⟩

end Sequences

theorem roundTrips_iff (values : List Value) (hlines : ∀ v ∈ values, v.IsLine) :
    RoundTrips values ↔ ∀ v ∈ values, v.Small := by
  constructor
  · intro h
    obtain ⟨targets, htargets⟩ := exists_receives values
    exact (readAll_writeAll_iff htargets hlines).1 (h targets htargets)
  · exact fun h targets htargets => (readAll_writeAll_iff htargets hlines).2 h

/-- A string with spaces, a truth value, the largest number that reads back, and a set. -/
def mixedValues : List Value :=
  [.string ['a', ' ', '7'], .bool true, .number 2147483647, .set {3, 1, 2147483647}]

theorem roundTrips_iff_mixed :
    (∀ v ∈ mixedValues, v.IsLine) ∧ (RoundTrips mixedValues ↔ ∀ v ∈ mixedValues, v.Small) ∧
      RoundTrips mixedValues ∧ ¬RoundTrips (mixedValues ++ [.set {1, 2147483648}]) := by
  have hlines : ∀ v ∈ mixedValues, v.IsLine := by
    simp [mixedValues, IsLine]
  have hsmall : ∀ v ∈ mixedValues, v.Small := by
    simp [mixedValues, Small]
  have hmore : ∀ v ∈ mixedValues ++ [.set {1, 2147483648}], v.IsLine :=
    forall_mem_concat hlines trivial
  refine ⟨hlines, roundTrips_iff mixedValues hlines, (roundTrips_iff _ hlines).2 hsmall, ?_⟩
  intro h
  have hset := (roundTrips_iff _ hmore).1 h _ (List.mem_append_right _ (List.mem_singleton_self _))
  exact absurd (hset.2 2147483648 (by decide)) (by decide)

/-- The number `2 ^ 31` is written, and reading it throws. -/
theorem number_not_roundTrips : ¬RoundTrips [.number 2147483648] := fun h =>
  absurd (h [.number 0] (.cons (.number _ _) .nil)) (by decide +kernel)

end Sc2Api.Value
