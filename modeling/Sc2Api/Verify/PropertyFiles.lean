import Mathlib.Tactic.Common
import Sc2Api.Lib.Assignments
import Sc2Api.Lib.Lists
import Sc2Api.PropertyReader

/-!
# Files of properties

The map that `LoadFile` leaves is the one that the lines `key=value` of the file give, if every
line that is not skipped has an equals sign and an index can count its characters.
-/

namespace Sc2Api.PropertyReader

open Lib

/-! ## Lines -/

/-- The line is to be looked at. -/
def Considered (line : Text) : Prop :=
  2 ≤ line.length ∧ line.head? ≠ some '#' ∧ line.head? ≠ some ' '

instance : DecidablePred Considered := fun _ => inferInstanceAs (Decidable (_ ∧ _ ∧ _))

def withoutLastSpace (text : Text) : Text :=
  if text.getLast? = some ' ' then text.dropLast else text

def withoutFirstSpace (text : Text) : Text :=
  if text.head? = some ' ' then text.tail else text

/-- The key is before the first equals sign, the value behind it. -/
def assignment (line : Text) : Text × Text :=
  (withoutLastSpace (line.takeWhile (· ≠ '=')),
    withoutFirstSpace (line.dropWhile (· ≠ '=')).tail)

/-- The keys with their values, line by line. -/
def assignments (lines : List Text) : List (Text × Text) :=
  (lines.filter fun line => Considered line ∧ '=' ∈ line).map assignment

/-- The line can be split at an equals sign, by an index of 32 bits. -/
def Splits (line : Text) : Prop := '=' ∈ line ∧ line.length < 2 ^ 32

instance : DecidablePred Splits := fun _ => inferInstanceAs (Decidable (_ ∧ _))

section Lines

variable {line before after done todo : Text} {turns : Nat}

theorem isSkipped_iff : isSkipped line = true ↔ ¬Considered line := by
  unfold isSkipped Considered
  cases line with
  | nil => simp
  | cons c line => grind

theorem assignment_split (h : '=' ∉ before) :
    assignment (before ++ '=' :: after) = (withoutLastSpace before, withoutFirstSpace after) := by
  have hall : ∀ c ∈ before, decide (c ≠ '=') = true := fun c hc =>
    decide_eq_true fun heq => h (heq ▸ hc)
  unfold assignment
  rw [List.takeWhile_append_of_pos hall, List.dropWhile_append_of_pos hall]
  simp

theorem equalIndex_split (h : '=' ∉ before) :
    equalIndex (before ++ '=' :: after) = before.length := by
  have hnone : before.findIdx? (fun c => decide (c = '=')) = none :=
    List.findIdx?_eq_none_iff.2 fun c hc => decide_eq_false fun heq => h (heq ▸ hc)
  unfold equalIndex
  rw [List.findIdx?_append, hnone, List.findIdx?_cons]
  simp

theorem equalIndex_of_notMem (h : '=' ∉ line) : equalIndex line = npos := by
  have hnone : line.findIdx? (fun c => decide (c = '=')) = none :=
    List.findIdx?_eq_none_iff.2 fun c hc => decide_eq_false fun heq => h (heq ▸ hc)
  unfold equalIndex
  rw [hnone]
  rfl

end Lines

/-! ## Extracting a part -/

/-- What is copied of a part that starts at a position: a space at `blank` is not. -/
def copied (blank : Nat) : Nat → Text → Text
  | _, [] => []
  | i, c :: part =>
    if i = blank ∧ c = ' ' then copied blank (i + 1) part else c :: copied blank (i + 1) part

section Extracting

variable {line before after done part : Text} {turns stop blank : Nat}

theorem copied_of_lt {i : Nat} (h : blank < i) : copied blank i part = part := by
  induction part generalizing i with
  | nil => rfl
  | cons c part ih => rw [copied, if_neg fun heq => h.ne' heq.1, ih (Nat.lt_succ_of_lt h)]

theorem copied_first (i : Nat) (part : Text) : copied i i part = withoutFirstSpace part := by
  unfold withoutFirstSpace
  cases part with
  | nil => rfl
  | cons c part =>
    rw [copied, copied_of_lt (Nat.lt_succ_self i)]
    by_cases hc : c = ' ' <;> simp [hc]

theorem copied_last (i : Nat) (part : Text) :
    copied (i + part.length - 1) i part = withoutLastSpace part := by
  induction part generalizing i with
  | nil => rfl
  | cons c part ih =>
    cases part with
    | nil =>
      unfold withoutLastSpace
      by_cases hc : c = ' ' <;> simp [copied, hc]
    | cons d part =>
      have hblank : i + (c :: d :: part).length - 1 = i + 1 + (d :: part).length - 1 := by
        simp only [List.length_cons]
        omega
      have hne : i ≠ i + 1 + (d :: part).length - 1 := by
        simp only [List.length_cons]
        omega
      rw [hblank, copied, if_neg fun heq => hne heq.1, ih]
      unfold withoutLastSpace
      rw [List.getLast?_cons_cons, List.dropLast_cons_cons]
      split <;> rfl

theorem charAt_append (c : Char) (rest : Text) (h : done.length < 2 ^ 32) :
    charAt (done ++ c :: rest) (UInt32.ofNat done.length) = .ok c := by
  unfold charAt
  rw [UInt32.toNat_ofNat_of_lt' h, List.append_assoc, List.getElem?_append_right le_rfl,
    Nat.sub_self]
  rfl

/-- The loop copies the part and stops behind it. -/
theorem extract_eq (hlength : (done ++ part).length < 2 ^ 32) (hturns : part.length < turns)
    (taken : Text) :
    extract (done ++ part ++ after) (done ++ part).length blank turns (UInt32.ofNat done.length)
      taken = .ok (taken ++ copied blank done.length part) := by
  induction part generalizing done turns taken with
  | nil =>
    obtain ⟨turns, rfl⟩ := Nat.exists_eq_add_one_of_ne_zero hturns.ne'
    rw [List.append_nil] at hlength ⊢
    rw [extract, if_neg (by rw [UInt32.toNat_ofNat_of_lt' hlength]; exact lt_irrefl _), copied,
      List.append_nil]
  | cons c part ih =>
    obtain ⟨turns, rfl⟩ := Nat.exists_eq_add_one_of_ne_zero (Nat.ne_zero_of_lt hturns)
    have hassoc : done ++ c :: part = (done ++ [c]) ++ part := by simp
    have hsucc : (done ++ [c]).length = done.length + 1 := List.length_append
    have hlt : done.length < (done ++ c :: part).length := by simp
    have hdone : done.length < 2 ^ 32 := hlt.trans hlength
    have hnext : UInt32.ofNat done.length + 1 = UInt32.ofNat (done ++ [c]).length := by
      rw [hsucc, UInt32.ofNat_add]
      rfl
    have hchar : charAt (done ++ c :: part ++ after) (UInt32.ofNat done.length) = .ok c := by
      rw [List.append_assoc, List.cons_append]
      exact charAt_append c _ hdone
    have hrest (taken : Text) :
        extract (done ++ [c] ++ part ++ after) (done ++ [c] ++ part).length blank turns
          (UInt32.ofNat (done ++ [c]).length) taken =
        .ok (taken ++ copied blank (done ++ [c]).length part) :=
      ih (by rwa [← hassoc]) (by simpa using hturns) taken
    rw [extract, if_pos (by rwa [UInt32.toNat_ofNat_of_lt' hdone]), hchar, hnext, copied]
    change (if _ ∧ _ then _ else _) = _
    rw [UInt32.toNat_ofNat_of_lt' hdone, hassoc]
    split
    · rw [hrest, hsucc]
    · rw [hrest, hsucc, List.append_assoc]
      rfl

/-- An index of 32 bits never comes to a greater number. -/
theorem lt_of_extract {index : UInt32} {taken part : Text}
    (h : extract line stop blank turns index taken = .ok part) : stop < 2 ^ 32 := by
  induction turns generalizing index taken with
  | zero => cases h
  | succ turns ih =>
    rw [extract] at h
    split at h
    · obtain ⟨c, -, h⟩ := bind_eq_ok_iff.1 h
      split at h
      · exact ih h
      · exact ih h
    · next hstop => exact (not_lt.1 hstop).trans_lt index.toNat_lt

theorem extractKey_eq (hlength : before.length < 2 ^ 32) (hturns : before.length < turns) :
    extractKey turns (before ++ '=' :: after) before.length = .ok (withoutLastSpace before) := by
  have h : extract ([] ++ before ++ '=' :: after) ([] ++ before).length (before.length - 1) turns
      (UInt32.ofNat ([] : Text).length) [] =
        .ok ([] ++ copied (before.length - 1) ([] : Text).length before) :=
    @extract_eq ('=' :: after) [] before _ _ hlength hturns []
  have hlast := copied_last 0 before
  rw [Nat.zero_add] at hlast
  rwa [List.length_nil, List.nil_append, hlast] at h

theorem extractValue_eq (hlength : (before ++ '=' :: after).length < 2 ^ 32)
    (hturns : after.length < turns) :
    extractValue turns (before ++ '=' :: after) before.length =
      .ok (withoutFirstSpace after) := by
  have hassoc : before ++ '=' :: after = before ++ ['='] ++ after := by simp
  have hsucc : (before ++ ['=']).length = before.length + 1 := List.length_append
  have hmod : (before.length + 1) % 2 ^ 64 = (before ++ ['=']).length := by
    rw [List.length_append, List.length_cons] at hlength
    omega
  have hindex : UInt32.ofNat before.length + 1 = UInt32.ofNat (before ++ ['=']).length := by
    rw [hsucc, UInt32.ofNat_add]
    rfl
  have h : extract (before ++ ['='] ++ after ++ []) (before ++ ['='] ++ after).length
      (before ++ ['=']).length turns (UInt32.ofNat (before ++ ['=']).length) [] =
        .ok ([] ++ copied (before ++ ['=']).length (before ++ ['=']).length after) :=
    extract_eq (hassoc ▸ hlength) hturns []
  unfold extractValue
  rw [hmod, hindex, hassoc]
  rwa [List.append_nil, copied_first, List.nil_append] at h

end Extracting

/-! ## The file -/

section File

variable {line : Text} {turns : Nat} {r : PropertyReader}

theorem loadLine_of_not_considered (h : ¬Considered line) : loadLine turns r line = .ok r :=
  if_pos (isSkipped_iff.2 h)

theorem loadLine_of_splits (h : Considered line) (hsplits : Splits line)
    (hturns : line.length < turns) :
    loadLine turns r line = .ok { r with
      properties := r.properties.insert (assignment line).1 (assignment line).2 } := by
  obtain ⟨before, after, rfl, hbefore⟩ := List.eq_append_cons_of_mem hsplits.1
  have hlength := hsplits.2
  have hparts : before.length < (before ++ '=' :: after).length ∧
      after.length < (before ++ '=' :: after).length := by
    rw [List.length_append, List.length_cons]
    omega
  unfold loadLine
  rw [if_neg fun hskipped => isSkipped_iff.1 hskipped h, assignment_split hbefore]
  dsimp only
  rw [equalIndex_split hbefore, extractKey_eq (hparts.1.trans hlength) (hparts.1.trans hturns),
    extractValue_eq hlength (hparts.2.trans hturns)]
  rfl

/-- Without an equals sign the key would end beyond all indices. -/
theorem splits_of_loadLine {r' : PropertyReader} (h : Considered line)
    (hrun : loadLine turns r line = .ok r') : Splits line := by
  unfold loadLine at hrun
  rw [if_neg fun hskipped => isSkipped_iff.1 hskipped h] at hrun
  obtain ⟨key, hkey, hrun⟩ := bind_eq_ok_iff.1 hrun
  obtain ⟨value, hvalue, -⟩ := bind_eq_ok_iff.1 hrun
  refine ⟨?_, lt_of_extract hvalue⟩
  by_contra hmem
  have hlt := lt_of_extract hkey
  rw [equalIndex_of_notMem hmem] at hlt
  exact absurd hlt (by decide)

theorem assignments_cons_of_pos (lines : List Text) (h : Considered line) (h' : Splits line) :
    assignments (line :: lines) = assignment line :: assignments lines := by
  unfold assignments
  rw [List.filter_cons, if_pos (decide_eq_true ⟨h, h'.1⟩), List.map_cons]

theorem assignments_cons_of_neg (lines : List Text) (h : ¬Considered line) :
    assignments (line :: lines) = assignments lines := by
  unfold assignments
  rw [List.filter_cons, if_neg fun heq => h (of_decide_eq_true heq).1]

theorem foldlM_loadLine {lines : List Text} (hsplits : ∀ line ∈ lines, Considered line →
      Splits line) (hturns : ∀ line ∈ lines, line.length < turns) (r : PropertyReader) :
    lines.foldlM (loadLine turns) r = .ok { r with
      properties := insertAll (assignments lines) r.properties } := by
  induction lines generalizing r with
  | nil => rfl
  | cons line lines ih =>
    have hrest := ih (fun l hl => hsplits l (List.mem_cons_of_mem _ hl))
      fun l hl => hturns l (List.mem_cons_of_mem _ hl)
    rw [List.foldlM_cons]
    by_cases hline : Considered line
    · have hsplit := hsplits line List.mem_cons_self hline
      rw [loadLine_of_splits hline hsplit (hturns line List.mem_cons_self),
        assignments_cons_of_pos lines hline hsplit]
      exact hrest _
    · rw [loadLine_of_not_considered hline, assignments_cons_of_neg lines hline]
      exact hrest r

theorem splits_of_foldlM {lines : List Text} {r' : PropertyReader}
    (h : lines.foldlM (loadLine turns) r = .ok r') :
    ∀ line ∈ lines, Considered line → Splits line :=
  foldlM_invariant (I := fun past _ => ∀ line ∈ past, Considered line → Splits line) nofun
    (fun _ _ _ _ hpast hline =>
      forall_mem_concat hpast fun hconsidered => splits_of_loadLine hconsidered hline) h

/-- `LoadFile` returns, and its map has the last value of each key. -/
def Loads (text : Text) : Prop :=
  ∃ n, ∀ turns ≥ n, ∃ r, loadFile turns (some text) = .ok (true, r) ∧
    ∀ key, r.properties.lookup key = (assignments (lines text)).reverse.lookup key

theorem loads_iff (text : Text) :
    Loads text ↔ ∀ line ∈ lines text, Considered line → Splits line := by
  constructor
  · rintro ⟨n, h⟩
    obtain ⟨r, hrun, -⟩ := h n le_rfl
    obtain ⟨r', hrun', -⟩ := bind_eq_ok_iff.1 hrun
    exact splits_of_foldlM hrun'
  · intro h
    refine ⟨(lines text).flatten.length + 1, fun turns hturns => ?_⟩
    have hlines : ∀ line ∈ lines text, line.length < turns := fun line hline =>
      (Nat.lt_succ_of_le (List.sublist_flatten_of_mem hline).length_le).trans_le hturns
    have hrun := foldlM_loadLine h hlines { fileRead := true }
    refine ⟨_, by unfold loadFile; dsimp only; rw [hrun]; rfl, fun key => ?_⟩
    change (insertAll (assignments (lines text)) ∅).lookup key = _
    rw [lookup_insertAll, AList.lookup_empty, Option.or_none]

/-- A line without an equals sign. -/
theorem not_loads_word : ¬Loads ['m', 'a', 'p'] := by
  rintro ⟨n, h⟩
  obtain ⟨r, hrun, -⟩ := h n le_rfl
  obtain ⟨r', hrun', -⟩ := bind_eq_ok_iff.1 hrun
  exact absurd (splits_of_foldlM hrun' ['m', 'a', 'p'] (by decide) (by decide)) (by decide)

end File

end Sc2Api.PropertyReader
