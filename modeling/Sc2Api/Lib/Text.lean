import Mathlib.Data.Char
import Mathlib.Data.List.Lex
import Mathlib.Data.List.TakeWhile
import Sc2Api.Lib.CheckedInt

/-!
# Texts

A text is a list of characters. It is read line by line, numbers are written in decimal form
and read back, and a pattern is found where it first occurs.
-/

namespace Sc2Api.Lib

abbrev Text := List Char

/-! ## Lines -/

/-- `std::getline`: the line that the text starts with and what comes after the line break,
`none` at the end of the text. -/
def getline (text : Text) : Option (Text × Text) :=
  if text = [] then none
  else some (text.takeWhile (· ≠ '\n'), (text.dropWhile (· ≠ '\n')).tail)

/-- The lines of a text. The last one may lack a line break. -/
def lines : Text → List Text
  | [] => []
  | c :: text =>
    if c = '\n' then [] :: lines text
    else
      match lines text with
      | [] => [[c]]
      | line :: rest => (c :: line) :: rest

section Lines

variable {line rest text : Text}

/-- A line is read, whatever comes after its line break. -/
theorem getline_append (hline : '\n' ∉ line) (rest : Text) :
    getline (line ++ '\n' :: rest) = some (line, rest) := by
  have hall : ∀ c ∈ line, decide (c ≠ '\n') = true := fun c hc =>
    decide_eq_true fun heq => hline (heq ▸ hc)
  unfold getline
  rw [if_neg (List.append_ne_nil_of_right_ne_nil _ (List.cons_ne_nil _ _)),
    List.takeWhile_append_of_pos hall, List.dropWhile_append_of_pos hall, List.takeWhile_cons,
    List.dropWhile_cons]
  simp

end Lines

/-! ## Numbers -/

/-- What `std::isspace` accepts. -/
def isSpace (c : Char) : Bool := c ∈ [' ', '\t', '\n', '\x0b', '\x0c', '\r']

/-- The digits that a text starts with, as a number. -/
def digitsPrefix (text : Text) : Option Nat :=
  let digits := text.takeWhile Char.isDigit
  if digits = [] then none else some (Nat.ofDigitChars 10 digits 0)

/-- The number that a text starts with after spaces, as `strtol` reads it. -/
def integerPrefix (text : Text) : Option Int :=
  match text.dropWhile isSpace with
  | '-' :: digits => (digitsPrefix digits).map fun n => -n
  | '+' :: digits => (digitsPrefix digits).map fun n => n
  | digits => (digitsPrefix digits).map fun n => n

/-- The exceptions of `std::stoi`. -/
inductive ConversionError
  | invalidArgument
  | outOfRange
  deriving DecidableEq, Repr

def stoi (text : Text) : Except ConversionError Int32 :=
  match integerPrefix text with
  | none => .error .invalidArgument
  | some n => checked .outOfRange n

/-- Without a number it is zero. -/
def atoi {ε : Type} (overflow : ε) (text : Text) : Except ε Int32 :=
  checked overflow ((integerPrefix text).getD 0)

/-- `std::to_string` of an unsigned number. -/
def decimal (n : Nat) : Text := Nat.toDigits 10 n

section Numbers

variable {n : Nat}

theorem isDigit_of_mem_decimal {c : Char} (h : c ∈ decimal n) : c.isDigit :=
  Nat.isDigit_of_mem_toDigits (by decide) (by decide) h

theorem decimal_ne_nil : decimal n ≠ [] := Nat.toDigits_ne_nil

theorem newline_notMem_decimal : '\n' ∉ decimal n := fun h =>
  absurd (isDigit_of_mem_decimal h) (by decide)

theorem digitsPrefix_decimal (n : Nat) : digitsPrefix (decimal n) = some n := by
  have htake : (decimal n).takeWhile Char.isDigit = decimal n :=
    List.takeWhile_eq_self_iff.2 fun _ hc => isDigit_of_mem_decimal hc
  unfold digitsPrefix
  rw [htake, if_neg decimal_ne_nil]
  exact congrArg some Nat.ofDigitChars_ten_toDigits

/-- A decimal form starts with a digit, which is no space and no sign. -/
theorem integerPrefix_decimal (n : Nat) : integerPrefix (decimal n) = some (n : Int) := by
  have hdigits := digitsPrefix_decimal n
  obtain ⟨c, digits, hdecimal⟩ := List.exists_cons_of_ne_nil (decimal_ne_nil (n := n))
  have hc : c.isDigit := isDigit_of_mem_decimal (hdecimal ▸ List.mem_cons_self)
  have hspace : isSpace c = false := by
    by_contra hspace
    unfold isSpace at hspace
    simp only [decide_eq_true_eq, Bool.not_eq_false, List.mem_cons, List.not_mem_nil,
      or_false] at hspace
    rcases hspace with rfl | rfl | rfl | rfl | rfl | rfl <;> exact absurd hc (by decide)
  unfold integerPrefix
  rw [hdecimal] at hdigits ⊢
  rw [List.dropWhile_cons_of_neg (by rw [hspace]; decide)]
  split
  · next heq =>
    cases heq
    exact absurd hc (by decide)
  · next heq =>
    cases heq
    exact absurd hc (by decide)
  · rw [hdigits]
    rfl

theorem stoi_decimal (n : Nat) : stoi (decimal n) = checked .outOfRange (n : Int) := by
  unfold stoi
  rw [integerPrefix_decimal]

end Numbers

section Digits

variable {a b : Text}

theorem ofDigitChars_cons (c : Char) (a : Text) : Nat.ofDigitChars 10 (c :: a) 0 =
    10 ^ a.length * (c.toNat - '0'.toNat) + Nat.ofDigitChars 10 a 0 := by
  rw [Nat.ofDigitChars_cons, Nat.ofDigitChars_eq_ofDigitChars_zero, Nat.mul_zero, Nat.zero_add]

theorem ofDigitChars_lt (h : ∀ c ∈ a, c.isDigit) : Nat.ofDigitChars 10 a 0 < 10 ^ a.length := by
  induction a with
  | nil => exact Nat.one_pos
  | cons c a ih =>
    obtain ⟨hc, ha⟩ := List.forall_mem_cons.1 h
    have hdigit : c.toNat - '0'.toNat < 10 :=
      Nat.lt_of_le_of_lt (Nat.sub_le_sub_right (Char.isDigit_iff_toNat.1 hc).2 _) (by decide)
    rw [ofDigitChars_cons]
    calc 10 ^ a.length * (c.toNat - '0'.toNat) + Nat.ofDigitChars 10 a 0
        < 10 ^ a.length * (c.toNat - '0'.toNat) + 10 ^ a.length := Nat.add_lt_add_left (ih ha) _
      _ = 10 ^ a.length * (c.toNat - '0'.toNat + 1) := (Nat.mul_succ _ _).symm
      _ ≤ 10 ^ a.length * 10 := Nat.mul_le_mul_left _ hdigit
      _ = 10 ^ (c :: a).length := (pow_succ 10 a.length).symm

/-- Numbers of equally many digits are ordered as their texts are. -/
theorem lt_of_ofDigitChars_lt (hlength : a.length = b.length) (ha : ∀ c ∈ a, c.isDigit)
    (hb : ∀ c ∈ b, c.isDigit) (h : Nat.ofDigitChars 10 a 0 < Nat.ofDigitChars 10 b 0) : a < b := by
  induction a generalizing b with
  | nil =>
    rw [List.length_eq_zero_iff.1 hlength.symm] at h
    exact absurd h (lt_irrefl _)
  | cons c a ih =>
    obtain ⟨d, b, rfl⟩ := List.exists_cons_of_length_eq_add_one hlength.symm
    have ha' := (List.forall_mem_cons.1 ha).2
    obtain ⟨hd, hb'⟩ := List.forall_mem_cons.1 hb
    have hrest : a.length = b.length := Nat.succ_inj.1 hlength
    rw [ofDigitChars_cons, ofDigitChars_cons, ← hrest] at h
    rcases lt_trichotomy c d with hlt | rfl | hgt
    · exact .rel hlt
    · exact .cons (ih hrest ha' hb' (Nat.lt_of_add_lt_add_left h))
    · exfalso
      have hzero := (Char.isDigit_iff_toNat.1 hd).1
      have hdigit : d.toNat - '0'.toNat + 1 ≤ c.toNat - '0'.toNat := by
        have : d.toNat < c.toNat := hgt
        omega
      have hbound := hrest ▸ ofDigitChars_lt hb'
      have hmul := Nat.mul_le_mul_left (10 ^ a.length) hdigit
      rw [Nat.mul_succ] at hmul
      omega

end Digits

/-! ## Occurrences -/

/-- `text.find(pattern)`: the position of the first occurrence. -/
def find (pattern : Text) : Text → Option Nat
  | [] => if pattern = [] then some 0 else none
  | c :: text => if pattern <+: c :: text then some 0 else (find pattern text).map (· + 1)

section Occurrences

variable {pattern text : Text} {i : Nat}

theorem exists_of_find (h : find pattern text = some i) :
    ∃ before after, before.length = i ∧ text = before ++ (pattern ++ after) := by
  induction text generalizing i with
  | nil =>
    rw [find] at h
    split at h
    · next hpattern =>
      cases h
      exact ⟨[], [], rfl, by rw [hpattern]; rfl⟩
    · cases h
  | cons c text ih =>
    rw [find] at h
    split at h
    · next hstarts =>
      cases h
      obtain ⟨after, hafter⟩ := hstarts
      exact ⟨[], after, rfl, hafter.symm⟩
    · obtain ⟨j, hj, rfl⟩ := Option.map_eq_some_iff.1 h
      obtain ⟨before, after, rfl, rfl⟩ := ih hj
      exact ⟨c :: before, after, rfl, rfl⟩

/-- What occurs is found. -/
theorem find_ne_none (before after : Text) :
    find pattern (before ++ (pattern ++ after)) ≠ none := by
  induction before with
  | nil =>
    cases hoccurs : pattern ++ after with
    | nil =>
      rw [List.nil_append, find, if_pos (List.append_eq_nil_iff.1 hoccurs).1]
      exact Option.some_ne_none 0
    | cons c text =>
      rw [List.nil_append, find, if_pos (hoccurs ▸ List.prefix_append pattern after)]
      exact Option.some_ne_none 0
  | cons c before ih =>
    rw [List.cons_append, find]
    split
    · exact Option.some_ne_none 0
    · exact fun h => ih (Option.map_eq_none_iff.1 h)

/-- What does not contain a character cannot go beyond it. -/
theorem isPrefix_append_cons_iff {c : Char} (hc : c ∉ pattern) (text rest : Text) :
    pattern <+: text ++ c :: rest ↔ pattern <+: text := by
  refine ⟨fun h => ?_, fun h => h.trans (List.prefix_append _ _)⟩
  rcases le_or_gt pattern.length text.length with hlength | hlength
  · exact List.prefix_of_prefix_length_le h (List.prefix_append _ _) hlength
  · have hmem : text ++ [c] <+: pattern := by
      refine List.prefix_of_prefix_length_le ?_ h (by rw [List.length_append]; exact hlength)
      exact ⟨rest, by rw [List.append_assoc, List.singleton_append]⟩
    exact absurd (hmem.subset (List.mem_append_right _ (List.mem_singleton_self c))) hc

/-- An occurrence is before such a character or behind it. -/
theorem find_append_cons (hne : pattern ≠ []) {c : Char} (hc : c ∉ pattern)
    (text rest : Text) :
    find pattern (text ++ c :: rest) =
      (find pattern text).or ((find pattern rest).map (text.length + 1 + ·)) := by
  induction text with
  | nil =>
    have hstarts : ¬pattern <+: c :: rest := fun h =>
      hne (List.prefix_nil.1 ((isPrefix_append_cons_iff hc [] rest).1 h))
    have hcons : find pattern (c :: rest) = (find pattern rest).map (· + 1) := if_neg hstarts
    have hnil : find pattern [] = none := if_neg hne
    rw [List.nil_append, hcons, hnil, Option.none_or]
    refine congrArg (Option.map · _) (funext fun i => ?_)
    simp only [List.length_nil]
    omega
  | cons d text ih =>
    have hstarts := isPrefix_append_cons_iff hc (d :: text) rest
    rw [List.cons_append] at hstarts ⊢
    by_cases h : pattern <+: d :: text
    · have hwhole : find pattern (d :: (text ++ c :: rest)) = some 0 := if_pos (hstarts.2 h)
      have hpart : find pattern (d :: text) = some 0 := if_pos h
      rw [hwhole, hpart]
      rfl
    · have hwhole : find pattern (d :: (text ++ c :: rest)) =
          (find pattern (text ++ c :: rest)).map (· + 1) := if_neg fun h' => h (hstarts.1 h')
      have hpart : find pattern (d :: text) = (find pattern text).map (· + 1) := if_neg h
      rw [hwhole, hpart, ih]
      cases find pattern text with
      | some i => rfl
      | none =>
        rw [Option.none_or, Option.map_none, Option.none_or, Option.map_map]
        refine congrArg (Option.map · _) (funext fun i => ?_)
        simp only [List.length_cons, Function.comp_apply]
        omega

/-- What is found first is not behind any other occurrence. -/
theorem le_of_find {before after : Text}
    (h : find pattern (before ++ (pattern ++ after)) = some i) : i ≤ before.length := by
  induction before generalizing i with
  | nil =>
    cases htext : pattern ++ after with
    | nil =>
      rw [List.nil_append, htext, find, if_pos (List.append_eq_nil_iff.1 htext).1] at h
      exact (Option.some.inj h).ge
    | cons c text =>
      rw [List.nil_append, htext, find, if_pos (htext ▸ List.prefix_append pattern after)] at h
      exact (Option.some.inj h).ge
  | cons c before ih =>
    rw [List.cons_append, find] at h
    split at h
    · rw [← Option.some.inj h]
      exact Nat.zero_le _
    · obtain ⟨j, hj, rfl⟩ := Option.map_eq_some_iff.1 h
      exact Nat.succ_le_succ (ih hj)

/-- Occurrences do not overlap where the first character does not come again. -/
theorem length_le_of_occurrences {c : Char} {before before' after after' : Text} (hc : c ∉ text)
    (h : before ++ (c :: text ++ after) = before' ++ (c :: text ++ after'))
    (hlt : before.length < before'.length) :
    before.length + (c :: text).length ≤ before'.length := by
  rcases List.append_eq_append_iff.1 h with ⟨between, rfl, hrest⟩ | ⟨between, rfl, -⟩
  · cases between with
    | nil => exact absurd hlt (by simp)
    | cons d between =>
      rw [List.cons_append, List.cons_append, List.cons.injEq] at hrest
      rcases List.append_eq_append_iff.1 hrest.2 with ⟨more, rfl, -⟩ | ⟨more, htext, hmore⟩
      · simp only [List.length_append, List.length_cons]
        omega
      · cases more with
        | nil =>
          rw [List.append_nil] at htext
          simp only [htext, List.length_append, List.length_cons, le_refl]
        | cons e more =>
          rw [List.cons_append, List.cons_append, List.cons.injEq] at hmore
          refine absurd ?_ hc
          rw [htext, hmore.1]
          exact List.mem_append_right _ List.mem_cons_self
  · rw [List.length_append] at hlt
    omega

/-- The last occurrence of a character is where it is. -/
theorem append_cons_inj {c : Char} {before before' after after' : Text} (hc : c ∉ after)
    (hc' : c ∉ after') (h : before ++ c :: after = before' ++ c :: after') :
    before = before' ∧ after = after' := by
  rcases List.append_eq_append_iff.1 h with ⟨between, rfl, hrest⟩ | ⟨between, rfl, hrest⟩
  · cases between with
    | nil => exact ⟨(List.append_nil _).symm, (List.cons.inj hrest).2⟩
    | cons d between =>
      refine absurd ?_ hc
      rw [(List.cons.inj hrest).2]
      exact List.mem_append_right _ List.mem_cons_self
  · cases between with
    | nil => exact ⟨List.append_nil _, ((List.cons.inj hrest).2).symm⟩
    | cons d between =>
      refine absurd ?_ hc'
      rw [(List.cons.inj hrest).2]
      exact List.mem_append_right _ List.mem_cons_self

end Occurrences

end Sc2Api.Lib
