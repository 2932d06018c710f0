import Mathlib.Tactic.Common
import Sc2Api.Executables

/-!
# The executable of a base build

`FindBaseExe` writes the number of the build over as many characters behind the first `Base` of
the path. That is the path of the other version if the two numbers have as many digits and
`Base` does not occur before.
-/

namespace Sc2Api

open Lib

/-! ## Paths of a version -/

def separators : List Char := ['/', '\\']

/-- A path with a number in the name of its version folder. -/
structure BasePath where
  pre : Text
  separator : Char
  digits : Text
  post : Text
  separator_mem : separator ∈ separators
  digits_ne : digits ≠ []
  isDigit : ∀ c ∈ digits, c.isDigit
  post_head : ∃ c ∈ separators, post.head? = some c

namespace BasePath

variable (p : BasePath)

/-- What is before the number. -/
def front : Text := p.pre ++ 'V' :: (['e', 'r', 's', 'i', 'o', 'n', 's', p.separator] ++ baseFolder)

def withNumber (number : Text) : Text := p.front ++ (number ++ p.post)

def path : Text := p.withNumber p.digits

/-- The numbers have as many digits, and an earlier `Base` is followed by the same number. -/
def Replaceable (baseBuild : UInt32) : Prop :=
  (decimal baseBuild.toNat).length = p.digits.length ∧
    ∀ i, find baseFolder p.pre = some i →
      decimal baseBuild.toNat = p.digits ∧ p.digits <+: p.pre.drop (i + baseFolder.length)

theorem length_front : p.front.length = p.pre.length + 13 := by
  unfold front
  rw [List.length_append]
  rfl

/-- `Base` is found before `Versions` or right behind it. -/
theorem find_baseFolder (rest : Text) :
    find baseFolder (p.front ++ rest) =
      (find baseFolder p.pre).or (some (p.pre.length + 9)) := by
  have hassoc : p.front ++ rest = p.pre ++ 'V' ::
      (['e', 'r', 's', 'i', 'o', 'n', 's', p.separator] ++ (baseFolder ++ rest)) := by
    simp [front]
  have hseparator : p.separator ≠ 'B' := by
    have := p.separator_mem
    simp only [separators, List.mem_cons, List.not_mem_nil, or_false] at this
    rcases this with h | h <;> rw [h] <;> decide
  have hinner : find baseFolder (['e', 'r', 's', 'i', 'o', 'n', 's', p.separator] ++
      (baseFolder ++ rest)) = some 8 := by
    simp [find, baseFolder, List.cons_prefix_cons, hseparator.symm]
  rw [hassoc, find_append_cons (by decide) (by decide), hinner]
  rfl

end BasePath

theorem length_decimal_le (n : UInt32) : (decimal n.toNat).length ≤ 10 :=
  (Nat.length_toDigits_le_iff (by decide) (by decide)).2 (n.toNat_lt.trans (by decide))

/-! ## Writing over -/

/-- The text with other characters from a position on. -/
def overwrite (text : Text) (start : Nat) (number : Text) : Text :=
  text.take start ++ number ++ text.drop (start + number.length)

section Overwriting

variable {before old number rest text : Text} {start : Nat}

theorem overwrite_append (h : number.length = old.length) :
    overwrite (before ++ (old ++ rest)) before.length number = before ++ (number ++ rest) := by
  unfold overwrite
  rw [List.take_left, h, ← List.drop_drop, List.drop_left, List.drop_left, List.append_assoc]

/-- Behind what is written over nothing changes. -/
theorem drop_overwrite (hstart : start ≤ text.length) {n : Nat}
    (hn : start + number.length ≤ n) : (overwrite text start number).drop n = text.drop n := by
  unfold overwrite
  have hlength : (text.take start ++ number).length = start + number.length := by
    rw [List.length_append, List.length_take, min_eq_left hstart]
  rw [List.drop_append, List.drop_eq_nil_of_le (hlength.le.trans hn), List.nil_append, hlength,
    List.drop_drop, Nat.add_sub_cancel' hn]

/-- What is written starts behind what stays. -/
theorem drop_start_overwrite (hstart : start ≤ text.length) :
    number <+: (overwrite text start number).drop start := by
  unfold overwrite
  have hlength : (text.take start).length = start := by
    rw [List.length_take, min_eq_left hstart]
  rw [List.append_assoc, List.drop_append, hlength, Nat.sub_self,
    List.drop_eq_nil_of_le hlength.le, List.nil_append, List.drop_zero]
  exact List.prefix_append _ _

theorem length_overwrite (h : start + number.length ≤ text.length) :
    (overwrite text start number).length = text.length := by
  unfold overwrite
  rw [List.length_append, List.length_append, List.length_take, List.length_drop]
  omega

/-- Writing what is there already. -/
theorem overwrite_eq_self (h : number <+: text.drop start) :
    overwrite text start number = text := by
  obtain ⟨rest, hrest⟩ := h
  unfold overwrite
  rw [← List.drop_drop, ← hrest, List.drop_left, List.append_assoc, hrest, List.take_append_drop]

end Overwriting

/-! ## The paths that are tested -/

theorem findBaseExe_eq (fileExists : Text → Bool) (path : Text) (baseBuild : UInt32) {i : Nat}
    (hfind : find baseFolder path = some i)
    (hlength : i + baseFolder.length + (decimal baseBuild.toNat).length ≤ path.length) :
    findBaseExe fileExists path baseBuild =
      let newPath := overwrite path (i + baseFolder.length) (decimal baseBuild.toNat)
      if fileExists newPath then ((true, newPath), [newPath]) else ((false, path), [newPath]) := by
  unfold findBaseExe
  rw [hfind]
  exact if_neg hlength.not_gt

/-- The only path that is tested is `target`, which is stored if it exists. -/
def TestsOnly (fileExists : Text → Bool) (path target : Text)
    (result : (Bool × Text) × List Text) : Prop :=
  result = ((fileExists target, if fileExists target then target else path), [target])

instance (fileExists : Text → Bool) (path target : Text) (result : (Bool × Text) × List Text) :
    Decidable (TestsOnly fileExists path target result) := inferInstanceAs (Decidable (_ = _))

theorem findBaseExe_testsOnly_iff (fileExists : Text → Bool) (path target : Text)
    (baseBuild : UInt32) {i : Nat} (hfind : find baseFolder path = some i)
    (hlength : i + baseFolder.length + (decimal baseBuild.toNat).length ≤ path.length) :
    TestsOnly fileExists path target (findBaseExe fileExists path baseBuild) ↔
      overwrite path (i + baseFolder.length) (decimal baseBuild.toNat) = target := by
  rw [findBaseExe_eq fileExists path baseBuild hfind hlength]
  unfold TestsOnly
  dsimp only
  constructor
  · intro h
    split at h
    · exact List.singleton_inj.1 (Prod.mk.inj h).2
    · exact List.singleton_inj.1 (Prod.mk.inj h).2
  · rintro rfl
    split
    · next hexists => rw [hexists]
    · next hexists => rw [Bool.eq_false_of_not_eq_true hexists]

theorem not_mem_decimal {c : Char} (hc : c.isDigit = false) (n : Nat) : c ∉ decimal n := fun h =>
  absurd (isDigit_of_mem_decimal h) (by rw [hc]; decide)

/-- An earlier `Base` has its number before `Versions`, so that the two do not overlap. -/
theorem BasePath.earlier {p : BasePath} {i : Nat} (h : find baseFolder p.pre = some i) :
    i + baseFolder.length ≤ p.pre.length := by
  obtain ⟨before, after, rfl, hpre⟩ := exists_of_find h
  rw [hpre, List.length_append, List.length_append]
  omega

theorem BasePath.length_path (p : BasePath) (number : Text) :
    (p.withNumber number).length = p.pre.length + 13 + (number.length + p.post.length) := by
  unfold BasePath.withNumber
  rw [List.length_append, List.length_append, p.length_front]

/-- The numbers of other builds cannot be read as far as `Versions`. -/
theorem BasePath.prefix_drop_path_iff {p : BasePath} {s : Nat} (hs : s ≤ p.pre.length) (n : Nat)
    (number : Text) : decimal n <+: (p.withNumber number).drop s ↔ decimal n <+: p.pre.drop s := by
  have hdrop : (p.withNumber number).drop s = p.pre.drop s ++ 'V' ::
      (['e', 'r', 's', 'i', 'o', 'n', 's', p.separator] ++ baseFolder ++
        (number ++ p.post)) := by
    unfold BasePath.withNumber BasePath.front
    rw [List.append_assoc, List.drop_append_of_le_length hs, List.cons_append]
  rw [hdrop, isPrefix_append_cons_iff (not_mem_decimal rfl n)]

theorem BasePath.length_digits_eq {p : BasePath} {s : Nat} {number : Text}
    (hs : s + number.length ≤ p.path.length)
    (h : overwrite p.path s number = p.withNumber number) : number.length = p.digits.length := by
  have hlength := congrArg List.length h
  rw [length_overwrite hs, BasePath.path, p.length_path, p.length_path] at hlength
  omega

/-- The first `Base` is the one of the version folder. -/
theorem BasePath.overwrite_front_iff {p : BasePath} {number : Text}
    (hs : p.front.length + number.length ≤ p.path.length) :
    overwrite p.path p.front.length number = p.withNumber number ↔
      number.length = p.digits.length :=
  ⟨p.length_digits_eq hs, overwrite_append⟩

/-- The first `Base` is an earlier one. -/
theorem BasePath.overwrite_earlier_iff {p : BasePath} {s : Nat} (hs : s ≤ p.pre.length)
    (baseBuild : UInt32) :
    overwrite p.path s (decimal baseBuild.toNat) = p.withNumber (decimal baseBuild.toNat) ↔
      decimal baseBuild.toNat = p.digits ∧ p.digits <+: p.pre.drop s := by
  have hlength := length_decimal_le baseBuild
  have hfront := p.length_front
  have hpath : s ≤ p.path.length := by
    rw [BasePath.path, p.length_path]
    omega
  constructor
  · intro h
    have hdigits : p.digits = decimal baseBuild.toNat := by
      have hdrop := congrArg (List.drop p.front.length) h
      rw [drop_overwrite hpath (by omega)] at hdrop
      unfold BasePath.path BasePath.withNumber at hdrop
      rw [List.drop_left, List.drop_left] at hdrop
      exact List.append_cancel_right hdrop
    have hprefix : decimal baseBuild.toNat <+:
        (overwrite p.path s (decimal baseBuild.toNat)).drop s := drop_start_overwrite hpath
    rw [h, BasePath.prefix_drop_path_iff hs] at hprefix
    exact ⟨hdigits.symm, hdigits ▸ hprefix⟩
  · rintro ⟨hdigits, hprefix⟩
    rw [← hdigits] at hprefix
    have hself : overwrite p.path s (decimal baseBuild.toNat) = p.path :=
      overwrite_eq_self ((BasePath.prefix_drop_path_iff hs _ p.digits).2 hprefix)
    rw [hself, hdigits]
    rfl

theorem findBaseExe_iff (p : BasePath) (baseBuild : UInt32) (fileExists : Text → Bool) :
    TestsOnly fileExists p.path (p.withNumber (decimal baseBuild.toNat))
      (findBaseExe fileExists p.path baseBuild) ↔ p.Replaceable baseBuild := by
  have hfind : find baseFolder p.path =
      (find baseFolder p.pre).or (some (p.pre.length + 9)) := p.find_baseFolder _
  unfold BasePath.Replaceable
  cases hpre : find baseFolder p.pre with
  | none =>
    have hstart : p.pre.length + 9 + baseFolder.length = p.front.length := p.length_front.symm
    rw [hpre, Option.none_or] at hfind
    by_cases hlength : p.front.length + (decimal baseBuild.toNat).length ≤ p.path.length
    · rw [findBaseExe_testsOnly_iff _ _ _ _ hfind (hstart ▸ hlength), hstart,
        BasePath.overwrite_front_iff hlength]
      exact (and_iff_left nofun).symm
    · refine iff_of_false (fun h => ?_) fun h => hlength ?_
      · have hnone : findBaseExe fileExists p.path baseBuild = ((false, p.path), []) := by
          unfold findBaseExe
          rw [hfind]
          exact if_pos (hstart ▸ not_le.1 hlength)
        rw [hnone] at h
        exact absurd (Prod.mk.inj h).2 (List.cons_ne_nil _ _).symm
      · rw [BasePath.path, p.length_path, p.length_front, h.1]
        omega
  | some i =>
    have hs : i + baseFolder.length ≤ p.pre.length := BasePath.earlier hpre
    have hlength := length_decimal_le baseBuild
    have hpath : i + baseFolder.length + (decimal baseBuild.toNat).length ≤ p.path.length := by
      rw [BasePath.path, p.length_path]
      omega
    rw [hpre, Option.some_or] at hfind
    rw [findBaseExe_testsOnly_iff _ _ _ _ hfind hpath, BasePath.overwrite_earlier_iff hs]
    constructor
    · rintro ⟨hdigits, hprefix⟩
      refine ⟨congrArg List.length hdigits, fun j hj => ?_⟩
      obtain rfl := Option.some.inj hj
      exact ⟨hdigits, hprefix⟩
    · rintro ⟨-, h⟩
      exact h i rfl

/-- The number of the path has one digit less than that of the build. -/
def fourDigits : BasePath where
  pre := []
  separator := '/'
  digits := ['9', '9', '9', '9']
  post := ['/', 'S', 'C', '2']
  separator_mem := by decide
  digits_ne := by decide
  isDigit c hc := by
    obtain rfl : c = '9' := by simpa using hc
    rfl
  post_head := ⟨'/', by decide, rfl⟩

theorem fourDigits_not_testsOnly :
    ¬TestsOnly (fun _ => true) fourDigits.path (fourDigits.withNumber (decimal 10000))
      (findBaseExe (fun _ => true) fourDigits.path 10000) := by
  decide +kernel

end Sc2Api
