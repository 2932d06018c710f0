import Mathlib.Tactic.Common
import Sc2Api.Executables
import Sc2Api.Lib.Nearest

/-!
# The latest executable

`FindLatestExe` takes what is behind the tenth character after `Versions\` for the name of the
executable, and the folder that is greatest as a string for the one of the latest version.
-/

namespace Sc2Api

open Lib

/-! ## Folders of versions -/

def IsNumber (digits : Text) : Prop := digits ≠ [] ∧ ∀ c ∈ digits, c.isDigit

/-- The path of an executable in the folder `Base<number>`. -/
def inBase (versionsPath number exe : Text) : Text :=
  versionsPath ++ (baseFolder ++ (number ++ '\\' :: exe))

/-- The path lies in a folder `Base<number>` directly under `Versions\`. -/
structure LiesInBase (path versionsPath number exe : Text) : Prop where
  path_eq : path = inBase versionsPath number exe
  versions : versionsFolder <:+ versionsPath
  isNumber : IsNumber number
  exe_ne : exe ≠ []
  notMem_exe : '\\' ∉ exe

namespace FileSystem

variable (fs : FileSystem)

/-- No folder with a higher number contains the executable. -/
def Highest (versionsPath exe number : Text) : Prop :=
  ∀ other, IsNumber other → fs.fileExists (inBase versionsPath other exe) = true →
    Nat.ofDigitChars 10 other 0 ≤ Nat.ofDigitChars 10 number 0

/-- The executable in the folder with the highest number of those that contain it. -/
def IsNewest (versionsPath exe path : Text) : Prop :=
  ∃ number, IsNumber number ∧ path = inBase versionsPath number exe ∧ fs.fileExists path = true ∧
    fs.Highest versionsPath exe number

/-- The search ends within the string, and what it finds exists and is the newest. -/
def FindsLatest (path : Text) : Prop :=
  ∃ found path', findLatestExe fs path = .ok (found, path') ∧
    (found = true → fs.fileExists path' = true ∧ ∀ versionsPath number exe,
      LiesInBase path versionsPath number exe → fs.IsNewest versionsPath exe path') ∧
    (found = false → path' = path)

/-! ## The search -/

/-- What is taken for the name of the executable, with `Versions\` at a position. -/
def restFrom (path : Text) (pos : Nat) : Text :=
  path.drop (pos + versionsFolder.length + baseFolderNameLen)

/-- The subfolders that hold a file of that name. -/
def holders (path : Text) (pos : Nat) : List Text :=
  (fs.scanDirectory (path.take (pos + versionsFolder.length)) true true).filter fun folder =>
    fs.fileExists (folder ++ '\\' :: restFrom path pos)

/-- The folder comes last in the order of strings of those that hold a file of that name. -/
def IsLast (path : Text) (pos : Nat) (folder : Text) : Prop :=
  folder ∈ fs.holders path pos ∧ ∀ other ∈ fs.holders path pos, other ≤ folder

/-- What the search needs: what comes ten characters after the first `Versions\` is in the path,
and a path in a folder `Base<number>` has one of three forms. No folder holds what is taken for
the executable, and none with a higher number holds the executable itself; or the path lies
under the first `Versions\`, its number has five digits, and the folder with the highest number
is the last one as a string, too; or it lies under a later one, its number is the highest, and
what is taken for the executable is the rest of the path behind the last folder. -/
structure Findable (path : Text) (pos : Nat) : Prop where
  range : pos + versionsFolder.length + baseFolderNameLen ≤ path.length
  unheld : ∀ versionsPath number exe, LiesInBase path versionsPath number exe →
    fs.holders path pos = [] → fs.fileExists path = true → fs.Highest versionsPath exe number
  direct : ∀ versionsPath number exe, LiesInBase path versionsPath number exe →
    fs.holders path pos ≠ [] → versionsPath = path.take (pos + versionsFolder.length) →
      number.length = 5 ∧ ∃ newest, IsNumber newest ∧ fs.Highest versionsPath exe newest ∧
        fs.IsLast path pos (versionsPath ++ (baseFolder ++ newest))
  deeper : ∀ versionsPath number exe, LiesInBase path versionsPath number exe →
    fs.holders path pos ≠ [] → versionsPath ≠ path.take (pos + versionsFolder.length) →
      fs.Highest versionsPath exe number ∧
        ∃ folder, fs.IsLast path pos folder ∧ path = folder ++ '\\' :: restFrom path pos

variable {fs} {path : Text} {pos : Nat}

theorem IsLast.unique {folder folder' : Text} (h : fs.IsLast path pos folder)
    (h' : fs.IsLast path pos folder') : folder = folder' :=
  le_antisymm (h'.2 folder h.1) (h.2 folder' h'.1)

theorem findSubfolder_eq (exeName : Text) (subfolders : List Text) :
    findSubfolder fs exeName subfolders =
      (subfolders.find? fun folder => fs.fileExists (folder ++ '\\' :: exeName)).map
        (· ++ '\\' :: exeName) := by
  induction subfolders with
  | nil => rfl
  | cons folder subfolders ih =>
    rw [findSubfolder, List.find?_cons]
    cases fs.fileExists (folder ++ '\\' :: exeName) with
    | true => rfl
    | false => exact ih

/-- The path of the greatest folder that holds the file, or the path as it is. -/
theorem findLatestExe_cases (hlength : ¬path.length < 4)
    (hfind : find versionsFolder path = some pos)
    (hrange : pos + versionsFolder.length + baseFolderNameLen ≤ path.length) :
    (fs.holders path pos = [] ∧ findLatestExe fs path = .ok (fs.fileExists path, path)) ∨
      ∃ folder, fs.IsLast path pos folder ∧
        findLatestExe fs path = .ok (true, folder ++ '\\' :: restFrom path pos) := by
  unfold findLatestExe
  rw [if_neg hlength, hfind]
  dsimp only
  rw [if_neg hrange.not_gt]
  have hholders {folder : Text} : folder ∈ fs.holders path pos ↔
      folder ∈ fs.scanDirectory (path.take (pos + versionsFolder.length)) true true ∧
        fs.fileExists (folder ++ '\\' :: restFrom path pos) = true := List.mem_filter
  split
  · next hempty =>
    refine Or.inl ⟨?_, rfl⟩
    unfold holders
    rw [List.length_eq_zero_iff.1 (Nat.lt_one_iff.1 hempty)]
    rfl
  · rw [findSubfolder_eq]
    cases hsearch : List.find? (fun folder => fs.fileExists (folder ++ '\\' :: path.drop
        (pos + versionsFolder.length + baseFolderNameLen)))
        ((fs.scanDirectory (path.take (pos + versionsFolder.length)) true true).mergeSort
          fun a b => decide (a ≤ b)).reverse with
    | none =>
      refine Or.inl ⟨List.filter_eq_nil_iff.2 fun folder hfolder => ?_, rfl⟩
      exact List.find?_eq_none.1 hsearch folder
        (List.mem_reverse.2 (List.mem_mergeSort.2 hfolder))
    | some folder =>
      obtain ⟨hmem, hexists, hgreatest⟩ := greatest_of_find? hsearch
      refine Or.inr ⟨folder, ⟨hholders.2 ⟨hmem, hexists⟩, fun other hother => ?_⟩, rfl⟩
      exact hgreatest other (hholders.1 hother).1 (hholders.1 hother).2

theorem LiesInBase.find_ne_none {versionsPath number exe : Text}
    (h : LiesInBase path versionsPath number exe) : find versionsFolder path ≠ none := by
  obtain ⟨before, hbefore⟩ := h.versions
  have hpath : path = before ++ (versionsFolder ++ (baseFolder ++ (number ++ '\\' :: exe))) := by
    rw [h.path_eq, inBase, ← hbefore, List.append_assoc]
  rw [hpath]
  exact Lib.find_ne_none _ _

theorem findsLatest_iff_of_run {found : Bool} {path' : Text}
    (hrun : findLatestExe fs path = .ok (found, path')) : fs.FindsLatest path ↔
      (found = true → fs.fileExists path' = true ∧ ∀ versionsPath number exe,
        LiesInBase path versionsPath number exe → fs.IsNewest versionsPath exe path') ∧
      (found = false → path' = path) := by
  constructor
  · rintro ⟨found', other, hrun', h⟩
    rw [hrun] at hrun'
    obtain ⟨rfl, rfl⟩ := Prod.mk.inj (Except.ok.inj hrun')
    exact h
  · exact fun h => ⟨found, path', hrun, h⟩

/-- The name of the executable would begin behind the end of the path. -/
theorem not_findsLatest_of_short (hlength : ¬path.length < 4)
    (hfind : find versionsFolder path = some pos)
    (hshort : path.length < pos + versionsFolder.length + baseFolderNameLen) :
    ¬fs.FindsLatest path := by
  rintro ⟨found, path', hrun, -⟩
  unfold findLatestExe at hrun
  rw [if_neg hlength, hfind] at hrun
  dsimp only at hrun
  rw [if_pos hshort] at hrun
  cases hrun

/-- Without `Versions\` the path is only tested, and a short one not even that. -/
theorem findsLatest_of_none (h : path.length < 4 ∨ find versionsFolder path = none) :
    fs.FindsLatest path := by
  by_cases hlength : path.length < 4
  · exact ⟨false, path, if_pos hlength, nofun, fun _ => rfl⟩
  · have hnone := h.resolve_left hlength
    refine ⟨fs.fileExists path, path, ?_, fun hexists => ⟨hexists, ?_⟩, fun _ => rfl⟩
    · unfold findLatestExe
      rw [if_neg hlength, hnone]
    · intro versionsPath number exe hlies
      exact absurd hnone (LiesInBase.find_ne_none hlies)

/-! ## Where the executable lies -/

section Lies

variable {versionsPath number exe newest folder : Text}

theorem notMem_of_isNumber {c : Char} (hc : c.isDigit = false) (h : IsNumber number) :
    c ∉ number := fun hmem => by
  have hdigit := h.2 c hmem
  rw [hc] at hdigit
  cases hdigit

theorem LiesInBase.number_eq (h : LiesInBase path versionsPath number exe)
    (hpath : path = inBase versionsPath newest exe) : newest = number := by
  have heq := List.append_cancel_left (List.append_cancel_left (hpath.symm.trans h.path_eq))
  exact List.append_cancel_right heq

/-- With five digits what comes after ten characters is the executable. -/
theorem restFrom_eq_of_liesInBase (h : LiesInBase path versionsPath number exe)
    (hversions : versionsPath.length = pos + versionsFolder.length) (hnumber : number.length = 5) :
    restFrom path pos = exe := by
  have hfront : (versionsPath ++ (baseFolder ++ (number ++ ['\\']))).length =
      pos + versionsFolder.length + baseFolderNameLen := by
    simp only [List.length_append, hversions, hnumber]
    rfl
  have hpath : path = versionsPath ++ (baseFolder ++ (number ++ ['\\'])) ++ exe := by
    rw [h.path_eq, inBase]
    simp only [List.append_assoc, List.singleton_append]
  rw [restFrom, ← hfront, hpath, List.drop_left]

/-- Under the first `Versions\` a folder leads to the executable in a folder `Base<newest>` only
if the number in the path has five digits, and only if it is that folder. -/
theorem direct_of_eq_inBase (h : LiesInBase path versionsPath number exe)
    (hversions : versionsPath.length = pos + versionsFolder.length) (hnewest : IsNumber newest)
    (hfolder : versionsPath <+: folder)
    (hfound : folder ++ '\\' :: restFrom path pos = inBase versionsPath newest exe) :
    number.length = 5 ∧ folder = versionsPath ++ (baseFolder ++ newest) := by
  have hrest : restFrom path pos = (number ++ '\\' :: exe).drop 6 := by
    rw [restFrom, h.path_eq, inBase, ← hversions, List.drop_length_add_append]
    rfl
  have hfound' : folder ++ '\\' :: restFrom path pos =
      versionsPath ++ (baseFolder ++ newest) ++ '\\' :: exe := by
    rw [hfound, inBase]
    simp only [List.append_assoc]
  rcases le_or_gt number.length 5 with hlength | hlength
  · have hexe : restFrom path pos = exe.drop (5 - number.length) := by
      rw [hrest, List.drop_append, List.drop_of_length_le (by omega), List.nil_append,
        show 6 - number.length = 5 - number.length + 1 by omega, List.drop_succ_cons]
    have hnot : '\\' ∉ restFrom path pos := fun hmem =>
      h.notMem_exe (List.mem_of_mem_drop (hexe ▸ hmem))
    obtain ⟨hfolder, heq⟩ := append_cons_inj hnot h.notMem_exe hfound'
    have hdrop := congrArg List.length (hexe.symm.trans heq)
    have hpos := List.length_pos_iff.2 h.exe_ne
    rw [List.length_drop] at hdrop
    exact ⟨by omega, hfolder⟩
  · exfalso
    obtain ⟨name, rfl⟩ := hfolder
    have hexe : restFrom path pos = number.drop 6 ++ '\\' :: exe := by
      rw [hrest, List.drop_append_of_le_length (by omega)]
    rw [hexe, ← List.cons_append, ← List.append_assoc] at hfound'
    have hname := (append_cons_inj h.notMem_exe h.notMem_exe hfound').1
    rw [List.append_assoc] at hname
    have hmem : '\\' ∈ baseFolder ++ newest :=
      List.append_cancel_left hname ▸ List.mem_append_right _ List.mem_cons_self
    rcases List.mem_append.1 hmem with hbase | hdigit
    · exact absurd hbase (by decide)
    · exact notMem_of_isNumber rfl hnewest hdigit

/-- Under a later one it leads there only if it is the folder in the path. -/
theorem deeper_of_eq_inBase (h : LiesInBase path versionsPath number exe)
    (hversions : pos + 2 * versionsFolder.length ≤ versionsPath.length)
    (hnewest : IsNumber newest)
    (hfound : folder ++ '\\' :: restFrom path pos = inBase versionsPath newest exe) :
    newest = number ∧ path = folder ++ '\\' :: restFrom path pos := by
  have hsplit (digits : Text) : inBase versionsPath digits exe =
      versionsPath ++ ['B', 'a', 's'] ++ 'e' :: digits ++ '\\' :: exe := by
    simp [inBase, baseFolder]
  have hrest : restFrom path pos = (versionsPath ++ ['B', 'a', 's']).drop
      (pos + versionsFolder.length + baseFolderNameLen) ++ 'e' :: number ++ '\\' :: exe := by
    rw [restFrom, h.path_eq, hsplit, List.append_assoc, List.drop_append_of_le_length,
      List.append_assoc]
    simp only [List.length_append, List.length_cons, List.length_nil]
    have hlengths : versionsFolder.length = 9 ∧ baseFolderNameLen = 10 := ⟨rfl, rfl⟩
    omega
  rw [hrest, hsplit, ← List.cons_append, ← List.append_assoc] at hfound
  have hfolders := (append_cons_inj h.notMem_exe h.notMem_exe hfound).1
  rw [← List.cons_append, ← List.append_assoc] at hfolders
  obtain ⟨-, rfl⟩ := append_cons_inj (notMem_of_isNumber rfl h.isNumber)
    (notMem_of_isNumber rfl hnewest) hfolders
  refine ⟨rfl, ?_⟩
  calc path = inBase versionsPath number exe := h.path_eq
    _ = _ := (hsplit number).trans hfound.symm
    _ = folder ++ '\\' :: restFrom path pos := by
      rw [hrest]
      simp only [List.append_assoc, List.cons_append]

/-- A later `Versions\` does not overlap the first one. -/
theorem LiesInBase.le_length (h : LiesInBase path versionsPath number exe)
    (hfind : find versionsFolder path = some pos)
    (hne : versionsPath ≠ path.take (pos + versionsFolder.length)) :
    pos + 2 * versionsFolder.length ≤ versionsPath.length := by
  obtain ⟨before, hbefore⟩ := h.versions
  obtain ⟨first, after, rfl, hfirst⟩ := exists_of_find hfind
  have hpath : path = before ++ (versionsFolder ++ (baseFolder ++ (number ++ '\\' :: exe))) := by
    rw [h.path_eq, inBase, ← hbefore, List.append_assoc]
  have hle : first.length ≤ before.length := by
    rw [hpath] at hfind
    exact le_of_find hfind
  have hlt : first.length < before.length := by
    refine hle.lt_of_ne fun heq => hne ?_
    rw [hpath, ← hbefore, heq, ← List.length_append, ← List.append_assoc, List.take_left]
  have hfree : 'V' ∉ ['e', 'r', 's', 'i', 'o', 'n', 's', '\\'] := by decide
  have hapart := length_le_of_occurrences hfree (hfirst.symm.trans hpath) hlt
  rw [← hbefore, List.length_append]
  have hlength : versionsFolder.length = 9 := rfl
  simp only [List.length_cons, List.length_nil] at hapart
  omega

end Lies

/-- The folders that are found are in the one that is searched. -/
theorem isPrefix_of_mem_holders {folder : Text} (h : folder ∈ fs.holders path pos) :
    path.take (pos + versionsFolder.length) <+: folder := by
  have hmem := (List.mem_filter.1 h).1
  unfold scanDirectory at hmem
  split at hmem
  · cases hmem
  · obtain ⟨entry, -, hentry⟩ := List.mem_filterMap.1 hmem
    unfold scanEntry at hentry
    dsimp only at hentry
    split at hentry
    · cases hentry
    · split at hentry
      · cases hentry
      · exact ⟨entry.2, Option.some.inj hentry⟩
    · cases hentry

/-- Where no folder holds a file of that name, the path itself is tested. -/
theorem findsLatest_iff_of_unheld
    (hrange : pos + versionsFolder.length + baseFolderNameLen ≤ path.length)
    (hnone : fs.holders path pos = [])
    (hrun : findLatestExe fs path = .ok (fs.fileExists path, path)) :
    fs.FindsLatest path ↔ fs.Findable path pos := by
  rw [findsLatest_iff_of_run hrun]
  constructor
  · rintro ⟨hfound, -⟩
    refine ⟨hrange, fun versionsPath number exe hlies _ hexists => ?_,
      fun _ _ _ _ hsome => absurd hnone hsome, fun _ _ _ _ hsome => absurd hnone hsome⟩
    obtain ⟨newest, -, hpath, -, hhighest⟩ := (hfound hexists).2 versionsPath number exe hlies
    rwa [← LiesInBase.number_eq hlies hpath]
  · intro h
    refine ⟨fun hexists => ⟨hexists, fun versionsPath number exe hlies => ?_⟩, fun _ => rfl⟩
    exact ⟨number, hlies.isNumber, hlies.path_eq, hexists,
      h.unheld versionsPath number exe hlies hnone hexists⟩

/-- Otherwise the last folder that does is taken. -/
theorem findsLatest_iff_of_isLast (hfind : find versionsFolder path = some pos)
    (hrange : pos + versionsFolder.length + baseFolderNameLen ≤ path.length) {folder : Text}
    (hlast : fs.IsLast path pos folder)
    (hrun : findLatestExe fs path = .ok (true, folder ++ '\\' :: restFrom path pos)) :
    fs.FindsLatest path ↔ fs.Findable path pos := by
  have hversions : (path.take (pos + versionsFolder.length)).length =
      pos + versionsFolder.length :=
    List.length_take_of_le (le_trans (Nat.le_add_right _ _) hrange)
  have hsome : fs.holders path pos ≠ [] := List.ne_nil_of_mem hlast.1
  have hexists : fs.fileExists (folder ++ '\\' :: restFrom path pos) = true :=
    (List.mem_filter.1 hlast.1).2
  rw [findsLatest_iff_of_run hrun]
  constructor
  · rintro ⟨hfound, -⟩
    refine ⟨hrange, fun _ _ _ _ hnone => absurd hnone hsome, ?_, ?_⟩
    · rintro versionsPath number exe hlies - rfl
      obtain ⟨newest, hnewest, hpath, -, hhighest⟩ := (hfound rfl).2 _ number exe hlies
      obtain ⟨hfive, rfl⟩ := direct_of_eq_inBase hlies hversions hnewest
        (isPrefix_of_mem_holders hlast.1) hpath
      exact ⟨hfive, newest, hnewest, hhighest, hlast⟩
    · intro versionsPath number exe hlies _ hne
      obtain ⟨newest, hnewest, hpath, -, hhighest⟩ :=
        (hfound rfl).2 versionsPath number exe hlies
      obtain ⟨rfl, hfolder⟩ :=
        deeper_of_eq_inBase hlies (LiesInBase.le_length hlies hfind hne) hnewest hpath
      exact ⟨hhighest, folder, hlast, hfolder⟩
  · intro h
    refine ⟨fun _ => ⟨hexists, fun versionsPath number exe hlies => ?_⟩, nofun⟩
    by_cases hfirst : versionsPath = path.take (pos + versionsFolder.length)
    · obtain ⟨hfive, newest, hnewest, hhighest, hlast'⟩ :=
        h.direct versionsPath number exe hlies hsome hfirst
      subst hfirst
      obtain rfl := restFrom_eq_of_liesInBase hlies hversions hfive
      refine ⟨newest, hnewest, ?_, hexists, hhighest⟩
      rw [hlast.unique hlast', inBase]
      simp only [List.append_assoc]
    · obtain ⟨hhighest, folder', hlast', hpath⟩ :=
        h.deeper versionsPath number exe hlies hsome hfirst
      rw [hlast.unique hlast', ← hpath] at hexists ⊢
      exact ⟨number, hlies.isNumber, hlies.path_eq, hexists, hhighest⟩

theorem findsLatest_iff_findable (hlength : ¬path.length < 4)
    (hfind : find versionsFolder path = some pos) : fs.FindsLatest path ↔ fs.Findable path pos := by
  by_cases hrange : pos + versionsFolder.length + baseFolderNameLen ≤ path.length
  · obtain ⟨hnone, hrun⟩ | ⟨folder, hlast, hrun⟩ :=
      @findLatestExe_cases fs _ _ hlength hfind hrange
    · exact findsLatest_iff_of_unheld hrange hnone hrun
    · exact findsLatest_iff_of_isLast hfind hrange hlast hrun
  · exact iff_of_false (not_findsLatest_of_short hlength hfind (not_le.1 hrange))
      fun h => hrange h.range

/-! ## Folders of five digits -/

/-- The folders as the code expects them: the path lies under the first `Versions\`, every
folder that holds its executable is `Base` with five digits, and all of them are listed. -/
structure FiveDigits (fs : FileSystem) (path : Text) (pos : Nat) : Prop where
  range : pos + versionsFolder.length + baseFolderNameLen ≤ path.length
  versions : ∀ versionsPath number exe, LiesInBase path versionsPath number exe →
    versionsPath = path.take (pos + versionsFolder.length) ∧ number.length = 5
  holders : ∀ folder ∈ fs.holders path pos, ∃ number, IsNumber number ∧ number.length = 5 ∧
    folder = path.take (pos + versionsFolder.length) ++ (baseFolder ++ number)
  listed : ∀ number, IsNumber number →
    fs.fileExists (inBase (path.take (pos + versionsFolder.length)) number
      (restFrom path pos)) = true →
    path.take (pos + versionsFolder.length) ++ (baseFolder ++ number) ∈ fs.holders path pos

/-- Five digits are ordered as strings as they are as numbers. -/
theorem le_of_folder_le {versionsPath number other : Text} (hnumber : IsNumber number)
    (hother : IsNumber other) (hlength : other.length = number.length)
    (h : versionsPath ++ (baseFolder ++ other) ≤ versionsPath ++ (baseFolder ++ number)) :
    Nat.ofDigitChars 10 other 0 ≤ Nat.ofDigitChars 10 number 0 := by
  by_contra hlt
  have hdigits : number < other :=
    lt_of_ofDigitChars_lt hlength.symm hnumber.2 hother.2 (not_le.1 hlt)
  have hfolders : versionsPath ++ (baseFolder ++ number) < versionsPath ++ (baseFolder ++ other) :=
    List.Lex.append_left _ (List.Lex.append_left _ hdigits _) _
  exact absurd hfolders h.not_gt

/-- With folders of five digits the latest executable is found. -/
theorem findsLatest_of_fiveDigits (hlength : 4 ≤ path.length)
    (hfind : find versionsFolder path = some pos) (h : FiveDigits fs path pos) :
    fs.FindsLatest path := by
  have hversions : (path.take (pos + versionsFolder.length)).length = pos + versionsFolder.length :=
    List.length_take_of_le (le_trans (Nat.le_add_right _ _) h.range)
  refine (findsLatest_iff_findable hlength.not_gt hfind).2 ⟨h.range, ?_, ?_, ?_⟩
  · intro versionsPath number exe hlies hnone hexists
    obtain ⟨rfl, hnumber⟩ := h.versions _ _ _ hlies
    obtain rfl := restFrom_eq_of_liesInBase hlies hversions hnumber
    have hlisted := h.listed number hlies.isNumber (hlies.path_eq ▸ hexists)
    rw [hnone] at hlisted
    cases hlisted
  · rintro versionsPath number exe hlies hsome rfl
    have hnumber := (h.versions _ _ _ hlies).2
    obtain rfl := restFrom_eq_of_liesInBase hlies hversions hnumber
    obtain ⟨hnone, -⟩ | ⟨folder, hlast, -⟩ :=
      @findLatestExe_cases fs _ _ hlength.not_gt hfind h.range
    · exact absurd hnone hsome
    · obtain ⟨newest, hnewest, hfive, rfl⟩ := h.holders folder hlast.1
      refine ⟨hnumber, newest, hnewest, fun other hother hexists => ?_, hlast⟩
      have hlisted := h.listed other hother hexists
      obtain ⟨digits, -, hdigits, hfolders⟩ := h.holders _ hlisted
      have heq : other = digits := List.append_cancel_left (List.append_cancel_left hfolders)
      exact le_of_folder_le hnewest hother (heq ▸ hdigits.trans hfive.symm) (hlast.2 _ hlisted)
  · intro versionsPath number exe hlies _ hne
    exact absurd (h.versions _ _ _ hlies).1 hne

theorem findsLatest_iff (fs : FileSystem) (path : Text) :
    fs.FindsLatest path ↔
      ∀ pos, 4 ≤ path.length → find versionsFolder path = some pos → fs.Findable path pos := by
  constructor
  · intro h pos hlength hfind
    exact (findsLatest_iff_findable hlength.not_gt hfind).1 h
  · intro h
    by_cases hlength : path.length < 4
    · exact findsLatest_of_none (Or.inl hlength)
    · cases hfind : find versionsFolder path with
      | none => exact findsLatest_of_none (Or.inr hfind)
      | some pos =>
        exact (findsLatest_iff_findable hlength hfind).2 (h pos (not_lt.1 hlength) hfind)

/-- The executable lies in `Versions\` itself. -/
theorem not_findsLatest_versions :
    ¬(FileSystem.mk (fun _ => false) fun _ => none).FindsLatest
      (versionsFolder ++ ['a', '.', 'e', 'x', 'e']) := by
  rintro ⟨found, path', hrun, -⟩
  have herror : findLatestExe ⟨fun _ => false, fun _ => none⟩
      (versionsFolder ++ ['a', '.', 'e', 'x', 'e']) = .error .outOfRange := by rfl
  rw [herror] at hrun
  cases hrun

end FileSystem

end Sc2Api
