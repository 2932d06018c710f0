import Mathlib.Data.Char
import Mathlib.Data.List.Lex
import Mathlib.Data.List.Sort
import Sc2Api.Lib.Text

/-!
# Finding executables

`FindLatestExe` and `FindBaseExe` with `scan_directory`. The file system tells which files can
be opened and what the directories hold. A range that is not in a string is an error.
-/

namespace Sc2Api

open Lib

inductive EntryType
  | reg
  | dir
  | other
  deriving DecidableEq, Repr

structure FileSystem where
  /-- `DoesFileExist` -/
  fileExists : Text → Bool
  /-- What `readdir` lists, `none` where `opendir` fails. -/
  entries : Text → Option (List (EntryType × Text))

namespace FileSystem

variable (fs : FileSystem)

/-- The file that an entry adds, if it adds one. A regular file that is added falls through to
the case of a directory, which passes it over. -/
def scanEntry (directory : Text) (fullPath listDirectories : Bool) (entry : EntryType × Text) :
    Option Text :=
  let name := entry.2
  let file := if fullPath then directory ++ name else name
  match entry.1 with
  | .reg => if listDirectories then none else some file
  | .dir =>
    if !listDirectories || name = [] || name = ['.'] || name = ['.', '.'] then none
    else some file
  | .other => none

def scanDirectory (directory : Text) (fullPath listDirectories : Bool) : List Text :=
  if directory = [] then []
  else ((fs.entries directory).getD []).filterMap (scanEntry directory fullPath listDirectories)

end FileSystem

/-! ## The latest version -/

/-- A range that is not in the string is erased. -/
inductive EraseRange
  | outOfRange
  deriving DecidableEq, Repr

def versionsFolder : Text := ['V', 'e', 'r', 's', 'i', 'o', 'n', 's', '\\']

/-- The length of `Base00000\`. -/
def baseFolderNameLen : Nat := 10

/-- The loop over the subfolders from the last one on. -/
def findSubfolder (fs : FileSystem) (exeName : Text) : List Text → Option Text
  | [] => none
  | subfolder :: subfolders =>
    let testPath := subfolder ++ '\\' :: exeName
    if fs.fileExists testPath then some testPath else findSubfolder fs exeName subfolders

/-- The result with the path that is left. -/
def findLatestExe (fs : FileSystem) (path : Text) : Except EraseRange (Bool × Text) :=
  if path.length < 4 then .ok (false, path)
  else
    match find versionsFolder path with
    | none => .ok (fs.fileExists path, path)
    | some versionsPos =>
      let versionsPath := path.take (versionsPos + versionsFolder.length)
      let exePos := versionsPos + versionsFolder.length + baseFolderNameLen
      if path.length < exePos then .error .outOfRange
      else
        let exeName := path.drop exePos
        let subfolders := fs.scanDirectory versionsPath true true
        if subfolders.length < 1 then .ok (fs.fileExists path, path)
        else
          let subfolders := subfolders.mergeSort (fun a b => a ≤ b)
          match findSubfolder fs exeName subfolders.reverse with
          | some testPath => .ok (true, testPath)
          | none => .ok (fs.fileExists path, path)

/-! ## A certain version -/

def baseFolder : Text := ['B', 'a', 's', 'e']

/-- The result with the path that is left, and the paths that are tested. -/
def findBaseExe (fileExists : Text → Bool) (path : Text) (baseBuild : UInt32) :
    (Bool × Text) × List Text :=
  let newNum := decimal baseBuild.toNat
  match find baseFolder path with
  | none => ((false, path), [])
  | some folderStart =>
    let numStart := folderStart + baseFolder.length
    let numEnd := numStart + newNum.length
    if numEnd > path.length then ((false, path), [])
    else
      let newPath := path.take numStart ++ newNum ++ path.drop numEnd
      if fileExists newPath then ((true, newPath), [newPath]) else ((false, path), [newPath])

end Sc2Api
