import Mathlib.Data.Finset.Sort
import Mathlib.Data.UInt
import Sc2Api.Lib.Text

/-!
# Simple serialization

`SerializeT` writes a value as lines of text and reads it back.
-/

namespace Sc2Api

open Lib

/-- The values that are written and read. -/
inductive Value
  | string (t : Text)
  | bool (t : Bool)
  | number (t : UInt32)
  | set (s : Finset UInt32)
  deriving DecidableEq

/-- A file that is read: the text that is left of it, and whether the stream is good, which it is
until it comes to the end of the text. -/
structure InputFile where
  text : Text
  good : Bool := true
  deriving DecidableEq

namespace Value

/-! ## Writing -/

/-- `s << line << std::endl` -/
def writeLine (line : Text) : Text := line ++ ['\n']

def writeNumber (t : UInt32) : Text := writeLine (decimal t.toNat)

/-- The size of a set, and its elements in their order. -/
def writeSet (s : Finset UInt32) : Text :=
  writeLine (decimal s.card) ++ (s.sort (· ≤ ·)).flatMap writeNumber

def write : Value → Text
  | .string t => writeLine t
  | .bool t => writeLine (if t then ['1'] else ['0'])
  | .number t => writeNumber t
  | .set s => writeSet s

/-! ## Reading -/

/-- `std::getline`: whether there was a line, the line that is in the variable then, and what is
left of the file. A file that is not good leaves the variable as it is, one that is at its end
clears it. -/
def getLine (line : Text) (file : InputFile) : Bool × Text × InputFile :=
  if !file.good then (false, line, file)
  else
    match getline file.text with
    | none => (false, [], { file with good := false })
    | some (line, text) => (true, line, { text, good := '\n' ∈ file.text })

def readString (t : Text) (file : InputFile) : Text × InputFile := (getLine t file).2

/-- The number is converted to `uint32_t`. -/
def readNumber (t : UInt32) (file : InputFile) : Except ConversionError (UInt32 × InputFile) :=
  let (found, line, file) := getLine [] file
  if !found then .ok (t, file)
  else do
    let value ← stoi line
    return (value.toUInt32, file)

def readBool (t : Bool) (file : InputFile) : Except ConversionError (Bool × InputFile) :=
  let (found, line, file) := getLine [] file
  if !found then .ok (t, file)
  else do
    let value ← stoi line
    return (value.toUInt32 = 1, file)

/-- The turns of the loop that are left, with the set so far. -/
def readElements :
    Nat → Finset UInt32 → InputFile → Except ConversionError (Finset UInt32 × InputFile)
  | 0, s, file => .ok (s, file)
  | turns + 1, s, file => do
    let (value, file) ← readNumber 0 file
    readElements turns (insert value s) file

def readSet (s : Finset UInt32) (file : InputFile) :
    Except ConversionError (Finset UInt32 × InputFile) := do
  let (setSize, file) ← readNumber 0 file
  readElements setSize.toNat s file

/-- Reads into a variable. -/
def read (target : Value) (file : InputFile) : Except ConversionError (Value × InputFile) :=
  match target with
  | .string t =>
    let (t, file) := readString t file
    .ok (.string t, file)
  | .bool t => do
    let (t, file) ← readBool t file
    return (.bool t, file)
  | .number t => do
    let (t, file) ← readNumber t file
    return (.number t, file)
  | .set s => do
    let (s, file) ← readSet s file
    return (.set s, file)

/-! ## Sequences -/

def writeAll (values : List Value) : Text := values.flatMap write

def readAll : List Value → InputFile → Except ConversionError (List Value × InputFile)
  | [], file => .ok ([], file)
  | target :: targets, file => do
    let (value, file) ← target.read file
    let (values, file) ← readAll targets file
    return (value :: values, file)

end Value

end Sc2Api
