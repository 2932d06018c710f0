import Mathlib.Data.List.AList
import Sc2Api.Lib.Text

/-!
# The property reader

`PropertyReader` reads a file of lines `key=value`. An index is a 32-bit `unsigned int`, the
position of the equals sign a 64-bit `size_t`. Where a loop does not return in the turns it is
given, it is still running.
-/

namespace Sc2Api

open Lib

structure PropertyReader where
  properties : AList (fun _ : Text => Text) := ∅
  fileRead : Bool := false

namespace PropertyReader

inductive Failure
  | outOfRange
  | running
  deriving DecidableEq, Repr

/-- `std::string::npos` -/
def npos : Nat := 2 ^ 64 - 1

/-- `line[index]`, which may be the zero behind the last character. -/
def charAt (line : Text) (index : UInt32) : Except Failure Char :=
  match (line ++ ['\x00'])[index.toNat]? with
  | none => .error .outOfRange
  | some c => .ok c

/-- Whether the line is skipped as a comment or as malformed. -/
def isSkipped (line : Text) : Bool :=
  line.head? = some '#' || line.head? = some ' ' || line.isEmpty || line.length < 2

/-- `line.find_first_of('=')` -/
def equalIndex (line : Text) : Nat := (line.findIdx? (· = '=')).getD npos

/-- Both loops that extract a part of the line: they go on to before `stop` and leave a space at
`blank` out. -/
def extract (line : Text) (stop blank : Nat) : Nat → UInt32 → Text → Except Failure Text
  | 0, _, _ => .error .running
  | turns + 1, index, part =>
    if index.toNat < stop then do
      let c ← charAt line index
      if index.toNat = blank ∧ c = ' ' then extract line stop blank turns (index + 1) part
      else extract line stop blank turns (index + 1) (part ++ [c])
    else .ok part

def extractKey (turns : Nat) (line : Text) (equalIndex : Nat) : Except Failure Text :=
  extract line equalIndex (equalIndex - 1) turns 0 []

def extractValue (turns : Nat) (line : Text) (equalIndex : Nat) : Except Failure Text :=
  extract line line.length ((equalIndex + 1) % 2 ^ 64) turns (UInt32.ofNat equalIndex + 1) []

/-- A turn of the loop over the lines. -/
def loadLine (turns : Nat) (r : PropertyReader) (line : Text) : Except Failure PropertyReader :=
  if isSkipped line then .ok r
  else do
    let equalIndex := equalIndex line
    let key ← extractKey turns line equalIndex
    let value ← extractValue turns line equalIndex
    return { r with properties := r.properties.insert key value }

/-- `LoadFile`, with the text of the file if it can be opened. -/
def loadFile (turns : Nat) (file : Option Text) : Except Failure (Bool × PropertyReader) :=
  match file with
  | none => .ok (false, {})
  | some text => do
    let r ← (lines text).foldlM (loadLine turns) { fileRead := true }
    return (true, r)

/-! ## Reading -/

/-- What `Read` has for `convert`. -/
def read (r : PropertyReader) (key : Text) : Option Text :=
  if r.properties.entries = [] then none else r.properties.lookup key

/-- The value is left as it is where there is none for the key. -/
def readString (r : PropertyReader) (key : Text) (value : Text) : Bool × Text :=
  match r.read key with
  | none => (false, value)
  | some v => (true, v)

def readInt (r : PropertyReader) (key : Text) (value : Int32) :
    Except ConversionError (Bool × Int32) :=
  match r.read key with
  | none => .ok (false, value)
  | some v => do
    let value ← stoi v
    return (true, value)

end PropertyReader

end Sc2Api
