import Mathlib.Data.List.AList
import Sc2Api.Lib.Text

/-!
# The argument parser

`ArgParser` with its options, the two maps of names and `Parse` and `Get`, less what is printed.
-/

namespace Sc2Api

open Lib

structure Arg where
  abbreviation : Text
  fullname : Text
  required : Bool
  deriving DecidableEq, Repr

structure ArgParser where
  options : List Arg := []
  abbvToFull : AList (fun _ : Text => Text) := ∅
  fullToValue : AList (fun _ : Text => Text) := ∅

namespace ArgParser

def addOptions (p : ArgParser) (options : List Arg) : ArgParser :=
  options.foldl (fun p o => { p with
    options := p.options ++ [o]
    abbvToFull := p.abbvToFull.insert o.abbreviation o.fullname }) p

/-- The full name of a valid argument. `abbv_to_full_[fullname]` makes an empty entry for what it
does not have. -/
def toFullname (p : ArgParser) (arg : Text) : Text × ArgParser :=
  if arg[1]? = some '-' then (arg, p)
  else
    match p.abbvToFull.lookup arg with
    | some fullname => (fullname, p)
    | none => ([], { p with abbvToFull := p.abbvToFull.insert arg [] })

/-- Whether each required option has a value. -/
def hasRequired (p : ArgParser) : Bool :=
  p.options.all fun o => !o.required || (p.fullToValue.lookup (o.fullname.drop 2)).isSome

/-- The value of a flag: the next argument, if it is not a flag too. -/
def valueAfter (rest : List Text) : Text :=
  match rest with
  | next :: _ => if next.head? ≠ some '-' then next else []
  | [] => []

/-- The loop over the arguments with the check at its end. -/
def parseArgs (p : ArgParser) : List Text → Bool × ArgParser
  | [] => (p.hasRequired, p)
  | arg :: rest =>
    if arg.head? ≠ some '-' then p.parseArgs rest
    else if arg = ['-', '-', 'h', 'e', 'l', 'p'] then (false, p)
    else if p.options.all (fun o => o.abbreviation ≠ arg ∧ o.fullname ≠ arg) then (false, p)
    else
      let (fullname, p) := p.toFullname arg
      let fullToValue := p.fullToValue.insert (fullname.drop 2) (valueAfter rest)
      { p with fullToValue }.parseArgs rest

/-- `argv` with the name of the executable. -/
def parse (p : ArgParser) (argv : List Text) : Bool × ArgParser := p.parseArgs argv

/-- The value is left as it is where there is none for the identifier. -/
def get (p : ArgParser) (identifier value : Text) : Bool × Text :=
  let fullname :=
    if identifier.length = 1 then p.abbvToFull.lookup ('-' :: identifier) else some identifier
  match fullname with
  | none => (false, value)
  | some fullname =>
    let fullname := if fullname.head? = some '-' then fullname.drop 2 else fullname
    match p.fullToValue.lookup fullname with
    | none => (false, value)
    | some v => (true, v)

end ArgParser

end Sc2Api
