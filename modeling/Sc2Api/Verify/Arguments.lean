import Mathlib.Tactic.Common
import Sc2Api.ArgParser
import Sc2Api.Lib.Assignments

/-!
# Parsing arguments

A command line of groups, each a flag with or without a value: what `Get` finds depends on the
groups alone, not on their order nor on the form of the flags.
-/

namespace Sc2Api.ArgParser

open Lib

/-! ## Options and groups -/

/-- An option `-c` and `--name`. -/
structure Flag where
  letter : Char
  name : Text
  required : Bool
  letter_ne : letter ≠ '-'
  two_le_length : 2 ≤ name.length
  head_ne : name.head? ≠ some '-'
  ne_help : name ≠ ['h', 'e', 'l', 'p']
  deriving DecidableEq

namespace Flag

variable (o : Flag)

def abbreviation : Text := ['-', o.letter]

def fullname : Text := '-' :: '-' :: o.name

def toArg : Arg where
  abbreviation := o.abbreviation
  fullname := o.fullname
  required := o.required

end Flag

/-- The flag of an option in one of its forms, and its value if there is one. -/
structure Group where
  option : Flag
  full : Bool
  value : Option Text
  head_ne : ∀ v ∈ value, v.head? ≠ some '-'

namespace Group

variable (g : Group)

def flag : Text := if g.full then g.option.fullname else g.option.abbreviation

def tokens : List Text := g.flag :: g.value.toList

/-- The name of the option with the value that is stored for it. -/
def entry : Text × Text := (g.option.name, g.value.getD [])

theorem flag_eq : g.flag = g.option.fullname ∨ g.flag = g.option.abbreviation := by
  unfold flag
  split
  · exact Or.inl rfl
  · exact Or.inr rfl

theorem head_flag : g.flag.head? = some '-' := by
  rcases g.flag_eq with h | h <;> rw [h] <;> rfl

theorem flag_ne_help : g.flag ≠ ['-', '-', 'h', 'e', 'l', 'p'] := by
  intro h
  rcases g.flag_eq with hflag | hflag
  · rw [hflag] at h
    exact g.option.ne_help (List.cons_injective (List.cons_injective h))
  · rw [hflag] at h
    exact absurd (congrArg List.length h) (Nat.ne_of_beq_eq_false rfl)

end Group

/-! ## Names -/

/-- The parser knows these options. -/
structure Declares (p : ArgParser) (flags : List Flag) : Prop where
  options : p.options = flags.map Flag.toArg
  abbvToFull : ∀ o ∈ flags, p.abbvToFull.lookup o.abbreviation = some o.fullname

section Names

variable {p : ArgParser} {flags : List Flag} {o : Flag}

theorem addOptions_eq (p : ArgParser) (options : List Arg) :
    p.addOptions options = { p with
      options := p.options ++ options
      abbvToFull :=
        insertAll (options.map fun o => (o.abbreviation, o.fullname)) p.abbvToFull } := by
  induction options generalizing p with
  | nil =>
    rw [List.append_nil]
    rfl
  | cons o options ih =>
    refine (ih _).trans ?_
    rw [List.append_assoc]
    rfl

theorem declares_addOptions (hletters : (flags.map Flag.letter).Nodup) :
    Declares (addOptions {} (flags.map Flag.toArg)) flags where
  options := by
    rw [addOptions_eq]
    rfl
  abbvToFull o ho := by
    have hnodup : (((flags.map Flag.toArg).map fun o => (o.abbreviation, o.fullname)).map
        (·.1)).Nodup := by
      refine List.Nodup.of_map (·[1]?) ?_
      rw [List.map_map, List.map_map, List.map_map]
      exact (List.map_map (f := Flag.letter) (g := some) ▸
        hletters.map (Option.some_injective Char))
    rw [addOptions_eq]
    change (insertAll _ ∅).lookup o.abbreviation = _
    rw [lookup_insertAll_of_nodup hnodup, AList.lookup_empty, Option.or_none]
    refine lookup_of_mem hnodup ?_
    rw [List.map_map]
    exact List.mem_map_of_mem ho

/-- Both forms of a flag are valid, no call for help, and stand for the option. -/
theorem Declares.toFullname_flag (h : Declares p flags) (g : Group) (hg : g.option ∈ flags) :
    p.toFullname g.flag = (g.option.fullname, p) := by
  unfold toFullname
  rcases g.flag_eq with hflag | hflag
  · rw [hflag]
    rfl
  · have hletter : ¬g.option.abbreviation[1]? = some '-' := fun heq =>
      g.option.letter_ne (Option.some.inj heq)
    rw [hflag, if_neg hletter, h.abbvToFull _ hg]

theorem Declares.isOption_flag (h : Declares p flags) (g : Group) (hg : g.option ∈ flags) :
    ¬p.options.all (fun o => o.abbreviation ≠ g.flag ∧ o.fullname ≠ g.flag) = true := by
  intro hall
  have hmem : g.option.toArg ∈ p.options := h.options ▸ List.mem_map_of_mem hg
  obtain ⟨habbreviation, hfullname⟩ := of_decide_eq_true (List.all_eq_true.1 hall _ hmem)
  rcases g.flag_eq with hflag | hflag
  · exact hfullname hflag.symm
  · exact habbreviation hflag.symm

end Names

/-! ## Parsing -/

/-- The parser after the groups. -/
def store (p : ArgParser) (groups : List Group) : ArgParser :=
  { p with fullToValue := insertAll (groups.map Group.entry) p.fullToValue }

/-- A new parser with these options reads the command line of the groups. -/
def parseGroups (flags : List Flag) (executable : Text) (groups : List Group) :
    Bool × ArgParser :=
  (addOptions {} (flags.map Flag.toArg)).parse (executable :: groups.flatMap Group.tokens)

section Parsing

variable {p : ArgParser} {flags : List Flag} {groups groups' : List Group}

theorem Declares.store (h : Declares p flags) (groups : List Group) :
    Declares (p.store groups) flags := ⟨h.options, h.abbvToFull⟩

theorem parseArgs_value {v : Text} (hv : v.head? ≠ some '-') (rest : List Text) :
    p.parseArgs (v :: rest) = p.parseArgs rest := by
  rw [parseArgs, if_pos hv]

/-- The tokens of a group store its value, if no value comes behind it. -/
theorem Declares.parseArgs_group (h : Declares p flags) (g : Group) (hg : g.option ∈ flags)
    {rest : List Text} (hrest : ∀ next ∈ rest.head?, next.head? = some '-') :
    p.parseArgs (g.tokens ++ rest) = (p.store [g]).parseArgs rest := by
  have hhead : ¬g.flag.head? ≠ some '-' := not_not.2 g.head_flag
  unfold Group.tokens
  rw [List.cons_append, parseArgs, if_neg hhead, if_neg g.flag_ne_help,
    if_neg (h.isOption_flag g hg), h.toFullname_flag g hg]
  dsimp only
  have hstore : p.store [g] = { p with
      fullToValue := p.fullToValue.insert (g.option.fullname.drop 2) (g.value.getD []) } := rfl
  rw [hstore]
  cases hvalue : g.value with
  | some v =>
    have hv : v.head? ≠ some '-' := g.head_ne v hvalue
    have hafter : valueAfter (v :: rest) = v := if_pos hv
    rw [Option.toList_some, List.singleton_append, hafter, parseArgs_value hv]
    rfl
  | none =>
    have hafter : valueAfter rest = [] := by
      cases rest with
      | nil => rfl
      | cons next rest => exact if_neg (not_not.2 (hrest next rfl))
    rw [Option.toList_none, List.nil_append, hafter]
    rfl

/-- All groups are stored. -/
theorem Declares.parseArgs_groups (h : Declares p flags)
    (hgroups : ∀ g ∈ groups, g.option ∈ flags) :
    p.parseArgs (groups.flatMap Group.tokens) = ((p.store groups).hasRequired, p.store groups) := by
  induction groups generalizing p with
  | nil => rfl
  | cons g groups ih =>
    have hnext : ∀ next ∈ (groups.flatMap Group.tokens).head?, next.head? = some '-' := by
      intro next hnext
      cases groups with
      | nil => cases hnext
      | cons g' groups =>
        obtain rfl := Option.some.inj hnext
        exact g'.head_flag
    rw [List.flatMap_cons, h.parseArgs_group g (hgroups g List.mem_cons_self) hnext,
      ih (h.store [g]) fun g' hg' => hgroups g' (List.mem_cons_of_mem _ hg')]
    rfl

theorem parseGroups_eq (hletters : (flags.map Flag.letter).Nodup)
    (hgroups : ∀ g ∈ groups, g.option ∈ flags) {executable : Text}
    (hexecutable : executable.head? ≠ some '-') :
    parseGroups flags executable groups =
      (((addOptions {} (flags.map Flag.toArg)).store groups).hasRequired,
        (addOptions {} (flags.map Flag.toArg)).store groups) := by
  unfold parseGroups parse
  rw [parseArgs_value hexecutable, (declares_addOptions hletters).parseArgs_groups hgroups]

end Parsing

/-! ## What is found -/

/-- The names by which `Get` knows an option. -/
def Flag.identifiers (o : Flag) : List Text := [o.name, o.fullname, [o.letter]]

/-- A result of `Parse` with all that `Get` finds afterwards. -/
structure Parsed (flags : List Flag) (groups : List Group) (result : Bool × ArgParser) :
    Prop where
  success : result.1 = true ↔ ∀ o ∈ flags, o.required = true → ∃ g ∈ groups, g.option = o
  given : ∀ g ∈ groups, ∀ identifier ∈ g.option.identifiers, ∀ value,
    result.2.get identifier value = (true, g.value.getD [])
  missing : ∀ o ∈ flags, (∀ g ∈ groups, g.option ≠ o) → ∀ identifier ∈ o.identifiers, ∀ value,
    result.2.get identifier value = (false, value)

section Found

variable {p : ArgParser} {flags : List Flag} {groups groups' : List Group}

/-- `Get` looks up the name without its dashes. -/
theorem get_eq {identifier fullname name : Text}
    (hfullname : (if identifier.length = 1 then p.abbvToFull.lookup ('-' :: identifier)
      else some identifier) = some fullname)
    (hname : (if fullname.head? = some '-' then fullname.drop 2 else fullname) = name)
    (value : Text) :
    p.get identifier value =
      ((p.fullToValue.lookup name).isSome, (p.fullToValue.lookup name).getD value) := by
  unfold get
  dsimp only
  rw [hfullname]
  dsimp only
  rw [hname]
  cases p.fullToValue.lookup name <;> rfl

/-- All identifiers of an option look its name up. -/
theorem Declares.get_identifier (h : Declares p flags) {o : Flag} (ho : o ∈ flags)
    {identifier : Text} (hidentifier : identifier ∈ o.identifiers) (value : Text) :
    p.get identifier value =
      ((p.fullToValue.lookup o.name).isSome, (p.fullToValue.lookup o.name).getD value) := by
  simp only [Flag.identifiers, List.mem_cons, List.not_mem_nil, or_false] at hidentifier
  rcases hidentifier with rfl | rfl | rfl
  · have hlength : o.name.length ≠ 1 := by
      have := o.two_le_length
      omega
    exact get_eq (if_neg hlength) (if_neg o.head_ne) value
  · have hlength : o.fullname.length ≠ 1 := by simp [Flag.fullname]
    exact get_eq (if_neg hlength) (if_pos rfl) value
  · exact get_eq ((if_pos rfl).trans (h.abbvToFull o ho)) (if_pos rfl) value

theorem nodup_entries (hnames : (flags.map Flag.name).Nodup)
    (hgroups : ∀ g ∈ groups, g.option ∈ flags) (hdistinct : (groups.map Group.option).Nodup) :
    ((groups.map Group.entry).map (·.1)).Nodup := by
  have hinj : ∀ o ∈ groups.map Group.option, ∀ o' ∈ groups.map Group.option,
      o.name = o'.name → o = o' := by
    intro o ho o' ho' heq
    obtain ⟨g, hg, rfl⟩ := List.mem_map.1 ho
    obtain ⟨g', hg', rfl⟩ := List.mem_map.1 ho'
    exact List.inj_on_of_nodup_map hnames (hgroups g hg) (hgroups g' hg') heq
  have h := hdistinct.map_on hinj
  rw [List.map_map] at h ⊢
  exact h

/-- The value that is stored for the name of an option. -/
theorem lookup_store (hnodup : ((groups.map Group.entry).map (·.1)).Nodup) (key : Text) :
    ((addOptions {} (flags.map Flag.toArg)).store groups).fullToValue.lookup key =
      (groups.map Group.entry).lookup key := by
  rw [addOptions_eq]
  change (insertAll (groups.map Group.entry) ∅).lookup key = _
  rw [lookup_insertAll_of_nodup hnodup, AList.lookup_empty, Option.or_none]

theorem lookup_entry (hnodup : ((groups.map Group.entry).map (·.1)).Nodup) {g : Group}
    (hg : g ∈ groups) : (groups.map Group.entry).lookup g.option.name = some (g.value.getD []) :=
  lookup_of_mem hnodup (List.mem_map_of_mem hg)

theorem lookup_entry_of_missing (hnames : (flags.map Flag.name).Nodup)
    (hgroups : ∀ g ∈ groups, g.option ∈ flags) {o : Flag} (ho : o ∈ flags)
    (hmissing : ∀ g ∈ groups, g.option ≠ o) : (groups.map Group.entry).lookup o.name = none := by
  refine lookup_of_notMem fun hmem => ?_
  rw [List.map_map] at hmem
  obtain ⟨g, hg, heq⟩ := List.mem_map.1 hmem
  exact hmissing g hg (List.inj_on_of_nodup_map hnames (hgroups g hg) ho heq)

theorem parseGroups_parsed (hletters : (flags.map Flag.letter).Nodup)
    (hnames : (flags.map Flag.name).Nodup) (hgroups : ∀ g ∈ groups, g.option ∈ flags)
    (hdistinct : (groups.map Group.option).Nodup) {executable : Text}
    (hexecutable : executable.head? ≠ some '-') :
    Parsed flags groups (parseGroups flags executable groups) := by
  have hnodup := nodup_entries hnames hgroups hdistinct
  have hdeclares := (declares_addOptions hletters).store groups
  rw [parseGroups_eq hletters hgroups hexecutable]
  refine ⟨?_, ?_, ?_⟩
  · unfold hasRequired
    rw [hdeclares.options, List.all_map, List.all_eq_true]
    refine forall₂_congr fun o ho => ?_
    change (!o.required || (AList.lookup o.name _).isSome) = true ↔ _
    rw [lookup_store hnodup]
    by_cases hgiven : ∃ g ∈ groups, g.option = o
    · obtain ⟨g, hg, rfl⟩ := hgiven
      rw [lookup_entry hnodup hg]
      simp only [Option.isSome_some, Bool.or_true, true_iff]
      exact fun _ => ⟨g, hg, rfl⟩
    · have hmissing : ∀ g ∈ groups, g.option ≠ o := fun g hg heq => hgiven ⟨g, hg, heq⟩
      rw [lookup_entry_of_missing hnames hgroups ho hmissing]
      simp [hgiven]
  · intro g hg identifier hidentifier value
    rw [hdeclares.get_identifier (hgroups g hg) hidentifier, lookup_store hnodup,
      lookup_entry hnodup hg]
    rfl
  · intro o ho hmissing identifier hidentifier value
    rw [hdeclares.get_identifier ho hidentifier, lookup_store hnodup,
      lookup_entry_of_missing hnames hgroups ho hmissing]
    rfl

/-- Only the names with their values matter. -/
theorem get_congr {p' : ArgParser} (habbv : p'.abbvToFull = p.abbvToFull)
    (hlookup : ∀ key, p'.fullToValue.lookup key = p.fullToValue.lookup key)
    (identifier value : Text) : p'.get identifier value = p.get identifier value := by
  unfold get
  rw [habbv]
  simp only [hlookup]

theorem hasRequired_congr {p' : ArgParser} (hoptions : p'.options = p.options)
    (hlookup : ∀ key, p'.fullToValue.lookup key = p.fullToValue.lookup key) :
    p'.hasRequired = p.hasRequired := by
  unfold hasRequired
  rw [hoptions]
  simp only [hlookup]

/-- The groups of another command line are the same, in any order and any form. -/
def SameGroups (groups groups' : List Group) : Prop :=
  (groups'.map fun g => (g.option, g.value)).Perm (groups.map fun g => (g.option, g.value))

theorem SameGroups.entries (h : SameGroups groups groups') :
    (groups'.map Group.entry).Perm (groups.map Group.entry) := by
  have hentry (groups : List Group) : groups.map Group.entry =
      (groups.map fun g => (g.option, g.value)).map fun g => (g.1.name, g.2.getD []) := by
    rw [List.map_map]
    rfl
  rw [hentry, hentry]
  exact h.map _

theorem SameGroups.options (h : SameGroups groups groups') :
    (groups'.map Group.option).Perm (groups.map Group.option) := by
  have hoption (groups : List Group) : groups.map Group.option =
      (groups.map fun g => (g.option, g.value)).map (·.1) := by
    rw [List.map_map]
    rfl
  rw [hoption, hoption]
  exact h.map _

theorem parseGroups_same (hletters : (flags.map Flag.letter).Nodup)
    (hnames : (flags.map Flag.name).Nodup) (hgroups : ∀ g ∈ groups, g.option ∈ flags)
    (hdistinct : (groups.map Group.option).Nodup) {executable : Text}
    (hexecutable : executable.head? ≠ some '-') (h : SameGroups groups groups') :
    (parseGroups flags executable groups').1 = (parseGroups flags executable groups).1 ∧
      ∀ identifier value, (parseGroups flags executable groups').2.get identifier value =
        (parseGroups flags executable groups).2.get identifier value := by
  have hnodup := nodup_entries hnames hgroups hdistinct
  have hnodup' : ((groups'.map Group.entry).map (·.1)).Nodup :=
    (h.entries.map _).nodup_iff.2 hnodup
  have hgroups' : ∀ g ∈ groups', g.option ∈ flags := by
    intro g hg
    obtain ⟨g', hg', heq⟩ := List.mem_map.1 (h.options.subset (List.mem_map_of_mem hg))
    exact heq ▸ hgroups g' hg'
  have hlookup (key : Text) :
      ((addOptions {} (flags.map Flag.toArg)).store groups').fullToValue.lookup key =
        ((addOptions {} (flags.map Flag.toArg)).store groups).fullToValue.lookup key := by
    rw [lookup_store hnodup', lookup_store hnodup, lookup_perm hnodup h.entries]
  rw [parseGroups_eq hletters hgroups hexecutable, parseGroups_eq hletters hgroups' hexecutable]
  exact ⟨hasRequired_congr rfl hlookup, get_congr rfl hlookup⟩

end Found

theorem parse_groups (flags : List Flag) (hletters : (flags.map Flag.letter).Nodup)
    (hnames : (flags.map Flag.name).Nodup) (groups : List Group)
    (hgroups : ∀ g ∈ groups, g.option ∈ flags) (hdistinct : (groups.map Group.option).Nodup)
    (executable : Text) (hexecutable : executable.head? ≠ some '-') :
    Parsed flags groups (parseGroups flags executable groups) ∧
      ∀ groups', SameGroups groups groups' →
        (parseGroups flags executable groups').1 = (parseGroups flags executable groups).1 ∧
          ∀ identifier value, (parseGroups flags executable groups').2.get identifier value =
            (parseGroups flags executable groups).2.get identifier value :=
  ⟨parseGroups_parsed hletters hnames hgroups hdistinct hexecutable, fun _ h =>
    parseGroups_same hletters hnames hgroups hdistinct hexecutable h⟩

def mapFlag : Flag where
  letter := 'm'
  name := ['m', 'a', 'p']
  required := true
  letter_ne := by decide
  two_le_length := by decide
  head_ne := by decide
  ne_help := by decide

def quietFlag : Flag where
  letter := 'q'
  name := ['q', 'u', 'i', 'e', 't']
  required := false
  letter_ne := by decide
  two_le_length := by decide
  head_ne := by decide
  ne_help := by decide

def seedFlag : Flag where
  letter := 's'
  name := ['s', 'e', 'e', 'd']
  required := false
  letter_ne := by decide
  two_le_length := by decide
  head_ne := by decide
  ne_help := by decide

def mapGroup (full : Bool) : Group where
  option := mapFlag
  full
  value := some ['a', 'b']
  head_ne := by simp

def quietGroup (full : Bool) : Group where
  option := quietFlag
  full
  value := none
  head_ne := by simp

/-- A command line with a value, a flag without one and an option that is missing, once as
`bot -m ab --quiet` and once as `bot -q --map ab`. -/
theorem parse_groups_exchanged :
    let flags := [mapFlag, quietFlag, seedFlag]
    let groups := [mapGroup false, quietGroup true]
    let groups' := [quietGroup false, mapGroup true]
    let bot := ['b', 'o', 't']
    let first := parseGroups flags bot groups
    let second := parseGroups flags bot groups'
    ((flags.map Flag.letter).Nodup ∧ (flags.map Flag.name).Nodup ∧
      (∀ g ∈ groups, g.option ∈ flags) ∧ (groups.map Group.option).Nodup ∧
      bot.head? ≠ some '-' ∧ SameGroups groups groups') ∧
    Parsed flags groups first ∧
    (second.1 = first.1 ∧ ∀ identifier value, second.2.get identifier value =
      first.2.get identifier value) ∧
    first.1 = true ∧ second.2.get ['m'] [] = (true, ['a', 'b']) ∧
    second.2.get ['q', 'u', 'i', 'e', 't'] ['x'] = (true, []) ∧
    second.2.get ['s'] ['x'] = (false, ['x']) := by
  intro flags groups groups' bot first second
  have hgroups : ∀ g ∈ groups, g.option ∈ flags :=
    List.forall_mem_cons.2 ⟨by decide, List.forall_mem_cons.2 ⟨by decide, List.forall_mem_nil _⟩⟩
  have hsame : SameGroups groups groups' := List.Perm.swap _ _ _
  obtain ⟨hparsed, hexchanged⟩ := parse_groups flags (by decide) (by decide) groups hgroups
    (by decide) bot (by decide)
  obtain ⟨hfirst, hget⟩ := hexchanged groups' hsame
  have hseed : ∀ g ∈ groups, g.option ≠ seedFlag :=
    List.forall_mem_cons.2 ⟨by decide, List.forall_mem_cons.2 ⟨by decide, List.forall_mem_nil _⟩⟩
  refine ⟨⟨by decide, by decide, hgroups, by decide, by decide, hsame⟩, hparsed,
    ⟨hfirst, hget⟩, ?_, ?_, ?_, ?_⟩
  · exact hparsed.success.2 (by decide)
  · rw [hget]
    exact hparsed.given (mapGroup false) (by simp [groups]) ['m'] (by decide) []
  · rw [hget]
    exact hparsed.given (quietGroup true) (by simp [groups]) _ (by decide) ['x']
  · rw [hget]
    exact hparsed.missing seedFlag (by decide) hseed ['s'] (by decide) ['x']

end Sc2Api.ArgParser
