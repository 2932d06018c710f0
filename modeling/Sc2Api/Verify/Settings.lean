import Sc2Api.Settings
import Sc2Api.Verify.Arguments

/-!
# Merging settings

What is given on the command line goes over what the file and the search for the executable
left, but for the port: its option is declared and never read.
-/

namespace Sc2Api

open Lib ArgParser

/-! ## The declared options -/

section Flags

/-- A flag of letters. -/
def declared (letter : Char) (name : Text) (required : Bool)
    (h : letter ≠ '-' ∧ 2 ≤ name.length ∧ name.head? ≠ some '-' ∧ name ≠ ['h', 'e', 'l', 'p']) :
    Flag where
  letter := letter
  name := name
  required := required
  letter_ne := h.1
  two_le_length := h.2.1
  head_ne := h.2.2.1
  ne_help := h.2.2.2

def executableFlag : Flag := declared 'e' "executable".toList true (by decide)

def stepSizeFlag : Flag := declared 's' "step_size".toList false (by decide)

def portFlag : Flag := declared 'p' "port".toList false (by decide)

def realtimeFlag : Flag := declared 'r' "realtime".toList false (by decide)

def mapFlag : Flag := declared 'm' "map".toList false (by decide)

def timeoutFlag : Flag := declared 't' "timeout".toList false (by decide)

def declaredFlags : List Flag :=
  [executableFlag, stepSizeFlag, portFlag, realtimeFlag, mapFlag, timeoutFlag]

example : declaredFlags.map Flag.toArg = declaredOptions := rfl

end Flags

/-! ## What is given -/

/-- The value given for an option. -/
def given (groups : List Group) (o : Flag) : Option Text :=
  (groups.find? fun g => g.option = o).map fun g => g.value.getD []

/-- A setting is the converted value, if one is given, and otherwise what it was. -/
inductive Takes {α : Type} (convert : Text → Except SettingsFailure α) (old : α) :
    Option Text → α → Prop
  | given {text : Text} {new : α} (converted : convert text = .ok new) :
      Takes convert old (some text) new
  | missing : Takes convert old none old

/-- The settings with what is given over those that were there, and all others as they were. -/
structure Merged (groups : List Group) (base result : ProcessSettings × GameSettings) : Prop where
  processPath : Takes (fun text => .ok (String.ofList text)) base.1.processPath
    (given groups executableFlag) result.1.processPath
  stepSize : Takes (atoi .overflow) base.1.stepSize (given groups stepSizeFlag) result.1.stepSize
  portStart : Takes (atoi .overflow) base.1.portStart (given groups portFlag) result.1.portStart
  realtime : Takes (fun text => .ok (decide (text = "true".toList))) base.1.realtime
    (given groups realtimeFlag) result.1.realtime
  mapName : Takes (fun text => .ok (String.ofList text)) base.2.mapName (given groups mapFlag)
    result.2.mapName
  timeoutMs : Takes (atoi .overflow) base.1.timeoutMs (given groups timeoutFlag)
    result.1.timeoutMs
  otherProcessSettings : ∃ processPath stepSize portStart realtime timeoutMs,
    result.1 = { base.1 with processPath, stepSize, portStart, realtime, timeoutMs }
  otherGameSettings : ∃ mapName, result.2 = { base.2 with mapName }

section Given

variable {groups : List Group} {executable : Text}

/-- What `Get` finds for a declared option. -/
theorem get_declared (hgroups : ∀ g ∈ groups, g.option ∈ declaredFlags)
    (hdistinct : (groups.map Group.option).Nodup) (hexecutable : executable.head? ≠ some '-')
    {o : Flag} (ho : o ∈ declaredFlags) (value : Text) :
    (parseGroups declaredFlags executable groups).2.get o.name value =
      ((given groups o).isSome, (given groups o).getD value) := by
  have hparsed : Parsed declaredFlags groups (parseGroups declaredFlags executable groups) :=
    parseGroups_parsed (by decide +kernel) (by decide +kernel) hgroups hdistinct hexecutable
  have hname : o.name ∈ o.identifiers := List.mem_cons_self
  unfold given
  cases hfind : groups.find? fun g => decide (g.option = o) with
  | some g =>
    obtain rfl : g.option = o :=
      of_decide_eq_true (List.find?_some (p := fun g : Group => decide (g.option = o)) hfind)
    exact hparsed.given g (List.mem_of_find?_eq_some hfind) _ hname value
  | none =>
    refine hparsed.missing o ho (fun g hg heq => ?_) _ hname value
    exact List.find?_eq_none.1 hfind g hg (decide_eq_true heq)

end Given

/-! ## Merging -/

section Merging

variable {p : ArgParser} {groups : List Group}

/-- The parser finds what the groups give. -/
def Finds (p : ArgParser) (groups : List Group) : Prop :=
  ∀ o ∈ declaredFlags, ∀ value,
    p.get o.name value = ((given groups o).isSome, (given groups o).getD value)

theorem takes_text (text : Option Text) (old : String) :
    Takes (fun text => .ok (String.ofList text)) old text
      (String.ofList (text.getD old.toList)) := by
  cases text with
  | some text => exact .given rfl
  | none =>
    rw [Option.getD_none, String.ofList_toList]
    exact .missing

theorem Finds.numberSetting_iff (h : Finds p groups) {o : Flag} (ho : o ∈ declaredFlags)
    (old new : Int32) :
    numberSetting p o.name old = .ok new ↔ Takes (atoi .overflow) old (given groups o) new := by
  unfold numberSetting
  rw [h o ho]
  cases given groups o with
  | some text =>
    change atoi SettingsFailure.overflow text = .ok new ↔ _
    constructor
    · exact .given
    · rintro ⟨converted⟩
      exact converted
  | none =>
    change Except.ok old = .ok new ↔ _
    constructor
    · intro heq
      exact Except.ok.inj heq ▸ .missing
    · rintro ⟨⟩
      rfl

theorem Finds.takes_realtime (h : Finds p groups) (old : Bool) :
    Takes (fun text => .ok (decide (text = "true".toList))) old (given groups realtimeFlag)
      (realtimeSetting p old) := by
  have hget : p.get "realtime".toList [] = _ := h realtimeFlag (by decide +kernel) []
  unfold realtimeSetting
  rw [hget]
  cases given groups realtimeFlag with
  | some text => exact .given rfl
  | none => exact .missing

/-- The port stays as it is. -/
theorem takes_port_iff {text : Option Text} {old : Int32} :
    Takes (atoi SettingsFailure.overflow) old text old ↔
      ∀ t ∈ text, atoi SettingsFailure.overflow t = .ok old := by
  cases text with
  | some text =>
    constructor
    · rintro ⟨converted⟩ t ht
      exact Option.some.inj ht ▸ converted
    · exact fun h => .given (h text rfl)
  | none => exact iff_of_true .missing nofun

theorem Finds.merged_iff (h : Finds p groups) {base result : ProcessSettings × GameSettings}
    (hrun : settingsFromArguments p base.1 base.2 = .ok (true, result)) :
    Merged groups base result ↔
      ∀ text ∈ given groups portFlag,
        atoi SettingsFailure.overflow text = .ok base.1.portStart := by
  have hexecutable : p.get "executable".toList base.1.processPath.toList = _ :=
    h executableFlag (by decide +kernel) _
  have hmap : p.get "map".toList base.2.mapName.toList = _ := h mapFlag (by decide +kernel) _
  unfold settingsFromArguments at hrun
  rw [hexecutable, hmap] at hrun
  dsimp only at hrun
  split at hrun
  · cases hrun
  · obtain ⟨stepSize, hstepSize, hrun⟩ := bind_eq_ok_iff.1 hrun
    obtain ⟨timeoutMs, htimeoutMs, hrun⟩ := bind_eq_ok_iff.1 hrun
    obtain ⟨-, rfl⟩ := Prod.mk.inj (Except.ok.inj hrun)
    have hstep := (h.numberSetting_iff (o := stepSizeFlag) (by decide +kernel) _ _).1 hstepSize
    have htimeout := (h.numberSetting_iff (o := timeoutFlag) (by decide +kernel) _ _).1 htimeoutMs
    rw [← takes_port_iff]
    refine ⟨fun hmerged => hmerged.portStart, fun hport => ?_⟩
    exact ⟨takes_text _ _, hstep, hport, h.takes_realtime _, takes_text _ _, htimeout,
      ⟨_, _, _, _, _, rfl⟩, ⟨_, rfl⟩⟩

end Merging

theorem parseSettings_merged_iff (w : SettingsWorld) (turns : Nat) (groups : List Group)
    (hgroups : ∀ g ∈ groups, g.option ∈ declaredFlags)
    (hdistinct : (groups.map Group.option).Nodup) (executable : Text)
    (hexecutable : executable.head? ≠ some '-') (processSettings : ProcessSettings)
    (gameSettings : GameSettings) (result : ProcessSettings × GameSettings)
    (hrun : parseSettings w turns (executable :: groups.flatMap Group.tokens) processSettings
      gameSettings = .ok (true, result)) :
    ∃ base, settingsFromFile w turns processSettings gameSettings = .ok base ∧
      (Merged groups base result ↔
        ∀ text ∈ given groups portFlag,
          atoi SettingsFailure.overflow text = .ok base.1.portStart) := by
  obtain ⟨base, hbase, hrun⟩ := bind_eq_ok_iff.1 hrun
  have hfinds : Finds (parseGroups declaredFlags executable groups).2 groups := fun o ho value =>
    get_declared hgroups hdistinct hexecutable ho value
  exact ⟨base, hbase, hfinds.merged_iff hrun⟩

/-- An option with its value. -/
def settingGroup (o : Flag) (full : Bool) (text : Text) (h : text.head? ≠ some '-') : Group where
  option := o
  full := full
  value := some text
  head_ne := fun _ hv => Option.some.inj hv ▸ h

/-- A file that gives a port and other settings. -/
def infoWorld : SettingsWorld where
  userDirectory := "home".toList
  directoryDivider := '/'
  content := fun path =>
    if path = "home/StarCraft II/ExecuteInfo.txt".toList then
      some "executable = SC2_x64\nrealtime = 1\nport = 5000\nmap = A\n".toList
    else none
  fileSystem := ⟨fun _ => false, fun _ => none⟩

/-- The command line gives the same port, and most of the others. -/
def infoGroups : List Group :=
  [settingGroup portFlag false "5000".toList (by decide),
    settingGroup mapFlag true "Ladder".toList (by decide),
    settingGroup executableFlag false "SC2".toList (by decide),
    settingGroup realtimeFlag true "false".toList (by decide),
    settingGroup stepSizeFlag false "4".toList (by decide)]

/-- The step size is new, the time-out is the one there was. -/
theorem parseSettings_merged_iff_executable :
    parseSettings infoWorld 100 ("bot".toList :: infoGroups.flatMap Group.tokens) {} {} =
        .ok (true, { processPath := "SC2", stepSize := 4, portStart := 5000, realtime := false },
          { mapName := "Ladder" }) ∧
      Merged infoGroups
        ({ processPath := "SC2_x64", portStart := 5000, realtime := true }, { mapName := "A" })
        ({ processPath := "SC2", stepSize := 4, portStart := 5000, realtime := false },
          { mapName := "Ladder" }) := by
  have hgroups : ∀ g ∈ infoGroups, g.option ∈ declaredFlags := by decide +kernel
  have hdistinct : (infoGroups.map Group.option).Nodup := by decide +kernel
  have hrun : parseSettings infoWorld 100 ("bot".toList :: infoGroups.flatMap Group.tokens) {} {} =
      .ok (true, { processPath := "SC2", stepSize := 4, portStart := 5000, realtime := false },
        { mapName := "Ladder" }) := by decide +kernel
  have hfile : settingsFromFile infoWorld 100 {} {} = .ok
      ({ processPath := "SC2_x64", portStart := 5000, realtime := true },
        { mapName := "A" }) := by decide +kernel
  obtain ⟨base, hbase, hmerged⟩ := parseSettings_merged_iff infoWorld 100 infoGroups hgroups
    hdistinct "bot".toList (by decide) {} {} _ hrun
  cases hfile.symm.trans hbase
  refine ⟨hrun, hmerged.2 fun text htext => ?_⟩
  have hport : given infoGroups portFlag = some "5000".toList := by decide +kernel
  rw [hport] at htext
  cases htext
  decide +kernel

/-- No file is read. -/
def noFile : SettingsWorld where
  userDirectory := []
  directoryDivider := '/'
  content := fun _ => none
  fileSystem := ⟨fun _ => false, fun _ => none⟩

/-- The executable and a port are given. -/
def portGroups : List Group :=
  [settingGroup executableFlag false "SC2".toList (by decide),
    settingGroup portFlag false "5000".toList (by decide)]

/-- The port of the command line is left where it is. -/
theorem port_ignored :
    parseSettings noFile 0 ("bot".toList :: portGroups.flatMap Group.tokens) {} {} =
      .ok (true, { processPath := "SC2" }, {}) ∧
    settingsFromFile noFile 0 {} {} = .ok ({}, {}) ∧
    ¬Merged portGroups ({}, {}) ({ processPath := "SC2" }, {}) := by
  refine ⟨by decide +kernel, by decide +kernel, fun h => ?_⟩
  have hgiven : given portGroups portFlag = some "5000".toList := by decide +kernel
  have hport := h.portStart
  rw [hgiven] at hport
  obtain ⟨converted⟩ := hport
  exact absurd converted (by decide +kernel)

end Sc2Api
