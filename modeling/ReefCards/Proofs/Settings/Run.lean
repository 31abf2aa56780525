import Mathlib.Data.List.Induction
import ReefCards.Proofs.Except
import ReefCards.Proofs.Settings.File
import ReefCards.Settings.Command

/-!
# Runs of commands on the settings

Any sequence of commands, from a directory without a settings file. Main statements:
`set_eq_ok_iff`, what a change does, `run_cases`, all that a command can do to a file that can be
read, `Kept.perform` and `load_file_run`. Throughout
a run the file holds the default settings with the changes made so far, and there is none before the
first change. What a command writes is read by the next one, so the settings have to stay such that
they are read back: their line width keeps to its limit.
-/

namespace ReefCards
namespace Settings

variable {settings changed : Settings} {key value : Text}

/-- Settings as a user can make them: there are fields to search, and the line width is positive and
keeps to its limit. -/
structure Sound (settings : Settings) : Prop where
  fields_ne_nil : settings.fields ≠ []
  lineWidth_pos : 1 ≤ settings.lineWidth
  lineWidth_lt : settings.lineWidth < widthLimit

/-- The default settings are sound. -/
theorem sound_default : ({} : Settings).Sound := ⟨by decide, by decide, by decide⟩

/-- The fields that a user lists are at least one. -/
theorem readFields_ne_nil {fields : List Field} (h : readFields value = .ok fields) :
    fields ≠ [] := by
  obtain ⟨listed, -, hlisted⟩ := bind_eq_ok_iff.1 h
  cases listed with
  | nil => cases hlisted
  | cons field rest =>
    cases hlisted
    exact List.cons_ne_nil field rest

/-- The line width that a user gives is positive and keeps to its limit. -/
theorem readWidth_bounds {width : Nat} (h : readWidth value = .ok width) :
    1 ≤ width ∧ width < widthLimit := by
  rw [readWidth] at h
  cases hnumber : Text.natural? widthLimit (Text.trim value) with
  | none =>
    rw [hnumber] at h
    cases h
  | some number =>
    have hlimit : number < widthLimit := by
      simpa using (Option.filter_eq_some_iff.1 hnumber).2
    rw [hnumber] at h
    cases number with
    | zero => cases h
    | succ number =>
      cases h
      exact ⟨Nat.le_add_left 1 number, hlimit⟩

/-- What a change does: the setting that its key names takes what is read from its value, and the
others stay. Nothing else is a change. -/
theorem set_eq_ok_iff : settings.set key value = .ok changed ↔
    (key = "cards_path" ∧ changed = { settings with cardsPath := readPath value }) ∨
      (∃ fields, key = "index_fields" ∧ readFields value = .ok fields ∧
        changed = { settings with fields }) ∨
      ∃ lineWidth, key = "line_width" ∧ readWidth value = .ok lineWidth ∧
        changed = { settings with lineWidth } := by
  constructor
  · intro h
    rw [Settings.set] at h
    cases hkey : (Named.exactly? key : Option Setting) with
    | none =>
      rw [hkey] at h
      cases h
    | some setting =>
      obtain rfl := Named.eq_name_of_exactly? hkey
      rw [hkey] at h
      cases setting with
      | cardsPath =>
        cases h
        exact .inl ⟨rfl, rfl⟩
      | fields =>
        obtain ⟨fields, hfields, hchanged⟩ := bind_eq_ok_iff.1 h
        exact .inr (.inl ⟨fields, rfl, hfields, (Except.ok.inj hchanged).symm⟩)
      | lineWidth =>
        obtain ⟨lineWidth, hwidth, hchanged⟩ := bind_eq_ok_iff.1 h
        exact .inr (.inr ⟨lineWidth, rfl, hwidth, (Except.ok.inj hchanged).symm⟩)
  · rintro (⟨rfl, rfl⟩ | ⟨fields, rfl, hfields, rfl⟩ | ⟨lineWidth, rfl, hwidth, rfl⟩)
    · rfl
    · exact bind_eq_ok_iff.2 ⟨fields, hfields, rfl⟩
    · exact bind_eq_ok_iff.2 ⟨lineWidth, hwidth, rfl⟩

/-- A change leaves sound settings sound. -/
theorem Sound.set (h : settings.Sound) (hset : settings.set key value = .ok changed) :
    changed.Sound := by
  obtain ⟨-, rfl⟩ | ⟨fields, -, hfields, rfl⟩ | ⟨lineWidth, -, hwidth, rfl⟩ :=
    set_eq_ok_iff.1 hset
  · exact ⟨h.fields_ne_nil, h.lineWidth_pos, h.lineWidth_lt⟩
  · exact ⟨readFields_ne_nil hfields, h.lineWidth_pos, h.lineWidth_lt⟩
  · obtain ⟨hpos, hlt⟩ := readWidth_bounds hwidth
    exact ⟨h.fields_ne_nil, hpos, hlt⟩

/-- The settings after changes, each of which gives a key its value. -/
def setAll (settings : Settings) (changes : List (Text × Text)) : Except SettingProblem Settings :=
  changes.foldlM (fun settings change => settings.set change.1 change.2) settings

/-- The last change comes after the others. -/
theorem setAll_concat {changes : List (Text × Text)}
    (h : ({} : Settings).setAll changes = .ok settings) (change : Text × Text) :
    ({} : Settings).setAll (changes ++ [change]) = settings.set change.1 change.2 := by
  rw [setAll] at h ⊢
  rw [List.foldlM_append, h]
  exact bind_pure (settings.set change.1 change.2)

end Settings

/-- Whether a report says that something was done. -/
def Report.tellsSuccess (report : Report) : Bool :=
  report.notices.any fun notice => notice.level = .success

namespace SettingsCommand

open Settings

variable {settings : Settings} {file : Option Text}

/-- The key and the value of a change that a command reports as made. -/
def change? (file : Option Text) (command : SettingsCommand) : Option (Text × Text) :=
  match command, (command.run file).1 with
  | .set key value, .ok report => if report.tellsSuccess then some (key, value) else none
  | _, _ => none

/-- A command on a file that can be read carries itself out on the settings in the file and writes
them if they change. -/
theorem run_eq (h : load file = .ok settings) (command : SettingsCommand) :
    command.run file = (.ok (command.apply settings).1,
      ((command.apply settings).2.map print).or file) := by
  rw [run, h]
  cases hchanged : (command.apply settings).2 <;> simp [hchanged]

/-- All that a command can do to settings. If it gives a setting that can be made, it changes the
settings and says so, and otherwise it does neither. -/
theorem apply_cases (settings : Settings) (command : SettingsCommand) :
    (∃ key value changed, command = .set key value ∧ settings.set key value = .ok changed ∧
        (command.apply settings).1.tellsSuccess = true ∧
        (command.apply settings).2 = some changed) ∨
      ((∀ key value changed, command = .set key value → settings.set key value ≠ .ok changed) ∧
        (command.apply settings).1.tellsSuccess = false ∧ (command.apply settings).2 = none) := by
  cases command with
  | showAll => exact .inr ⟨fun _ _ _ => nofun, rfl, rfl⟩
  | showKey key =>
    rw [apply]
    cases settings.get? key <;> exact .inr ⟨fun _ _ _ => nofun, rfl, rfl⟩
  | set key value =>
    rw [apply]
    cases hset : settings.set key value with
    | ok changed => exact .inl ⟨key, value, changed, rfl, hset, rfl, rfl⟩
    | error problem =>
      refine .inr ⟨fun _ _ changed hcommand => ?_, rfl, rfl⟩
      cases hcommand
      rw [hset]
      nofun

/-- All that a command can do to a file that can be read. It succeeds with a report. If it gives a
setting that can be made, it says so and the file holds the changed settings afterwards, and
otherwise it says nothing of the kind and the file is as before. -/
theorem run_cases (h : load file = .ok settings) (command : SettingsCommand) :
    (∃ report, (command.run file).1 = .ok report) ∧
      ((∃ key value changed, command = .set key value ∧ settings.set key value = .ok changed ∧
          command.change? file = some (key, value) ∧
          (command.run file).2 = some changed.print) ∨
        ((∀ key value changed, command = .set key value → settings.set key value ≠ .ok changed) ∧
          command.change? file = none ∧ (command.run file).2 = file)) := by
  have hrun := run_eq h command
  refine ⟨⟨_, congrArg Prod.fst hrun⟩, ?_⟩
  obtain ⟨key, value, changed, rfl, hset, htells, hchanged⟩ | ⟨hfails, htells, hchanged⟩ :=
    apply_cases settings command
  · rw [hchanged] at hrun
    exact .inl ⟨key, value, changed, rfl, hset, by simp [change?, hrun, htells], by rw [hrun]; rfl⟩
  · rw [hchanged] at hrun
    refine .inr ⟨hfails, ?_, by rw [hrun]; rfl⟩
    cases command <;> simp [change?, hrun, htells]

/-- A change is reported as made exactly if the setting can be made. -/
theorem change?_set_iff (h : load file = .ok settings) (key value : Text) :
    change? file (.set key value) = some (key, value) ↔
      ∃ changed, settings.set key value = .ok changed := by
  obtain ⟨-, ⟨_, _, changed, hcommand, hset, hchange, -⟩ | ⟨hfails, hnone, -⟩⟩ :=
    run_cases h (.set key value)
  · cases hcommand
    exact iff_of_true hchange ⟨changed, hset⟩
  · refine iff_of_false (by simp [hnone]) ?_
    rintro ⟨changed, hset⟩
    exact hfails key value changed rfl hset

end SettingsCommand

namespace Settings

/-- What a run of commands has come to: the settings file, and beside it the changes that were
reported as made, the last one at the end. -/
structure History where
  file : Option Text := none
  changes : List (Text × Text) := []

namespace History

variable {history : History} {settings : Settings}

/-- The history after one more command. -/
def perform (history : History) (command : SettingsCommand) : History where
  file := (command.run history.file).2
  changes := history.changes ++ (command.change? history.file).toList

/-- The history of commands that start without a settings file. -/
def run (commands : List SettingsCommand) : History := commands.foldl perform {}

/-- The last command comes after the run so far. -/
theorem run_concat (commands : List SettingsCommand) (command : SettingsCommand) :
    run (commands ++ [command]) = (run commands).perform command := by
  rw [run, List.foldl_append]
  rfl

/-- A history in order: the changes lead from the default settings to sound ones, and the file is
theirs, if there was a change at all. -/
structure Kept (history : History) (settings : Settings) : Prop where
  setAll_eq : ({} : Settings).setAll history.changes = .ok settings
  file_eq : history.file = if history.changes = [] then none else some settings.print
  sound : settings.Sound

/-- The history of no commands is in order. -/
theorem kept_start : ({} : History).Kept {} := ⟨rfl, rfl, sound_default⟩

/-- The file of a history in order, or the lack of one, stands for the settings. -/
theorem Kept.load_eq (h : history.Kept settings) : load history.file = .ok settings := by
  by_cases hchanges : history.changes = []
  · have hdefault := h.setAll_eq
    rw [hchanges] at hdefault
    cases hdefault
    rw [h.file_eq, if_pos hchanges]
    rfl
  · rw [h.file_eq, if_neg hchanges]
    exact load_print h.sound.lineWidth_lt

/-- Each command leaves a history in order. -/
theorem Kept.perform (h : history.Kept settings) (command : SettingsCommand) :
    ∃ later, (history.perform command).Kept later := by
  obtain ⟨-, ⟨key, value, changed, -, hset, hchange, hfile⟩ | ⟨-, hchange, hfile⟩⟩ :=
    command.run_cases h.load_eq
  · have hchanges : (history.perform command).changes = history.changes ++ [(key, value)] := by
      rw [History.perform, hchange]
      rfl
    refine ⟨changed, ⟨?_, ?_, h.sound.set hset⟩⟩
    · rw [hchanges, setAll_concat h.setAll_eq]
      exact hset
    · rw [hchanges, if_neg (List.concat_ne_nil _ _)]
      exact hfile
  · have hsame : history.perform command = history := by
      rw [History.perform, hchange, hfile]
      simp
    exact ⟨settings, by rwa [hsame]⟩

/-- Every run of commands leaves a history in order. -/
theorem exists_kept_run (commands : List SettingsCommand) :
    ∃ settings, (run commands).Kept settings := by
  induction commands using List.reverseRecOn with
  | nil => exact ⟨{}, kept_start⟩
  | append_singleton past command ih =>
    obtain ⟨settings, hkept⟩ := ih
    rw [run_concat]
    exact hkept.perform command

/-- After any commands that start without a settings file, there is a file exactly if a change has
been reported as made. The file, or the lack of one, stands for the default settings with all of
these changes made in their order, where a change gives the setting that its key names what is read
from its value and leaves the others. In these settings there is a field to search and the line
width is positive. The next command, whichever it is, succeeds with a report. It reports a change
exactly if it gives a setting that can be made, and if it reports none then it leaves the file as it
is. What comes before a command is a run of its own, so this holds after each command. -/
theorem load_file_run (commands : List SettingsCommand) :
    let history := run commands
    (history.file = none ↔ history.changes = []) ∧
      (∀ (before changed : Settings) (key value : Text), before.set key value = .ok changed ↔
        (key = "cards_path" ∧ changed = { before with cardsPath := readPath value }) ∨
          (∃ fields, key = "index_fields" ∧ readFields value = .ok fields ∧
            changed = { before with fields }) ∨
          ∃ lineWidth, key = "line_width" ∧ readWidth value = .ok lineWidth ∧
            changed = { before with lineWidth }) ∧
      ∃ settings : Settings, ({} : Settings).setAll history.changes = .ok settings ∧
        load history.file = .ok settings ∧ settings.fields ≠ [] ∧ 1 ≤ settings.lineWidth ∧
        (∀ key value, SettingsCommand.change? history.file (.set key value) = some (key, value) ↔
          ∃ changed, settings.set key value = .ok changed) ∧
        ∀ command : SettingsCommand, (∃ report, (command.run history.file).1 = .ok report) ∧
          (command.change? history.file = none → (command.run history.file).2 = history.file) := by
  intro history
  obtain ⟨settings, hkept⟩ : ∃ settings, history.Kept settings := exists_kept_run commands
  have hload := hkept.load_eq
  refine ⟨?_, fun _ _ _ _ => set_eq_ok_iff, settings, hkept.setAll_eq, hload,
    hkept.sound.fields_ne_nil, hkept.sound.lineWidth_pos, SettingsCommand.change?_set_iff hload,
    fun command => ?_⟩
  · rw [hkept.file_eq]
    by_cases hchanges : history.changes = [] <;> simp [hchanges]
  · obtain ⟨hreport, ⟨key, value, changed, -, -, hchange, -⟩ | ⟨-, -, hfile⟩⟩ :=
      command.run_cases hload
    · exact ⟨hreport, fun hnone => absurd (hchange.symm.trans hnone) nofun⟩
    · exact ⟨hreport, fun _ => hfile⟩

end History
end Settings
end ReefCards
