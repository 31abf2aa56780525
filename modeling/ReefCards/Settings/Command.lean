import ReefCards.Report
import ReefCards.Settings.File

/-!
# Commands on the settings

Showing and changing settings. Every command starts from the settings file and leaves one behind; a
setting that cannot be made is reported and leaves the file as it was.
-/

namespace ReefCards

/-- What a user wants to know or change about the settings. -/
inductive SettingsCommand where
  | showAll
  | showKey (key : Text)
  | set (key value : Text)
  deriving DecidableEq, Repr

namespace SettingsCommand

/-- Carries out a command on some settings. The second part is the new settings, if they change. -/
def apply (settings : Settings) : SettingsCommand → Report × Option Settings
  | .showAll => ({ settings := some settings }, none)
  | .showKey key =>
    match settings.get? key with
    | some value => ({ notices := [⟨.info, value⟩] }, none)
    | none => ({ notices := [⟨.error, (SettingProblem.unknownKey key).message⟩] }, none)
  | .set key value =>
    match settings.set key value with
    | .ok changed =>
      let shown := (changed.get? key).getD value
      ({ settings := some changed
         notices := [⟨.success, key ++ " set to ".toList ++ shown⟩] }, some changed)
    | .error problem => ({ notices := [⟨.error, (Failure.setting problem).message⟩] }, none)

/-- Carries out a command on a settings file: the report, and the file afterwards. -/
def run (file : Option Text) (command : SettingsCommand) : Except Failure Report × Option Text :=
  match Settings.load file with
  | .error failure => (.error failure, file)
  | .ok settings =>
    let (report, changed) := command.apply settings
    (.ok report, match changed with
      | some settings => some settings.print
      | none => file)

end SettingsCommand
end ReefCards
