import ReefCards.Terminal.Program

/-!
# The command line

Reading the settings file, the data set it names and the input, and printing what the program
answers. The directory of the settings file is the one in the variable `REEFDEX_HOME`, or else the
current one. The output is coloured on a terminal, unless the environment asks for one or the other,
and its lists are as wide as the terminal where the environment gives the width of one.
-/

namespace ReefCards

/-- The content of a file, if it can be read. -/
def fileContent? (path : String) : IO (Option Text) := do
  try
    pure (some (← IO.FS.readFile path).toList)
  catch _ =>
    pure none

/-- All of the standard input. -/
partial def allInput (input : IO.FS.Stream) : IO Text := do
  let line ← input.getLine
  if line.isEmpty then pure [] else pure (line.toList ++ (← allInput input))

/-- Whether a run waits for input. -/
def readsInput (arguments : List Text) : Bool :=
  Request.ofArguments? arguments = some (.run (.cards .browse))

/-- Whether a variable of the environment is set to anything but `0`, if it is set at all. -/
def switch? (name : String) : IO (Option Bool) := do
  pure ((← IO.getEnv name).map (· ≠ "0"))

/-- Whether the output is coloured: forced by `CLICOLOR_FORCE`, prevented by `NO_COLOR`, and
otherwise on a terminal where `CLICOLOR` does not turn it off. -/
def showsColours : IO Bool := do
  let forced ← switch? "CLICOLOR_FORCE"
  let prevented ← switch? "NO_COLOR"
  let wanted ← switch? "CLICOLOR"
  let terminal ← (← IO.getStdout).isTty
  pure (forced = some true || (prevented.isNone && wanted.getD true && terminal))

/-- The columns of the terminal that the output goes to, as the variable `COLUMNS` has them. -/
def terminalWidth? : IO (Option Nat) := do
  if ← (← IO.getStdout).isTty then
    pure (((← IO.getEnv "COLUMNS").bind String.toNat?).filter (0 < ·))
  else
    pure none

end ReefCards

open ReefCards in
/-- Runs the program. -/
def main (arguments : List String) : IO UInt32 := do
  let home := (← IO.getEnv "REEFDEX_HOME").getD "."
  let settingsPath := home ++ "/config.json"
  let arguments := arguments.map String.toList
  let settingsFile ← fileContent? settingsPath
  let dataPath := (Settings.load settingsFile).toOption.bind Settings.cardsPath
  let dataSet ← match dataPath with
    | some path => fileContent? (String.ofList path)
    | none => pure none
  let input ← if readsInput arguments then allInput (← IO.getStdin) else pure []
  let outcome := Program.run {
    arguments, input, settingsFile
    interactive := ← (← IO.getStdin).isTty
    colours := ← showsColours
    terminalWidth := ← terminalWidth?
    read? := fun path => if dataPath = some path then dataSet else none }
  IO.print (String.ofList outcome.output)
  IO.eprint (String.ofList outcome.complaints)
  match outcome.settingsFile with
  | some text =>
    if settingsFile ≠ some text then
      IO.FS.createDirAll home
      IO.FS.writeFile settingsPath (String.ofList text)
  | none => pure ()
  pure outcome.exitCode.toUInt32
