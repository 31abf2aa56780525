import ReefCards.Terminal.Arguments
import ReefCards.Terminal.Browse

/-!
# The program

What a run of the program prints and leaves behind, as a function of its arguments, its input, the
terminal that it may have and the files that it reads. Settings are read before anything else, and
only commands on the settings do without the cards.
-/

namespace ReefCards

/-- What a run starts from. -/
structure Invocation where
  arguments : List Text
  input : Text := []
  /-- Whether the input comes from a terminal. -/
  interactive : Bool := false
  colours : Bool := false
  /-- The columns of the terminal that the output goes to, if they are known. -/
  terminalWidth : Option Nat := none
  /-- The content of the settings file, if there is one. -/
  settingsFile : Option Text := none
  /-- The content of the file that a path leads to. -/
  read? : Text → Option Text := fun _ => none

/-- What a run ends with. -/
structure Outcome where
  exitCode : Nat := 0
  output : Text := []
  complaints : Text := []
  settingsFile : Option Text := none
  deriving DecidableEq, Repr

namespace Program

/-- The name and version of the program. -/
def version : Text := "reefdex 0.3.0"

/-- What is said when the arguments are refused. -/
def usage : Text := "Usage: reefdex [OPTIONS] [COMMAND]"

/-- What a command on the cards prints, and what it complains about. -/
def answer (invocation : Invocation) (width : Nat) (book : Encyclopedia) :
    CardCommand → Except Failure (Text × Text)
  | .list flags => .ok (shown (book.search (flags.toQuery none)), [])
  | .search text flags => .ok (shown (book.search (flags.toQuery text)), [])
  | .view ids => do
    let report ← book.view ids
    pure (Layout.fullCards colours book.vocabulary report.cards ++
      Layout.notices colours report.notices, [])
  | .browse =>
    .ok (Browse.run colours invocation.interactive width book (inputLines invocation.input))
  | .stats text flags =>
    let report := book.stats (flags.toQuery text)
    .ok ((report.tally.map (Layout.tally colours)).getD [] ++
      Layout.notices colours report.notices, [])
  | .parse text => .ok (Layout.segments colours (book.parse text).segments, [])
  | .sanitize text =>
    let report := book.sanitize text
    .ok ((report.text.map Layout.line).getD [],
      report.notices.flatMap fun notice => Layout.line notice.content)
  | .icons => .ok (Layout.icons book.vocabulary book.icons.icons, [])
where
  /-- Whether the output is coloured. -/
  colours : Bool := invocation.colours
  /-- The cards of a report and its notices. -/
  shown (report : Report) : Text :=
    Layout.cards colours width report.cards ++ Layout.notices colours report.notices

/-- The columns that a list may take: those of the terminal, or else as many as the settings say. -/
def listWidth (invocation : Invocation) (settings : Settings) : Nat :=
  invocation.terminalWidth.getD settings.lineWidth

/-- What a report on the settings prints. -/
def settingsAnswer (colours : Bool) (report : Report) : Text :=
  (if report.notices.isEmpty then (report.settings.map Layout.settings).getD [] else []) ++
    Layout.notices colours report.notices

/-- The outcome of a failure. -/
def failed (failure : Failure) (settingsFile : Option Text) : Outcome where
  exitCode := 1
  complaints := Layout.line ("Error: ".toList ++ failure.message)
  settingsFile := settingsFile

/-- The outcome of a command. -/
def perform (invocation : Invocation) (command : Command) : Outcome :=
  let file := invocation.settingsFile
  match Settings.load file with
  | .error failure => failed failure file
  | .ok settings =>
    match command with
    | .settings command =>
      match command.run file with
      | (.ok report, file) =>
        { output := settingsAnswer invocation.colours report, settingsFile := file }
      | (.error failure, file) => failed failure file
    | .cards command =>
      match Encyclopedia.load invocation.read? settings with
      | .error failure => failed failure file
      | .ok book =>
        match answer invocation (listWidth invocation settings) book command with
        | .ok (output, complaints) => { output, complaints, settingsFile := file }
        | .error failure => failed failure file

/-- The outcome of a run. -/
def run (invocation : Invocation) : Outcome :=
  match Request.ofArguments? invocation.arguments with
  | none =>
    { exitCode := 2, complaints := Layout.line usage, settingsFile := invocation.settingsFile }
  | some .version =>
    { output := Layout.line version, settingsFile := invocation.settingsFile }
  | some (.run command) => perform invocation command

end Program
end ReefCards
