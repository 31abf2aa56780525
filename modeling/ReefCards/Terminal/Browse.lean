import ReefCards.Encyclopedia
import ReefCards.Terminal.Layout

/-!
# Browsing

A search session driven by lines of input. A line that begins with a colon is a command, and every
other line is the new content of the search box. After each action the search and its results are
shown; a line that is no action is complained about and changes nothing. A user at a terminal is
told about the commands first and asked for each line.
-/

namespace ReefCards

/-- What is wrong with a line of input. -/
inductive LineProblem where
  | unknownCommand (command : Text)
  | unknownName (message : Text)
  | noSwitch (word : Text)
  deriving DecidableEq, Repr

/-- What is said about a line of input. -/
def LineProblem.message : LineProblem → Text
  | .unknownCommand command => "Unknown command: :".toList ++ command
  | .unknownName message => message
  | .noSwitch word => "Expected on or off, got ".toList ++ word

/-- What a line of input asks for. -/
inductive LineRequest where
  | quit
  | act (action : Action)
  deriving DecidableEq, Repr

namespace LineRequest

/-- The position of a switch. -/
def readSwitch (word : Text) : Except LineProblem Bool :=
  if word = "on" then .ok true
  else if word = "off" then .ok false
  else .error (.noSwitch word)

/-- The value of a facet with a name. -/
def readName (α : Type) [Named α] (word : Text) : Except LineProblem α :=
  match Named.written? word with
  | some value => .ok value
  | none => .error (.unknownName (Named.unknown α word))

/-- What a command after its colon asks for. -/
def ofCommand (command : Text) : Except LineProblem LineRequest :=
  match Text.words command with
  | [verb] =>
    if verb = "quit" ∨ verb = "q" then .ok .quit
    else if verb = "back" then .ok (.act .backspace)
    else if verb = "clear" then .ok (.act .clear)
    else if verb = "reset" then .ok (.act .reset)
    else .error (.unknownCommand command)
  | [verb, name] =>
    if verb = "icon" then .ok (.act (.insertIcon name)) else .error (.unknownCommand command)
  | [verb, name, switch] =>
    if verb = "group" then do
      pure (.act (.setGroup name (← readSwitch switch)))
    else if verb = "size" then do
      let size ← readName Size name
      pure (.act (.setSize size (← readSwitch switch)))
    else if verb = "zone" then do
      let zone ← readName Zone name
      pure (.act (.setZone zone (← readSwitch switch)))
    else if verb = "tag" then do
      let mark ← readName Trait name
      pure (.act (.setTag mark (← readSwitch switch)))
    else .error (.unknownCommand command)
  | _ => .error (.unknownCommand command)

/-- What a line asks for. -/
def ofLine (line : Text) : Except LineProblem LineRequest :=
  match line with
  | ':' :: command => ofCommand command
  | _ => .ok (.act (.type line))

end LineRequest

/-- The lines of an input, without their line ends. A last line need not have one. -/
def inputLines (input : Text) : List Text :=
  let parts := input.splitOnP (· = '\n')
  let ended := parts.dropLast.map fun part =>
    if part.getLast? = some '\r' then part.dropLast else part
  ended ++ (parts.getLast?.filter fun last => !last.isEmpty).toList

namespace Browse

/-- What a user at a terminal is told before the first line. -/
def greeting (interactive : Bool) : Text :=
  if interactive then
    Layout.line ("Type to search. Commands: :icon NAME, :back, :clear, ".toList ++
      ":group|:size|:zone|:tag NAME on|off, :reset, :quit".toList)
  else []

/-- What a user at a terminal is asked for a line with. -/
def prompt (interactive : Bool) : Text := if interactive then "> " else []

/-- What is shown after an action. -/
def screen (colours : Bool) (width : Nat) (book : Encyclopedia) (session : Session) : Text :=
  let found := book.catalog.cardsFor session.results
  Layout.line ("search: ".toList ++ Piece.renderAll book.vocabulary session.box.pieces) ++
    Layout.cards colours width found ++
    Layout.line (Text.decimal found.length ++ " cards".toList)

/-- What a session over lines of input prints, and what it complains about. A line is asked for
also where there is none left. -/
def loop (colours interactive : Bool) (width : Nat) (book : Encyclopedia) (session : Session) :
    List Text → Text × Text
  | [] => (prompt interactive, [])
  | line :: rest =>
    match LineRequest.ofLine line with
    | .ok .quit => (prompt interactive, [])
    | .ok (.act action) =>
      let session := session.apply book.catalog action
      let (output, complaints) := loop colours interactive width book session rest
      (prompt interactive ++ screen colours width book session ++ output, complaints)
    | .error problem =>
      let (output, complaints) := loop colours interactive width book session rest
      (prompt interactive ++ output, Layout.line problem.message ++ complaints)

/-- What browsing prints, and what it complains about. The input is `interactive` if it comes from a
terminal. -/
def run (colours interactive : Bool) (width : Nat) (book : Encyclopedia) (lines : List Text) :
    Text × Text :=
  let (output, complaints) := loop colours interactive width book book.session lines
  (greeting interactive ++ output, complaints)

end Browse
end ReefCards
