import ReefCards.Search.Query
import ReefCards.Settings.Command

/-!
# Command-line arguments

What the words after the program's name ask for. The flag for more messages may stand before and
after the name of a command, each time once. Facet flags take a value, as the next word or after an
equals sign, and repeat. After two dashes every word is an argument. Anything else is refused.
-/

namespace ReefCards

/-- What the facet flags ask for. -/
structure FacetFlags where
  hiddenGroups : List Text := []
  hiddenSizes : List Size := []
  forbiddenZones : List Zone := []
  requiredTraits : List Trait := []
  deriving DecidableEq, Repr

namespace FacetFlags

/-- The query of a text under facet flags. -/
def toQuery (flags : FacetFlags) (text : Option Text) : Query :=
  let query : Query := Query.withText {} (text.getD [])
  let query := flags.hiddenGroups.foldl (fun query group => query.withGroup group false) query
  let query := flags.hiddenSizes.foldl (fun query size => query.withSize size false) query
  let query := flags.forbiddenZones.foldl (fun query zone => query.withZone zone false) query
  flags.requiredTraits.foldl (fun query mark => query.withTag mark true) query

/-- The flags with one more, given by its name and its value; a value that is no name of the facet
is refused. -/
def add? (flags : FacetFlags) (name value : Text) : Option FacetFlags :=
  if name = "exclude-group" then
    some { flags with hiddenGroups := flags.hiddenGroups ++ [value] }
  else if name = "exclude-size" then
    (Named.written? value).map fun size =>
      { flags with hiddenSizes := flags.hiddenSizes ++ [size] }
  else if name = "forbid-zone" then
    (Named.written? value).map fun zone =>
      { flags with forbiddenZones := flags.forbiddenZones ++ [zone] }
  else if name = "require" then
    (Named.written? value).map fun mark =>
      { flags with requiredTraits := flags.requiredTraits ++ [mark] }
  else none

end FacetFlags

/-- A command on the cards. -/
inductive CardCommand where
  | list (flags : FacetFlags)
  | search (text : Option Text) (flags : FacetFlags)
  | view (ids : List Text)
  | browse
  | stats (text : Option Text) (flags : FacetFlags)
  | parse (text : Text)
  | sanitize (text : Text)
  | icons
  deriving DecidableEq, Repr

/-- A command of the program. -/
inductive Command where
  | cards (command : CardCommand)
  | settings (command : SettingsCommand)
  deriving DecidableEq, Repr

/-- What the arguments ask for. -/
inductive Request where
  | version
  | run (command : Command)
  deriving DecidableEq, Repr

/-- How a word of the arguments reads. -/
inductive ArgumentWord where
  /-- A word without dashes before it, or a single dash. -/
  | plain (text : Text)
  /-- The two dashes after which every word is plain. -/
  | separator
  /-- Letters after a dash. -/
  | letters (letters : Text)
  /-- A name after two dashes, and the value after an equals sign. -/
  | long (name : Text) (value : Option Text)
  deriving DecidableEq, Repr

/-- Reads a word of the arguments. -/
def ArgumentWord.ofText (word : Text) : ArgumentWord :=
  match word with
  | ['-', '-'] => .separator
  | '-' :: '-' :: text =>
    match text.dropWhile (· ≠ '=') with
    | _ :: value => .long (text.takeWhile (· ≠ '=')) (some value)
    | [] => .long text none
  | ['-'] => .plain word
  | '-' :: text => .letters text
  | _ => .plain word

/-- What the words after the name of a command say. -/
structure CommandWords where
  verbose : Bool := false
  flags : FacetFlags := {}
  arguments : List Text := []
  deriving DecidableEq, Repr

namespace CommandWords

/-- Notes the flag for more messages, which stands at most once. -/
def verbose? (words : CommandWords) : Option CommandWords :=
  if words.verbose then none else some { words with verbose := true }

/-- Notes each letter of a word of letters. -/
def letters? (words : CommandWords) (letters : Text) : Option CommandWords :=
  letters.foldlM (fun words letter => if letter = 'v' then words.verbose? else none) words

/-- Notes a facet flag, if the command takes them. -/
def flag? (words : CommandWords) (takesFlags : Bool) (name value : Text) : Option CommandWords :=
  if takesFlags then (words.flags.add? name value).map fun flags => { words with flags } else none

/-- Whether the word may be the value of the flag before it. -/
def isValue (word : Text) : Bool :=
  match ArgumentWord.ofText word with
  | .plain _ => true
  | _ => false

/-- Reads the words after the name of a command. -/
def read? (takesFlags : Bool) (words : CommandWords) : List Text → Option CommandWords
  | [] => some words
  | word :: rest =>
    match ArgumentWord.ofText word with
    | .separator => some { words with arguments := words.arguments ++ rest }
    | .plain text => read? takesFlags { words with arguments := words.arguments ++ [text] } rest
    | .letters letters => (words.letters? letters).bind fun words => read? takesFlags words rest
    | .long name (some value) =>
      (words.flag? takesFlags name value).bind fun words => read? takesFlags words rest
    | .long name none =>
      if name = "verbose" then words.verbose?.bind fun words => read? takesFlags words rest
      else
        match rest with
        | value :: rest =>
          if isValue value then
            (words.flag? takesFlags name value).bind fun words => read? takesFlags words rest
          else none
        | [] => none

end CommandWords

namespace Command

/-- The command with this name, from the words after it. -/
def ofWords? (name : Text) (words : List Text) : Option Command := do
  if name = "list" ∨ name = "ls" then
    let words ← CommandWords.read? true {} words
    match words.arguments with
    | [] => some (.cards (.list words.flags))
    | _ => none
  else if name = "search" ∨ name = "s" then
    let words ← CommandWords.read? true {} words
    match words.arguments with
    | [] => some (.cards (.search none words.flags))
    | [text] => some (.cards (.search (some text) words.flags))
    | _ => none
  else if name = "stats" then
    let words ← CommandWords.read? true {} words
    match words.arguments with
    | [] => some (.cards (.stats none words.flags))
    | [text] => some (.cards (.stats (some text) words.flags))
    | _ => none
  else
    let words ← CommandWords.read? false {} words
    if name = "view" ∨ name = "v" then
      if words.arguments.isEmpty then none else some (.cards (.view words.arguments))
    else
      match words.arguments with
      | [] =>
        if name = "browse" then some (.cards .browse)
        else if name = "icons" then some (.cards .icons)
        else if name = "config" then some (.settings .showAll)
        else none
      | [text] =>
        if name = "parse" then some (.cards (.parse text))
        else if name = "sanitize" then some (.cards (.sanitize text))
        else if name = "config" then some (.settings (.showKey text))
        else none
      | [key, value] => if name = "config" then some (.settings (.set key value)) else none
      | _ => none

end Command

namespace Request

/-- The letters of a word before the name of a command: the flag for more messages, and the one for
the version, which counts as soon as it is reached. The result is a request or whether the first
flag has been given. -/
def letters? (verbose : Bool) : Text → Option (Request ⊕ Bool)
  | [] => some (.inr verbose)
  | letter :: rest =>
    if letter = 'V' then some (.inl .version)
    else if letter = 'v' ∧ ¬verbose then letters? true rest
    else none

/-- What the arguments ask for when the flag for more messages has been given or not. -/
def read? (verbose : Bool) : List Text → Option Request
  | [] => some (.run (.cards (.list {})))
  | word :: rest =>
    match ArgumentWord.ofText word with
    | .plain name => (Command.ofWords? name rest).map .run
    | .separator => if rest.isEmpty then some (.run (.cards (.list {}))) else none
    | .letters letters =>
      match letters? verbose letters with
      | some (.inl request) => some request
      | some (.inr verbose) => read? verbose rest
      | none => none
    | .long name value =>
      if value.isSome then none
      else if name = "version" then some .version
      else if name = "verbose" ∧ ¬verbose then read? true rest
      else none

/-- What the arguments ask for, or nothing when they are refused. -/
def ofArguments? (arguments : List Text) : Option Request := read? false arguments

end Request
end ReefCards
