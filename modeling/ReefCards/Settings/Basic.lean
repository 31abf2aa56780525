import ReefCards.Failure
import ReefCards.Search.Field

/-!
# Settings

What a user can choose once for all: which data set to read, which fields a text search covers and
how wide lists are. `Settings.shown` gives a setting as text, and `Settings.set` reads one from
text and either changes that setting or says what is wrong.
-/

namespace ReefCards

/-- The settings, by default those without a file. -/
structure Settings where
  /-- The file of the data set, if it is not the published one. -/
  cardsPath : Option Text := none
  fields : List Field := Field.standard
  lineWidth : Nat := 100
  deriving DecidableEq, Repr

/-- Line widths stay below this. -/
def widthLimit : Nat := UInt64.size

namespace Settings

/-- A setting as it is shown. -/
def shown (settings : Settings) : Setting → Text
  | .cardsPath => settings.cardsPath.getD "(embedded)"
  | .fields => Text.join "," (settings.fields.map Named.name)
  | .lineWidth => Text.decimal settings.lineWidth

/-- The setting with this name as it is shown. -/
def get? (settings : Settings) (key : Text) : Option Text :=
  (Named.exactly? key).map settings.shown

/-- The data set that a user names: a path, or nothing for the published cards. -/
def readPath (value : Text) : Option Text :=
  let path := Text.trim value
  if path = [] ∨ path = "embedded" then none else some path

/-- The fields that a user lists with commas between them. -/
def readFields (value : Text) : Except SettingProblem (List Field) := do
  let names := ((value.splitOnP (· = ',')).map Text.trim).filter fun name => !name.isEmpty
  let fields ← names.mapM fun name => (Field.written name).mapError SettingProblem.unknownField
  if fields.isEmpty then throw .noFields else pure fields

/-- The line width that a user gives. -/
def readWidth (value : Text) : Except SettingProblem Nat :=
  match Text.natural? widthLimit (Text.trim value) with
  | none => .error (.widthNoNumber value)
  | some 0 => .error .widthZero
  | some width => .ok width

/-- The settings with the one of this name changed. -/
def set (settings : Settings) (key value : Text) : Except SettingProblem Settings :=
  match (Named.exactly? key : Option Setting) with
  | some .cardsPath => .ok { settings with cardsPath := readPath value }
  | some .fields => do pure { settings with fields := ← readFields value }
  | some .lineWidth => do pure { settings with lineWidth := ← readWidth value }
  | none => .error (.unknownKey key)

end Settings
end ReefCards
