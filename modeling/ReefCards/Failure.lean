import ReefCards.Search.Field
import ReefCards.Text.Numeral

/-!
# Failures

Why an operation does not succeed, as causes. The wording for the user is in `message` alone.
-/

namespace ReefCards

/-- The settings that have a name. -/
inductive Setting where
  | cardsPath
  | fields
  | lineWidth
  deriving DecidableEq, Repr

/-- The settings by name. -/
instance : Named Setting where
  kind := "config key"
  all := [.cardsPath, .fields, .lineWidth]
  name
    | .cardsPath => "cards_path"
    | .fields => "index_fields"
    | .lineWidth => "line_width"

/-- What is wrong with a setting that a user gives. -/
inductive SettingProblem where
  | unknownKey (key : Text)
  | unknownField (name : Text)
  | noFields
  | widthNoNumber (value : Text)
  | widthZero
  deriving DecidableEq, Repr

/-- Why an operation fails. -/
inductive Failure where
  /-- No card has this number. -/
  | cardNotFound (id : CardId)
  /-- Two cards of a data set have this number. -/
  | duplicateCard (id : CardId)
  /-- A setting cannot be made. -/
  | setting (problem : SettingProblem)
  /-- The text is no card number. -/
  | invalidCardId (text : Text)
  /-- A document is not JSON or not of the expected form. -/
  | serialization
  /-- A file cannot be read. -/
  | storage
  deriving DecidableEq, Repr

/-- What is said about a setting. -/
def SettingProblem.message : SettingProblem → Text
  | .unknownKey key => Named.unknown Setting key
  | .unknownField name => Named.unknown Field name
  | .noFields => "index_fields needs at least one field"
  | .widthNoNumber value => "line_width must be a number, got ".toList ++ value
  | .widthZero => "line_width must be positive"

/-- What is said about a failure. -/
def Failure.message : Failure → Text
  | .cardNotFound id => "Card not found: ".toList ++ Text.decimal id
  | .duplicateCard id => "Duplicate card id in corpus: ".toList ++ Text.decimal id
  | .setting problem => "Config error: ".toList ++ problem.message
  | .invalidCardId text => "Api Error: Invalid card id: ".toList ++ text
  | .serialization => "Serialization error: malformed document"
  | .storage => "IO error: unreadable file"

end ReefCards
