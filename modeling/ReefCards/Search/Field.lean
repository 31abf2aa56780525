import ReefCards.Card.Basic
import ReefCards.Text.Lowercase

/-!
# Index fields

The parts of a card that a text search can cover. A user may write the name of a field in letters of
either case and with blanks around it.
-/

namespace ReefCards

/-- A part of a card that is searched. -/
inductive Field where
  | name
  | latin
  | ability
  | description
  deriving DecidableEq, Repr

/-- The fields by name. -/
instance : Named Field where
  kind := "index field"
  all := [.name, .latin, .ability, .description]
  name
    | .name => "name"
    | .latin => "latin"
    | .ability => "ability"
    | .description => "description"

namespace Field

/-- The fields that are searched unless others are chosen. -/
def standard : List Field := [.name, .latin, .ability]

/-- The text of a card in a field. -/
def read (card : Card) : Field → Text
  | .name => card.name
  | .latin => card.latin
  | .ability => card.ability
  | .description => card.description

/-- The field whose name the user wrote, or else the name as it was looked for. -/
def written (text : Text) : Except Text Field :=
  let lowered := Text.lowercase (Text.trim text)
  match Named.exactly? lowered with
  | some field => .ok field
  | none => .error lowered

end Field
end ReefCards
