import ReefCards.Text.Blank

/-!
# Named choices

A choice between a few values that have names. A user may write a name in letters of either case and
with blanks around it, while a document gives it exactly.
-/

namespace ReefCards

/-- A type of a few values, each with a name. -/
class Named (α : Type) where
  /-- The values in their order. -/
  all : List α
  /-- The name of a value. -/
  name : α → Text
  /-- What the values are, for complaints about a name. -/
  kind : Text

namespace Named

/-- The value with exactly this name. -/
def exactly? {α : Type} [Named α] (text : Text) : Option α :=
  (all : List α).find? fun value => name value = text

/-- The value whose name the user wrote. -/
def written? {α : Type} [Named α] (text : Text) : Option α :=
  (all : List α).find? fun value =>
    Text.asciiLower (name value) = Text.asciiLower (Text.trim text)

/-- The complaint about a text that is no name. -/
def unknown (α : Type) [Named α] (text : Text) : Text :=
  "Unknown ".toList ++ kind α ++ ": ".toList ++ text

end Named
end ReefCards
