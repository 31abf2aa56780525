import ReefCards.Icon.Vocabulary
import ReefCards.Text.Numeral

/-!
# Icon tokens

A token refers to an icon of a vocabulary, perhaps several times over, perhaps with a quantity in
front. Tokens are made by `IconToken.of?`, which refuses names outside the vocabulary.
-/

namespace ReefCards

/-- An icon, how often it is shown, and the quantity printed before it. -/
structure IconToken where
  name : Text
  count : Nat := 1
  quantity : Option Nat := none
  deriving DecidableEq, Repr

/-- The name of an icon between brackets. -/
def bracketed (name : Text) : Text := '[' :: name ++ [']']

/-- A bracketed name and what follows it, bracket by bracket. -/
theorem bracketed_append (name rest : Text) :
    bracketed name ++ rest = '[' :: (name ++ ']' :: rest) := by
  simp [bracketed]

namespace IconToken

/-- The token that shows an icon once, if the vocabulary has the icon. -/
def of? (vocabulary : Vocabulary) (name : Text) : Option IconToken :=
  if name ∈ vocabulary then some { name } else none

/-- The token with its icon repeated. -/
def times (token : IconToken) (count : Nat) : IconToken := { token with count }

/-- The token with a quantity before its icon. -/
def withQuantity (token : IconToken) (quantity : Nat) : IconToken :=
  { token with quantity := some quantity }

/-- Writes a text after a quantity, if there is one, and a space. -/
def quantified (quantity : Option Nat) (text : Text) : Text :=
  match quantity with
  | some n => Text.decimal n ++ ' ' :: text
  | none => text

/-- The token as ability markup. -/
def toMarkup (token : IconToken) : Text :=
  quantified token.quantity (List.replicate token.count (bracketed token.name)).flatten

end IconToken
end ReefCards
