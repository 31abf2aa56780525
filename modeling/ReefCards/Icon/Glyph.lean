import ReefCards.Icon.Token

/-!
# Glyphs

What is shown in place of an icon. Points are shown as waves and every other icon of the vocabulary
by its name between angle marks; a name outside the vocabulary stays visible as such. Main
statements: `display_of_mem` and `display_of_not_mem`.
-/

namespace ReefCards

namespace Vocabulary

variable {vocabulary : Vocabulary} {name : Text}

/-- The glyph of an icon of the vocabulary. -/
def glyph? (vocabulary : Vocabulary) (name : Text) : Option Text :=
  if name ∈ vocabulary then
    some (if name = wave then ['≋'] else '‹' :: name ++ ['›'])
  else none

/-- What is shown for any icon name. -/
def display (vocabulary : Vocabulary) (name : Text) : Text :=
  (vocabulary.glyph? name).getD ('[' :: '?' :: name ++ [']'])

/-- A name of the vocabulary is shown as its glyph: a wave for points, and otherwise the name
between angle marks. -/
theorem display_of_mem (h : name ∈ vocabulary) : vocabulary.display name =
    if name = wave then "≋".toList else "‹".toList ++ name ++ "›".toList := by
  rw [display, glyph?, if_pos h]
  rfl

/-- A name outside the vocabulary is shown in brackets, after a question mark. -/
theorem display_of_not_mem (h : name ∉ vocabulary) :
    vocabulary.display name = "[?".toList ++ name ++ "]".toList := by
  rw [display, glyph?, if_neg h]
  rfl

end Vocabulary

namespace IconToken

/-- What is shown for a token. -/
def render (vocabulary : Vocabulary) (token : IconToken) : Text :=
  quantified token.quantity (List.replicate token.count (vocabulary.display token.name)).flatten

/-- What is shown for a list of tokens, with spaces between them. -/
def renderAll (vocabulary : Vocabulary) (tokens : List IconToken) : Text :=
  Text.join " " (tokens.map (render vocabulary))

end IconToken
end ReefCards
