import ReefCards.SearchBox.Piece

/-!
# The search box

The text that a user edits, and where the cursor stands in it. Every new content loses its unknown
tokens, and a backspace right after a token takes the whole token. Main statement:
`cursor_le_length_of_backspace`, a backspace leaves the cursor within the text.
-/

namespace ReefCards

/-- The text with a token for the name at its end. -/
def insertToken (text name : Text) : Text := text ++ bracketed name

/-- The text before the complete token that the text ends in, if it does. Within such a token no
bracket of either kind stands. -/
def beforeTrailingToken? (text : Text) : Option Text :=
  match text.reverse with
  | ']' :: rest =>
    let isInner (c : Char) : Bool := c != '[' && c != ']'
    match rest.takeWhile isInner, rest.dropWhile isInner with
    | _ :: _, '[' :: before => some before.reverse
    | _, _ => none
  | _ => none

/-- Deletes backward from the cursor: the token that ends there, or else one character. Gives the
text and the cursor afterwards. -/
def backspace (text : Text) (cursor : Nat) : Text × Nat :=
  let before := text.take cursor
  let kept := (beforeTrailingToken? before).getD before.dropLast
  (kept ++ text.drop cursor, kept.length)

/-- After a backspace the cursor stands within the text. -/
theorem cursor_le_length_of_backspace (text : Text) (cursor : Nat) :
    (backspace text cursor).2 ≤ (backspace text cursor).1.length := by
  simp [backspace]

/-- A search box with its vocabulary. -/
structure SearchBox where
  vocabulary : Vocabulary
  text : Text := []
  cursor : Nat := 0
  cursor_le_length : cursor ≤ text.length := by simp

namespace SearchBox

/-- The empty search box. -/
def empty (vocabulary : Vocabulary) : SearchBox := { vocabulary }

/-- Moves the cursor, to the end at most. -/
def moveTo (box : SearchBox) (cursor : Nat) : SearchBox :=
  { box with
    cursor := min cursor box.text.length
    cursor_le_length := Nat.min_le_right _ _ }

/-- Replaces the content by what the user made of it, less its unknown tokens. -/
def edit (box : SearchBox) (raw : Text) : SearchBox :=
  let text := sanitize box.vocabulary raw
  { vocabulary := box.vocabulary, text, cursor := text.length, cursor_le_length := Nat.le_refl _ }

/-- Appends a token as any edit. -/
def insertIcon (box : SearchBox) (name : Text) : SearchBox :=
  box.edit (insertToken box.text name)

/-- Deletes backward from the cursor. -/
def deleteBack (box : SearchBox) : SearchBox :=
  { vocabulary := box.vocabulary
    text := (backspace box.text box.cursor).1
    cursor := (backspace box.text box.cursor).2
    cursor_le_length := cursor_le_length_of_backspace _ _ }

/-- Removes the content. -/
def clear (box : SearchBox) : SearchBox := empty box.vocabulary

/-- The content as it is shown. -/
def pieces (box : SearchBox) : List Piece := Piece.ofText box.text

end SearchBox
end ReefCards
