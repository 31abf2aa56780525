/-!
# Texts

All text of the library is a list of characters, so that every reader, editor and printer is a
function on lists. String literals stand for the list of their characters. Main statement:
`occursIn_iff`, a word occurs in a text exactly when it is an infix of it.
-/

namespace ReefCards

/-- A text is the list of its characters. -/
abbrev Text := List Char

/-- A string literal stands for the list of its characters. -/
instance : Coe String Text := ⟨String.toList⟩

namespace Text

/-- Whether `word` stands somewhere in the text as consecutive characters. -/
def occursIn (word : Text) : Text → Bool
  | [] => word.isEmpty
  | c :: rest => word.isPrefixOf (c :: rest) || occursIn word rest

/-- A word occurs in a text exactly when the text is the word between two other texts. -/
theorem occursIn_iff (word text : Text) : occursIn word text = true ↔ word <:+: text := by
  induction text with
  | nil => simp [occursIn]
  | cons c rest ih => simp [occursIn, ih, List.infix_cons_iff]

/-- The text after a fixed beginning, or nothing when the text does not begin so. -/
def after? (start : Text) (text : Text) : Option Text :=
  if start.isPrefixOf text then some (text.drop start.length) else none

/-- A text with a fixed beginning is that beginning and the text after it. -/
theorem eq_append_of_after? {start text rest : Text} (h : after? start text = some rest) :
    text = start ++ rest := by
  unfold after? at h
  split at h
  · next hprefix =>
    obtain ⟨tail, rfl⟩ := List.isPrefixOf_iff_prefix.1 hprefix
    obtain rfl := Option.some.inj h
    rw [List.drop_left]
  · simp at h

/-- The ASCII capital letters become small and every other character stays. -/
def asciiLower (text : Text) : Text := text.map Char.toLower

/-- Writes the parts one after the other with `separator` between neighbours. -/
def join (separator : Text) (parts : List Text) : Text := separator.intercalate parts

end Text
end ReefCards
