import ReefCards.Text.Basic

/-!
# Blank characters

The characters that Unicode counts as white space, and the operations that go by them: trimming a
text and splitting it into words. Main statements: `trim_nil`, and `not_blank_of_mem_words`, a word
holds no blank character.
-/

namespace ReefCards.Text

/-- The characters with Unicode's `White_Space` property. -/
def blanks : List Char :=
  ['\t', '\n', '\x0b', '\x0c', '\r', ' ', '\u0085', '\u00a0', '\u1680', '\u2000', '\u2001',
    '\u2002', '\u2003', '\u2004', '\u2005', '\u2006', '\u2007', '\u2008', '\u2009', '\u200a',
    '\u2028', '\u2029', '\u202f', '\u205f', '\u3000']

/-- Whether the character is white space. -/
def isBlank (c : Char) : Bool := blanks.contains c

/-- The text without the blank characters at its start. -/
def trimStart (text : Text) : Text := text.dropWhile isBlank

/-- The text without the blank characters at its end. -/
def trimEnd (text : Text) : Text := (text.reverse.dropWhile isBlank).reverse

/-- The text without the blank characters at its two ends. -/
def trim (text : Text) : Text := trimEnd (trimStart text)

/-- The empty text has nothing to trim. -/
theorem trim_nil : trim [] = [] := rfl

/-- The longest runs of characters that are not blank, in their order. -/
def words (text : Text) : List Text :=
  (text.splitOnP isBlank).filter fun word => !word.isEmpty

/-- No part of a text split at blank characters holds a blank character. -/
theorem not_blank_of_mem_splitOnP (text word : Text) (h : word ∈ text.splitOnP isBlank) :
    ∀ c ∈ word, isBlank c = false := by
  induction text generalizing word with
  | nil => simp_all [List.splitOnP_nil]
  | cons c rest ih =>
    rw [List.splitOnP_cons_eq_if_modifyHead] at h
    split at h
    · rcases List.mem_cons.1 h with rfl | h
      · simp
      · exact ih word h
    · rename_i hc
      cases hs : rest.splitOnP isBlank with
      | nil => simp [hs] at h
      | cons first others =>
        rw [hs, List.modifyHead_cons, List.mem_cons] at h
        rcases h with rfl | h
        · intro d hd
          rcases List.mem_cons.1 hd with rfl | hd
          · simpa using hc
          · exact ih first (by simp [hs]) d hd
        · exact ih word (by simp [hs, h])

/-- A word holds no blank character. -/
theorem not_blank_of_mem_words (text word : Text) (h : word ∈ words text) :
    ∀ c ∈ word, isBlank c = false :=
  not_blank_of_mem_splitOnP text word (List.mem_filter.1 h).1

end ReefCards.Text
