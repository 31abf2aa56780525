import ReefCards.Icon.Token

/-!
# Segments of ability markup

Ability texts mix plain words with bracketed icon names. Read as markup they are a list of segments:
text, icons, points, and rows of icons that stand on one line. A row holds no further rows, which
the types say.
-/

namespace ReefCards

/-- The part of a markup text that is no row. -/
inductive Atom where
  /-- Words, without blanks at their ends. -/
  | text (words : Text)
  /-- A single icon. -/
  | icon (name : Text)
  /-- A number of points, or the bare icon for points under an empty label. -/
  | points (label : Text)
  deriving DecidableEq, Repr

/-- A part of a markup text. -/
inductive Segment where
  | atom (single : Atom)
  /-- Icons grouped on one line. -/
  | row (icons : List Atom)
  deriving DecidableEq, Repr

/-- The atom of a bracketed name: the icon for points is points without a label. -/
def Atom.ofName (name : Text) : Atom :=
  if name = Vocabulary.wave then .points [] else .icon name

/-- The sign between the icons of a row. -/
def rowJoiner : Text := " + "

/-- The atom written as markup. -/
def Atom.toMarkup : Atom → Text
  | .text words => words
  | .icon name => bracketed name
  | .points label =>
    if label.isEmpty then bracketed Vocabulary.wave
    else label ++ ' ' :: bracketed Vocabulary.wave

/-- The segment written as markup. -/
def Segment.toMarkup : Segment → Text
  | .atom single => single.toMarkup
  | .row icons => Text.join rowJoiner (icons.map Atom.toMarkup)

/-- The segments written as markup, with spaces between them. -/
def toMarkup (segments : List Segment) : Text := Text.join " " (segments.map Segment.toMarkup)

end ReefCards
