import ReefCards.Markup.Segment
import ReefCards.Icon.Glyph

/-!
# Showing ability markup

Segments as one line of text with glyphs for the icons. A space stands between two pieces unless the
second begins with a closing mark or the first ends with an opening bracket.
-/

namespace ReefCards

/-- What is shown for an atom. -/
def Atom.render (vocabulary : Vocabulary) : Atom → Text
  | .text words => words
  | .icon name => vocabulary.display name
  | .points label =>
    if label.isEmpty then vocabulary.display Vocabulary.wave
    else label ++ ' ' :: vocabulary.display Vocabulary.wave

/-- What is shown for a segment. -/
def Segment.render (vocabulary : Vocabulary) : Segment → Text
  | .atom single => single.render vocabulary
  | .row icons => Text.join rowJoiner (icons.map (Atom.render vocabulary))

/-- The marks that stand close to what comes before them. -/
def closingMarks : List Char := [',', '.', ':', ';', '!', '?', ')']

/-- Whether a piece begins with a closing mark. -/
def beginsWithClosingMark (piece : Text) : Bool :=
  match piece with
  | c :: _ => closingMarks.contains c
  | [] => false

/-- Appends a piece to a line. -/
def appendPiece (line piece : Text) : Text :=
  if line.isEmpty || beginsWithClosingMark piece || line.getLast? = some '(' then line ++ piece
  else line ++ ' ' :: piece

/-- What is shown for a list of segments. -/
def renderSegments (vocabulary : Vocabulary) (segments : List Segment) : Text :=
  (segments.map (Segment.render vocabulary)).foldl appendPiece []

end ReefCards
