import ReefCards.Markup.Fragment

/-!
# Reading ability markup

The segments of a markup text: every fragment that fits a shape gives the segment of that shape, and
plain and stray fragments give their words, or nothing when they are blank. A name need not belong
to any vocabulary.
-/

namespace ReefCards

/-- The words of a text as a segment, if any are left without the blanks at its ends. -/
def Segment.ofWords? (source : Text) : Option Segment :=
  let words := Text.trim source
  if words.isEmpty then none else some (.atom (.text words))

/-- The segment that a fragment stands for. -/
def Fragment.segment? (fragment : Fragment) : Option Segment :=
  match fragment.shape with
  | some (.row names) => some (.row (names.map Atom.ofName))
  | some (.points digits) => some (.atom (.points digits))
  | some (.icon name) => some (.atom (.ofName name))
  | some .plain => Segment.ofWords? fragment.source
  | none => Segment.ofWords? fragment.source

/-- The segments of a markup text, with icons grouped into rows or not. -/
def parseWith (rows : Bool) (text : Text) : List Segment :=
  (Fragment.scan rows text).filterMap Fragment.segment?

/-- The segments of a markup text, with icons grouped into rows. -/
def parse (text : Text) : List Segment := parseWith true text

end ReefCards
