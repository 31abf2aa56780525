import ReefCards.Card.Badge
import ReefCards.Decimal.Shortest
import ReefCards.Report
import ReefCards.Text.Columns
import ReefCards.Text.Quoted
import ReefCards.Text.Style

/-!
# Terminal layout

The lines that the program prints: lists of cards cut to the width of the terminal, full cards,
tallies, segments, icons, settings and notices.
-/

namespace ReefCards.Layout

open Text

/-- A text as a line. -/
def line (text : Text) : Text := text ++ ['\n']

/-- The style of a colour. -/
def inColour (colour : Colour) : Style := { colour := some colour }

/-- The style of names. -/
def bold : Style := { bold := true }

/-- The style of what matters less. -/
def dimmed : Style := { dimmed := true }

/-- The style of a level of notices. -/
def noticeStyle : NoticeLevel → Style
  | .info => dimmed
  | .success => inColour .green
  | .warning => inColour .yellow
  | .error => inColour .red

/-- Notices, each on a line. -/
def notices (colours : Bool) (list : List Notice) : Text :=
  list.flatMap fun notice => line ((noticeStyle notice.level).apply colours notice.content)

/-- The characters of a text up to the column `limit`, with an ellipsis where the text is cut. The
characters before it take `used` columns. -/
def cut (limit used : Nat) : Text → Text
  | [] => []
  | c :: rest =>
    if limit < used + loneCharColumns c then ['…']
    else c :: cut limit (used + loneCharColumns c) rest

/-- The text if it fits in `limit` columns, and otherwise as much of it as fits before an
ellipsis. -/
def truncate (text : Text) (limit : Nat) : Text :=
  if columns text ≤ limit then text else cut (limit - 1) 0 text

/-- The columns for the number of a card at the start of a line. -/
def idColumns : Nat := 6

/-- The columns for the group and size of a card at the end of a line. -/
def tailColumns : Nat := 16

/-- The two spaces between the name and the Latin name of a card. -/
def nameGap : Text := "  "

/-- The parts of a text before and after its first gap. -/
def splitAtGap? : Text → Option (Text × Text)
  | [] => none
  | ' ' :: ' ' :: rest => some ([], rest)
  | c :: rest => (splitAtGap? rest).map fun parts => (c :: parts.1, parts.2)

/-- The names of a card as they stand on its line. -/
def title (card : Card) : Text :=
  if card.latin.isEmpty then card.name else card.name ++ nameGap ++ card.latin

/-- The names of a card in their styles: what comes after the first gap matters less. -/
def styledTitle (colours : Bool) (text : Text) : Text :=
  match splitAtGap? text with
  | some (name, latin) =>
    bold.apply colours name ++ nameGap ++
      Style.apply { dimmed := true, italic := true } colours latin
  | none => bold.apply colours text

/-- The line of a card in a list of the given width. -/
def cardLine (colours : Bool) (width : Nat) (card : Card) : Text :=
  let available := width - (idColumns + tailColumns)
  let shown := truncate (title card) available
  let padding := List.replicate (available - columns shown) ' '
  let tail := card.group ++ ' ' :: Named.name card.size
  line ((inColour .yellow).apply colours (padStart 4 (decimal card.id) ++ ". ".toList) ++
    styledTitle colours shown ++ padding ++
    dimmed.applyFitted colours (padStart tailColumns) tail)

/-- The lines of a list of cards. -/
def cards (colours : Bool) (width : Nat) (list : List Card) : Text :=
  list.flatMap (cardLine colours width)

/-- A mark beside a name. -/
def nameMark (vocabulary : Vocabulary) : NameMark → Text
  | .icon token => token.render vocabulary
  | .label mark count =>
    if count = 1 then Named.name mark else Named.name mark ++ " x".toList ++ decimal count

/-- The zones of a row of the board. -/
def zoneRow : ZoneRow → Text
  | .single zone => Named.name zone
  | .bottomTwo => "midnight (two rows)"

/-- A line with a heading, unless there is nothing after it. -/
def headed (heading : Text) (parts : List Text) (separator : Text) : Text :=
  if parts.isEmpty then [] else line (padEnd 9 heading ++ join separator parts)

/-- A card in full. -/
def fullCard (colours : Bool) (vocabulary : Vocabulary) (card : Card) : Text :=
  let ability := card.renderAbility vocabulary
  line ((inColour .yellow).apply colours ('#' :: decimal card.id) ++
      ' ' :: bold.apply colours card.name) ++
    (if card.latin.isEmpty then []
      else line (Style.apply { italic := true } colours card.latin)) ++
    headed "traits" ((card.nameMarks vocabulary).map (nameMark vocabulary)) " " ++
    line (List.replicate 32 '-') ++
    headed "cost" ((card.costIcons vocabulary).map (IconToken.render vocabulary)) " " ++
    headed "length" ((card.lengthIcon? vocabulary).toList.map fun token =>
      token.render vocabulary ++ ' ' :: Decimal.text card.length ++ " cm".toList) " " ++
    headed "zones" (card.zoneRows.map zoneRow) ", " ++
    headed "points" ((card.pointsIcon? vocabulary).toList.map (IconToken.render vocabulary)) " " ++
    (if ability.isEmpty then [] else line [] ++ line ability) ++
    (if card.description.isEmpty then []
      else line [] ++ line (dimmed.apply colours card.description))

/-- What stands between two full cards. -/
def cardSeparator : Text := line [] ++ line (List.replicate 32 '=') ++ line []

/-- Cards in full. -/
def fullCards (colours : Bool) (vocabulary : Vocabulary) (list : List Card) : Text :=
  join cardSeparator (list.map (fullCard colours vocabulary))

/-- A facet of a tally, unless no card has a value of it. -/
def tallyLine {κ : Type} [Ord κ] (colours : Bool) (heading : Text) (name : κ → Text)
    (counts : OrderedMap κ Nat) : Text :=
  if counts.entries.isEmpty then []
  else
    line (dimmed.applyFitted colours (padEnd 8) heading ++ ' ' ::
      join ", " (counts.entries.map fun entry => name entry.1 ++ ' ' :: decimal entry.2))

/-- A tally. -/
def tally (colours : Bool) (counts : Tally) : Text :=
  line (bold.apply colours "cards" ++ ' ' :: decimal counts.total) ++
    tallyLine colours "group" id counts.groups ++
    tallyLine colours "size" Named.name counts.sizes ++
    tallyLine colours "zone" Named.name counts.zones ++
    tallyLine colours "trait" Named.name counts.traits

/-- An atom of a markup text. -/
def atom (colours : Bool) : Atom → Text
  | .text words => line ((inColour .cyan).apply colours "Text" ++ ' ' :: quoted words)
  | .icon name => line ((inColour .green).apply colours "Icon" ++ ' ' :: name)
  | .points label => line ((inColour .yellow).apply colours "Points" ++ ' ' :: quoted label)

/-- A segment of a markup text; the icons of a row stand two columns further in. -/
def segment (colours : Bool) : Segment → Text
  | .atom single => atom colours single
  | .row icons =>
    line ((inColour .magenta).apply colours "Row") ++
      icons.flatMap fun icon => ' ' :: ' ' :: atom colours icon

/-- Segments of a markup text. -/
def segments (colours : Bool) (list : List Segment) : Text := list.flatMap (segment colours)

/-- Icon names with their glyphs. -/
def icons (vocabulary : Vocabulary) (names : List Text) : Text :=
  names.flatMap fun name =>
    line (padEnd 20 name ++ ' ' :: (vocabulary.glyph? name).getD [])

/-- Settings, each on a line. -/
def settings (chosen : Settings) : Text :=
  (Named.all : List Setting).flatMap fun setting =>
    line (Named.name setting ++ " = ".toList ++ chosen.shown setting)

end ReefCards.Layout
