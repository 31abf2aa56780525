import ReefCards.Markup.Parse
import ReefCards.Report
import ReefCards.Search.Session
import ReefCards.Card.Published
import ReefCards.Settings.File

/-!
# The encyclopedia

Every operation on the cards in one place: a catalog and the vocabulary of its icons. Each operation
gives a report, and the two that go by card numbers may fail.
-/

namespace ReefCards

/-- A catalog with the icons that its texts may use. -/
structure Encyclopedia where
  catalog : Catalog
  vocabulary : Vocabulary := .standard

/-- Card numbers stay below this. -/
def idLimit : Nat := UInt32.size

/-- The card number that a user wrote, perhaps after number signs. -/
def readCardId (text : Text) : Except Failure CardId :=
  let trimmed := Text.trim text
  match Text.natural? idLimit (trimmed.dropWhile (· = '#')) with
  | some id => .ok id
  | none => .error (.invalidCardId trimmed)

namespace Encyclopedia

/-- The deck that the settings name: that of a file, where `read?` gives the content of the file
with a path, or the published one. -/
def loadDeck (read? : Text → Option Text) (settings : Settings) : Except Failure Deck :=
  match settings.cardsPath with
  | none => .ok publishedDeck
  | some path =>
    match read? path with
    | some text => Deck.ofDataSet text
    | none => .error .storage

/-- The encyclopedia that the settings describe. -/
def load (read? : Text → Option Text) (settings : Settings) : Except Failure Encyclopedia := do
  let deck ← loadDeck read? settings
  pure { catalog := .indexed deck settings.fields }

/-- The cards that a query asks for. -/
def search (book : Encyclopedia) (query : Query) : Report :=
  let ids := book.catalog.evaluate query
  { cards := book.catalog.cardsFor ids
    notices := if ids.isEmpty then [⟨.info, "No cards match."⟩] else [] }

/-- The cards that the default query asks for. -/
def list (book : Encyclopedia) : Report := book.search {}

/-- The cards with the numbers that a user wrote, in their order. -/
def view (book : Encyclopedia) (texts : List Text) : Except Failure Report := do
  let ids ← texts.mapM readCardId
  let cards ← ids.mapM book.catalog.deck.get
  pure { cards }

/-- How the cards that a query asks for spread over the facets. -/
def stats (book : Encyclopedia) (query : Query) : Report :=
  { tally := some (book.catalog.deck.tally (book.catalog.evaluate query)) }

/-- The segments of a markup text. -/
def parse (_ : Encyclopedia) (text : Text) : Report := { segments := ReefCards.parse text }

/-- A search text without unknown tokens, with a warning if it had any. -/
def sanitize (book : Encyclopedia) (text : Text) : Report :=
  let clean := ReefCards.sanitize book.vocabulary text
  { text := some clean
    notices :=
      if clean = text then []
      else [⟨.warning, "Removed tokens outside the icon vocabulary."⟩] }

/-- The names of the icons. -/
def icons (book : Encyclopedia) : Report := { icons := book.vocabulary.names }

/-- A new search session. -/
def session (book : Encyclopedia) : Session := .start book.catalog book.vocabulary

end Encyclopedia
end ReefCards
