import ReefCards.OrderedMap
import ReefCards.Search.Field
import ReefCards.Text.Blank

/-!
# The text index

Which cards a search text matches. An index holds the lowercase text of every document, and a
document matches when each word of the search text, in lowercase, occurs in its text. A blank search
text has no words and matches every document.
-/

namespace ReefCards

/-- A text to be searched, under a card number. -/
structure Document where
  id : CardId
  text : Text
  deriving DecidableEq, Repr

/-- The searched text of a card: its fields on lines of their own. -/
def Document.ofCard (fields : List Field) (card : Card) : Document :=
  { id := card.id, text := Text.join "\n" (fields.map (Field.read card)) }

/-- The numbers of a list in ascending order, each once. -/
def ascendingIds (ids : List CardId) : List CardId :=
  (OrderedMap.ofList (ids.map fun id => (id, ()))).keys

/-- Documents with their text in lowercase. -/
structure Index where
  documents : List Document
  deriving DecidableEq, Repr

namespace Index

/-- The index of a list of documents. -/
def ofDocuments (documents : List Document) : Index :=
  ⟨documents.map fun document => { document with text := Text.lowercase document.text }⟩

/-- The index of the chosen fields of a list of cards. -/
def ofCards (fields : List Field) (cards : List Card) : Index :=
  ofDocuments (cards.map (Document.ofCard fields))

/-- The number of documents. -/
def size (index : Index) : Nat := index.documents.length

/-- The numbers of all documents in ascending order. -/
def ids (index : Index) : List CardId := ascendingIds (index.documents.map Document.id)

/-- The words that a search text asks for. -/
def terms (text : Text) : List Text := (Text.words text).map Text.lowercase

/-- Whether a document has all the terms. -/
def matchesTerms (terms : List Text) (document : Document) : Bool :=
  terms.all fun term => Text.occursIn term document.text

/-- The numbers of the documents that a search text matches, in ascending order. -/
def search (index : Index) (text : Text) : List CardId :=
  ascendingIds ((index.documents.filter (matchesTerms (terms text))).map Document.id)

end Index
end ReefCards
