import ReefCards.Search.Catalog
import ReefCards.SearchBox.Basic

/-!
# Search sessions

A search box, a query and the results on display. Every action edits the first two and counts as one
more generation; results are taken only if they belong to the newest generation, so late results of
an older query never replace newer ones.
-/

namespace ReefCards

/-- What a user does in a session. -/
inductive Action where
  /-- The search box gets this new content. -/
  | type (raw : Text)
  | insertIcon (name : Text)
  | backspace
  | clear
  | setGroup (group : Text) (on : Bool)
  | setSize (size : Size) (on : Bool)
  | setZone (zone : Zone) (on : Bool)
  | setTag (mark : Trait) (on : Bool)
  /-- Back to the default query and an empty search box. -/
  | reset
  deriving DecidableEq, Repr

/-- The state of a search. -/
structure Session where
  box : SearchBox
  query : Query
  generation : Nat
  results : List CardId

namespace Session

/-- A new session, which shows what the default query asks for. -/
def start (catalog : Catalog) (vocabulary : Vocabulary) : Session where
  box := .empty vocabulary
  query := {}
  generation := 0
  results := catalog.evaluate {}

/-- The search box after an action. -/
def editBox (box : SearchBox) : Action → SearchBox
  | .type raw => box.edit raw
  | .insertIcon name => box.insertIcon name
  | .backspace => box.deleteBack
  | .clear => box.clear
  | .reset => box.clear
  | _ => box

/-- The facets of the query after an action. -/
def editFacets (query : Query) : Action → Query
  | .setGroup group on => query.withGroup group on
  | .setSize size on => query.withSize size on
  | .setZone zone on => query.withZone zone on
  | .setTag mark on => query.withTag mark on
  | .reset => {}
  | _ => query

/-- Edits the search box and the query without evaluating. The new generation is the one whose
results are awaited. -/
def begin (session : Session) (action : Action) : Session :=
  let box := editBox session.box action
  { session with
    box
    query := (editFacets session.query action).withText box.text
    generation := session.generation + 1 }

/-- Whether results of this generation belong to the newest query. -/
def accepts (session : Session) (generation : Nat) : Bool := generation = session.generation

/-- Takes results over, unless they belong to an older generation. -/
def accept (session : Session) (generation : Nat) (results : List CardId) : Session :=
  if session.accepts generation then { session with results } else session

/-- Edits the search box and the query, and evaluates the query. -/
def apply (catalog : Catalog) (session : Session) (action : Action) : Session :=
  let edited := session.begin action
  edited.accept edited.generation (catalog.evaluate edited.query)

end Session
end ReefCards
