import ReefCards.Card.Record
import ReefCards.Failure
import ReefCards.Json.Document

/-!
# Decks

All cards of a data set in ascending order of their numbers, no two of which agree. A data set that
uses a number twice makes no deck. Main statement: `pairwise_insertSorted`.
-/

namespace ReefCards

/-- The cards of a game, ordered by number. -/
structure Deck where
  cards : List Card
  ascending : cards.Pairwise fun a b => a.id < b.id

namespace Deck

/-- The list with a card put before the first that has a larger number. -/
def insertSorted (card : Card) : List Card → List Card
  | [] => [card]
  | first :: rest =>
    if card.id < first.id then card :: first :: rest else first :: insertSorted card rest

/-- Inserting a card adds that card. -/
theorem mem_insertSorted (card other : Card) (cards : List Card) :
    other ∈ insertSorted card cards ↔ other = card ∨ other ∈ cards := by
  induction cards with
  | nil => simp [insertSorted]
  | cons first rest ih =>
    unfold insertSorted
    split
    · simp
    · rw [List.mem_cons, ih, List.mem_cons]
      exact or_left_comm

/-- Inserting a card with a new number keeps the order. -/
theorem pairwise_insertSorted (card : Card) (cards : List Card)
    (hnew : ∀ other ∈ cards, other.id ≠ card.id)
    (h : cards.Pairwise fun a b => a.id < b.id) :
    (insertSorted card cards).Pairwise fun a b => a.id < b.id := by
  induction cards with
  | nil => simp [insertSorted]
  | cons first rest ih =>
    obtain ⟨hfirst, hrest⟩ := List.pairwise_cons.1 h
    unfold insertSorted
    split
    · next hlt =>
      refine List.pairwise_cons.2 ⟨?_, h⟩
      intro other hother
      rcases List.mem_cons.1 hother with rfl | hother
      · exact hlt
      · exact Nat.lt_trans hlt (hfirst other hother)
    · next hge =>
      have hlt : first.id < card.id :=
        Nat.lt_of_le_of_ne (Nat.le_of_not_lt hge) (hnew first List.mem_cons_self)
      refine List.pairwise_cons.2 ⟨?_, ih (fun other hother =>
        hnew other (List.mem_cons_of_mem _ hother)) hrest⟩
      intro other hother
      rcases (mem_insertSorted card other rest).1 hother with rfl | hother
      · exact hlt
      · exact hfirst other hother

/-- The deck without cards. -/
def empty : Deck := ⟨[], .nil⟩

/-- The card with a number, if the deck has one. -/
def find? (deck : Deck) (id : CardId) : Option Card := deck.cards.find? fun card => card.id = id

/-- The card with a number. -/
def get (deck : Deck) (id : CardId) : Except Failure Card :=
  match deck.find? id with
  | some card => .ok card
  | none => .error (.cardNotFound id)

/-- The numbers of the cards in ascending order. -/
def ids (deck : Deck) : List CardId := deck.cards.map Card.id

/-- The number of cards. -/
def size (deck : Deck) : Nat := deck.cards.length

/-- The deck with one more card, unless its number is taken. -/
def insert (deck : Deck) (card : Card) : Except Failure Deck :=
  if h : ∀ other ∈ deck.cards, other.id ≠ card.id then
    .ok ⟨insertSorted card deck.cards, pairwise_insertSorted card deck.cards h deck.ascending⟩
  else .error (.duplicateCard card.id)

/-- The deck of a list of cards. -/
def ofCards (cards : List Card) : Except Failure Deck := cards.foldlM insert empty

/-- The deck of a data set. -/
def ofDataSet (text : Text) : Except Failure Deck :=
  match (Json.parse? text).bind fun json => json.items?.bind (List.mapM Card.ofJson?) with
  | some cards => ofCards cards
  | none => .error .serialization

end Deck
end ReefCards
