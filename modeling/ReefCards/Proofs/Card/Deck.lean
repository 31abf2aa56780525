import Mathlib.Data.List.Induction
import Mathlib.Data.List.Nodup
import ReefCards.Search.Catalog

/-!
# Decks of lists of cards

A list of cards makes a deck exactly if no number occurs in it twice, and the deck has the cards of
the list, whatever their order there. Otherwise the first card whose number occurred before it is to
blame. Main statements: `exists_insert_of_new` and `insert_of_taken`, what one more card does to a
deck, `exists_ofCards_of_nodup`, and `ofCards_exact`.
-/

namespace ReefCards.Deck

variable {deck : Deck} {card : Card} {cards : List Card}

/-- Inserting a card adds it to the cards of before. -/
theorem perm_insertSorted (card : Card) (cards : List Card) :
    (insertSorted card cards).Perm (card :: cards) := by
  induction cards with
  | nil => exact .refl _
  | cons first rest ih =>
    unfold insertSorted
    split
    · exact .refl _
    · exact (ih.cons first).trans (.swap card first rest)

/-- Two decks with the same cards are equal. -/
theorem ext_perm {first second : Deck} (h : first.cards.Perm second.cards) : first = second := by
  have hcards : first.cards = second.cards :=
    h.eq_of_pairwise (fun _ _ _ _ hab hba => absurd hba (Nat.lt_asymm hab))
      first.ascending second.ascending
  obtain ⟨firstCards, _⟩ := first
  obtain ⟨secondCards, _⟩ := second
  obtain rfl : firstCards = secondCards := hcards
  rfl

/-- The numbers of a deck are in strictly ascending order. -/
theorem pairwise_ids (deck : Deck) : (deck.cards.map Card.id).Pairwise (· < ·) :=
  List.pairwise_map.2 deck.ascending

/-- No number occurs twice in a deck. -/
theorem nodup_ids (deck : Deck) : (deck.cards.map Card.id).Nodup :=
  deck.pairwise_ids.imp Nat.ne_of_lt

/-- A card with a new number is added to a deck. -/
theorem exists_insert_of_new (h : card.id ∉ deck.ids) :
    ∃ larger, deck.insert card = .ok larger ∧ larger.cards.Perm (card :: deck.cards) := by
  have hnew : ∀ other ∈ deck.cards, other.id ≠ card.id :=
    fun other hother hid => h (hid ▸ List.mem_map_of_mem hother)
  exact ⟨_, dif_pos hnew, perm_insertSorted card deck.cards⟩

/-- A card with a number that is taken is refused under that number. -/
theorem insert_of_taken (h : card.id ∈ deck.ids) :
    deck.insert card = .error (.duplicateCard card.id) := by
  obtain ⟨other, hother, hid⟩ := List.mem_map.1 h
  exact dif_neg fun hnew => hnew other hother hid

/-- A list of cards is inserted after what stands before it. -/
theorem ofCards_append (first second : List Card) :
    ofCards (first ++ second) = ofCards first >>= fun deck => second.foldlM insert deck :=
  List.foldlM_append

/-- No number occurs twice in a list with one more card exactly if none occurs twice before it and
the number of the card is new. -/
theorem nodup_ids_concat_iff (past : List Card) (card : Card) :
    ((past ++ [card]).map Card.id).Nodup ↔
      (past.map Card.id).Nodup ∧ card.id ∉ past.map Card.id := by
  rw [List.map_append, List.map_singleton, List.nodup_append_comm, List.singleton_append,
    List.nodup_cons, and_comm]

/-- A list of cards in which no number occurs twice makes a deck, and the deck has these cards. -/
theorem exists_ofCards_of_nodup (h : (cards.map Card.id).Nodup) :
    ∃ deck, ofCards cards = .ok deck ∧ deck.cards.Perm cards := by
  induction cards using List.reverseRecOn with
  | nil => exact ⟨empty, rfl, .refl _⟩
  | append_singleton past card ih =>
    obtain ⟨hpast, hcard⟩ := (nodup_ids_concat_iff past card).1 h
    obtain ⟨deck, hdeck, hperm⟩ := ih hpast
    have hnew : card.id ∉ deck.ids := mt (hperm.map Card.id).mem_iff.1 hcard
    obtain ⟨larger, hlarger, hcards⟩ := exists_insert_of_new hnew
    refine ⟨larger, ?_, ?_⟩
    · rw [ofCards_append, hdeck]
      exact (bind_pure (deck.insert card)).trans hlarger
    · exact hcards.trans ((hperm.cons card).trans (List.perm_append_singleton card past).symm)

/-- A card of a list that is the first whose number occurs before it. -/
def IsFirstRepeated (card : Card) (cards : List Card) : Prop :=
  ∃ before behind, cards = before ++ card :: behind ∧ (before.map Card.id).Nodup ∧
    card.id ∈ before.map Card.id

/-- A list in which some number occurs twice has a first repeated card. -/
theorem exists_isFirstRepeated (h : ¬ (cards.map Card.id).Nodup) :
    ∃ card, IsFirstRepeated card cards := by
  induction cards using List.reverseRecOn with
  | nil => exact absurd List.nodup_nil h
  | append_singleton past last ih =>
    by_cases hpast : (past.map Card.id).Nodup
    · have hlast : last.id ∈ past.map Card.id := by
        by_contra hnew
        exact h ((nodup_ids_concat_iff past last).2 ⟨hpast, hnew⟩)
      exact ⟨last, past, [], rfl, hpast, hlast⟩
    · obtain ⟨card, before, behind, rfl, hbefore, hid⟩ := ih hpast
      exact ⟨card, before, behind ++ [last], by simp, hbefore, hid⟩

/-- A list of cards with a first repeated one makes no deck: the cards before that one make a deck
in which its number is taken. -/
theorem IsFirstRepeated.ofCards_eq (h : IsFirstRepeated card cards) :
    ofCards cards = .error (.duplicateCard card.id) := by
  obtain ⟨before, behind, rfl, hbefore, hid⟩ := h
  obtain ⟨deck, hdeck, hperm⟩ := exists_ofCards_of_nodup hbefore
  have htaken : card.id ∈ deck.ids := (hperm.map Card.id).mem_iff.2 hid
  rw [ofCards_append, hdeck]
  show (card :: behind).foldlM insert deck = _
  rw [List.foldlM_cons, insert_of_taken htaken]
  rfl

/-- A list of cards makes a deck exactly if that has the cards of the list, in whichever order. -/
theorem ofCards_eq_ok_iff : ofCards cards = .ok deck ↔ deck.cards.Perm cards := by
  constructor
  · intro hdeck
    by_cases h : (cards.map Card.id).Nodup
    · obtain ⟨same, hsame, hperm⟩ := exists_ofCards_of_nodup h
      rwa [Except.ok.inj (hdeck.symm.trans hsame)]
    · obtain ⟨card, hcard⟩ := exists_isFirstRepeated h
      rw [hcard.ofCards_eq] at hdeck
      cases hdeck
  · intro hperm
    have h : (cards.map Card.id).Nodup := (hperm.map Card.id).nodup_iff.1 deck.nodup_ids
    obtain ⟨same, hsame, hcards⟩ := exists_ofCards_of_nodup h
    rwa [ext_perm (hperm.trans hcards.symm)]

/-- A list of cards fails exactly with the number of its first repeated card. -/
theorem ofCards_eq_error_iff {failure : Failure} :
    ofCards cards = .error failure ↔
      ∃ card, IsFirstRepeated card cards ∧ failure = .duplicateCard card.id := by
  constructor
  · intro hfailure
    have h : ¬ (cards.map Card.id).Nodup := by
      intro h
      obtain ⟨deck, hdeck, -⟩ := exists_ofCards_of_nodup h
      rw [hdeck] at hfailure
      cases hfailure
    obtain ⟨card, hcard⟩ := exists_isFirstRepeated h
    exact ⟨card, hcard, Except.error.inj (hfailure.symm.trans hcard.ofCards_eq)⟩
  · rintro ⟨card, hcard, rfl⟩
    exact hcard.ofCards_eq

/-- A list of cards makes a deck exactly if no number occurs in it twice. The deck then has the cards
of the list, each once, in strictly ascending order of their numbers, so that in any other order the
cards make the same deck and every query over it gives the same results. A list that makes no deck
fails with the number of the first of its cards whose number occurs before it. -/
theorem ofCards_exact (cards : List Card) :
    ((∃ deck, ofCards cards = .ok deck) ↔ (cards.map Card.id).Nodup) ∧
      (∀ deck, ofCards cards = .ok deck →
        deck.cards.Perm cards ∧ (deck.cards.map Card.id).Pairwise (· < ·) ∧
          ∀ others : List Card, others.Perm cards →
            ofCards others = .ok deck ∧
              ∀ fields query,
                (ofCards others).map (fun other => (Catalog.indexed other fields).evaluate query) =
                  .ok ((Catalog.indexed deck fields).evaluate query)) ∧
      ∀ failure, ofCards cards = .error failure ↔
        ∃ before card behind, cards = before ++ card :: behind ∧ (before.map Card.id).Nodup ∧
          card.id ∈ before.map Card.id ∧ failure = .duplicateCard card.id := by
  refine ⟨⟨?_, fun h => ?_⟩, fun deck hdeck => ?_, fun failure => ofCards_eq_error_iff.trans ?_⟩
  · rintro ⟨deck, hdeck⟩
    exact ((ofCards_eq_ok_iff.1 hdeck).map Card.id).nodup_iff.1 deck.nodup_ids
  · obtain ⟨deck, hdeck, -⟩ := exists_ofCards_of_nodup h
    exact ⟨deck, hdeck⟩
  · have hperm := ofCards_eq_ok_iff.1 hdeck
    refine ⟨hperm, deck.pairwise_ids, fun others hothers => ?_⟩
    have hsame : ofCards others = .ok deck := ofCards_eq_ok_iff.2 (hperm.trans hothers.symm)
    refine ⟨hsame, fun fields query => ?_⟩
    rw [hsame]
    rfl
  · constructor
    · rintro ⟨card, ⟨before, behind, heq, hbefore, hid⟩, hfailure⟩
      exact ⟨before, card, behind, heq, hbefore, hid, hfailure⟩
    · rintro ⟨before, card, behind, heq, hbefore, hid, hfailure⟩
      exact ⟨card, ⟨before, behind, heq, hbefore, hid⟩, hfailure⟩

end ReefCards.Deck
