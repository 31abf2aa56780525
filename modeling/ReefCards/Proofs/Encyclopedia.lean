import ReefCards.Encyclopedia
import ReefCards.Proofs.Except
import ReefCards.Proofs.Search.Tally
import ReefCards.Proofs.Text.Numeral

/-!
# Cards by the numbers that a user wrote

`WritesCardId` says how a user may write the number of a card. All texts of a request are read
before any card is looked up, so a text that writes no number counts for more than a number without
a card, wherever the two stand. Main statements: `readCardId_eq_ok_iff`, which texts are read, and
`Encyclopedia.view_exact`.
-/

namespace ReefCards

variable {text : Text} {id : CardId} {failure : Failure}

/-- The text writes the number of a card as a user may: with blanks around it, number signs before
it, perhaps a plus sign, and digits of a number that fits in 32 bits. -/
def WritesCardId (text : Text) (id : CardId) : Prop :=
  ∃ before signs number behind : Text, text = before ++ ((signs ++ number) ++ behind) ∧
    (∀ c ∈ before, Text.isBlank c = true) ∧ (∀ c ∈ signs, c = '#') ∧
    Text.WritesNatural UInt32.size number id ∧ ∀ c ∈ behind, Text.isBlank c = true

/-- Number signs before a number are dropped, and nothing of the number is. -/
theorem dropWhile_signs_append {signs number : Text} (hsigns : ∀ c ∈ signs, c = '#')
    (hnumber : Text.WritesNatural UInt32.size number id) :
    (signs ++ number).dropWhile (· = '#') = number := by
  rw [List.dropWhile_append_of_pos (by simpa using hsigns)]
  obtain ⟨c, rest, rfl⟩ := List.exists_cons_of_ne_nil hnumber.ne_nil
  refine List.dropWhile_cons_of_neg ?_
  rcases hnumber.isDigit_or_plus List.mem_cons_self with hdigit | rfl
  · simp only [decide_eq_true_eq]
    rintro rfl
    exact absurd hdigit (by decide)
  · decide

/-- Number signs and a number after them hold no blank. -/
theorem not_blank_of_mem_signs_append {signs number : Text} (hsigns : ∀ c ∈ signs, c = '#')
    (hnumber : Text.WritesNatural UInt32.size number id) :
    ∀ c ∈ signs ++ number, Text.isBlank c = false := by
  intro c hc
  rcases List.mem_append.1 hc with hc | hc
  · obtain rfl := hsigns c hc
    decide
  · rcases hnumber.isDigit_or_plus hc with hdigit | rfl
    · exact Text.isBlank_of_isDigit hdigit
    · decide

/-- A text is read as the number of a card exactly if it writes that number. -/
theorem readCardId_eq_ok_iff : readCardId text = .ok id ↔ WritesCardId text id := by
  have hread : readCardId text = .ok id ↔
      Text.WritesNatural idLimit ((Text.trim text).dropWhile (· = '#')) id := by
    rw [← Text.natural?_eq_some_iff, readCardId]
    cases Text.natural? idLimit ((Text.trim text).dropWhile (· = '#')) <;> simp
  rw [hread]
  constructor
  · intro hnumber
    obtain ⟨before, behind, hbefore, hbehind, htext⟩ := Text.exists_eq_trim_append text
    refine ⟨before, (Text.trim text).takeWhile (· = '#'), _, behind, ?_, hbefore, ?_, hnumber,
      hbehind⟩
    · rw [List.takeWhile_append_dropWhile]
      exact htext
    · intro c hc
      simpa using List.mem_takeWhile_imp hc
  · rintro ⟨before, signs, number, behind, rfl, hbefore, hsigns, hnumber, hbehind⟩
    rw [Text.trim_append_append hbefore hbehind,
      Text.trim_of_not_blank (not_blank_of_mem_signs_append hsigns hnumber),
      dropWhile_signs_append hsigns hnumber]
    exact hnumber

/-- A text that writes no number of a card is refused, and quoted without the blanks around it. -/
theorem readCardId_eq_error_iff :
    readCardId text = .error failure ↔
      (∀ id, ¬ WritesCardId text id) ∧ failure = .invalidCardId (Text.trim text) := by
  have hcases : (∃ id, readCardId text = .ok id) ∨
      readCardId text = .error (.invalidCardId (Text.trim text)) := by
    rw [readCardId]
    cases Text.natural? idLimit ((Text.trim text).dropWhile (· = '#')) with
    | some id => exact .inl ⟨id, rfl⟩
    | none => exact .inr rfl
  simp only [← readCardId_eq_ok_iff]
  rcases hcases with ⟨id, hid⟩ | herror
  · rw [hid]
    exact iff_of_false nofun fun h => h.1 id rfl
  · rw [herror]
    exact ⟨fun h => ⟨nofun, (Except.error.inj h).symm⟩, fun h => h.2 ▸ rfl⟩

namespace Deck

variable {deck : Deck} {card : Card}

/-- A deck gives the card that has the number. -/
theorem get_eq_ok_iff : deck.get id = .ok card ↔ card ∈ deck.cards ∧ card.id = id := by
  rw [get]
  constructor
  · intro h
    cases hfound : deck.find? id with
    | none =>
      rw [hfound] at h
      cases h
    | some other =>
      rw [hfound] at h
      obtain rfl : other = card := Except.ok.inj h
      exact ⟨List.mem_of_find?_eq_some hfound, by simpa using List.find?_some hfound⟩
  · rintro ⟨hcard, rfl⟩
    rw [find?_id hcard]

/-- A deck fails for the numbers that none of its cards has. -/
theorem get_eq_error_iff :
    deck.get id = .error failure ↔
      (∀ card ∈ deck.cards, card.id ≠ id) ∧ failure = .cardNotFound id := by
  rw [get]
  cases hfound : deck.find? id with
  | none =>
    have hnone : ∀ card ∈ deck.cards, card.id ≠ id := by simpa using List.find?_eq_none.1 hfound
    exact ⟨fun h => ⟨hnone, (Except.error.inj h).symm⟩, fun h => h.2 ▸ rfl⟩
  | some card =>
    refine iff_of_false nofun fun h => ?_
    exact h.1 card (List.mem_of_find?_eq_some hfound) (by simpa using List.find?_some hfound)

end Deck

namespace Encyclopedia

variable {book : Encyclopedia} {texts : List Text}

/-- A request succeeds exactly if each of its texts writes the number of a card, and its report has
these cards in the order of the texts. -/
theorem view_eq_ok_iff {report : Report} :
    book.view texts = .ok report ↔
      ∃ cards, List.Forall₂ (fun text card => card ∈ book.catalog.deck.cards ∧
        WritesCardId text card.id) texts cards ∧ report = { cards } := by
  have hitem (text : Text) (card : Card) :
      (∃ id, WritesCardId text id ∧ card ∈ book.catalog.deck.cards ∧ card.id = id) ↔
        card ∈ book.catalog.deck.cards ∧ WritesCardId text card.id := by
    constructor
    · rintro ⟨id, htext, hcard, rfl⟩
      exact ⟨hcard, htext⟩
    · rintro ⟨hcard, htext⟩
      exact ⟨card.id, htext, hcard, rfl⟩
  rw [view, bind_eq_ok_iff]
  simp only [bind_eq_ok_iff, mapM_eq_ok_iff, readCardId_eq_ok_iff, Deck.get_eq_ok_iff, ← hitem,
    ← forall₂_comp_iff]
  constructor
  · rintro ⟨ids, hids, cards, hcards, hreport⟩
    exact ⟨cards, ⟨ids, hids, hcards⟩, (Except.ok.inj hreport).symm⟩
  · rintro ⟨cards, ⟨ids, hids, hcards⟩, rfl⟩
    exact ⟨ids, hids, cards, hcards, rfl⟩

/-- A request fails with the first of its texts that writes no number, wherever that stands, and
without such a text with the first number that no card has. -/
theorem view_eq_error_iff :
    book.view texts = .error failure ↔
      (∃ before text behind, texts = before ++ text :: behind ∧
        (∀ other ∈ before, ∃ id, WritesCardId other id) ∧ (∀ id, ¬ WritesCardId text id) ∧
          failure = .invalidCardId (Text.trim text)) ∨
      ∃ ids, List.Forall₂ WritesCardId texts ids ∧
        ∃ before id behind, ids = before ++ id :: behind ∧
          (∀ other ∈ before, ∃ card ∈ book.catalog.deck.cards, card.id = other) ∧
            (∀ card ∈ book.catalog.deck.cards, card.id ≠ id) ∧ failure = .cardNotFound id := by
  have hlast (ids : List CardId) :
      (do
        let cards ← ids.mapM book.catalog.deck.get
        pure { cards } : Except Failure Report) = .error failure ↔
          ids.mapM book.catalog.deck.get = .error failure := by
    rw [bind_eq_error_iff, or_iff_left]
    rintro ⟨cards, -, h⟩
    cases h
  rw [view, bind_eq_error_iff]
  simp only [hlast, mapM_eq_ok_iff, mapM_eq_error_iff, readCardId_eq_ok_iff,
    readCardId_eq_error_iff, Deck.get_eq_ok_iff, Deck.get_eq_error_iff]

/-- What a request for the cards with the numbers in some texts comes to. It succeeds exactly if each
text writes the number of a card, and then reports these cards, in the order of the texts and as
often as they are asked for. Otherwise, if some text writes no number, the request fails with the
first such text, trimmed, even behind a number without a card; and if none does, with the first
number that no card has. -/
theorem view_exact (book : Encyclopedia) (texts : List Text) :
    ((∃ report, book.view texts = .ok report) ↔
        ∀ text ∈ texts, ∃ card ∈ book.catalog.deck.cards, WritesCardId text card.id) ∧
      (∀ report, book.view texts = .ok report ↔
        ∃ cards, List.Forall₂ (fun text card => card ∈ book.catalog.deck.cards ∧
          WritesCardId text card.id) texts cards ∧ report = { cards }) ∧
      ∀ failure, book.view texts = .error failure ↔
        (∃ before text behind, texts = before ++ text :: behind ∧
          (∀ other ∈ before, ∃ id, WritesCardId other id) ∧ (∀ id, ¬ WritesCardId text id) ∧
            failure = .invalidCardId (Text.trim text) ∧
              failure.message = "Api Error: Invalid card id: ".toList ++ Text.trim text) ∨
        ∃ ids, List.Forall₂ WritesCardId texts ids ∧
          ∃ before id behind, ids = before ++ id :: behind ∧
            (∀ other ∈ before, ∃ card ∈ book.catalog.deck.cards, card.id = other) ∧
              (∀ card ∈ book.catalog.deck.cards, card.id ≠ id) ∧ failure = .cardNotFound id := by
  refine ⟨?_, fun report => view_eq_ok_iff, fun failure => view_eq_error_iff.trans (or_congr ?_ .rfl)⟩
  · rw [← exists_forall₂_iff]
    constructor
    · rintro ⟨report, hreport⟩
      obtain ⟨cards, hcards, -⟩ := view_eq_ok_iff.1 hreport
      exact ⟨cards, hcards⟩
    · rintro ⟨cards, hcards⟩
      exact ⟨{ cards }, view_eq_ok_iff.2 ⟨cards, hcards, rfl⟩⟩
  · have hmessage (text : Text) : (failure = .invalidCardId (Text.trim text) ↔
        failure = .invalidCardId (Text.trim text) ∧
          failure.message = "Api Error: Invalid card id: ".toList ++ Text.trim text) :=
      ⟨fun h => ⟨h, h ▸ rfl⟩, fun h => h.1⟩
    simp only [← hmessage]

end Encyclopedia
end ReefCards
