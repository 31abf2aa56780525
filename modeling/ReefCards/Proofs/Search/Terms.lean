import ReefCards.Proofs.Search.Evaluate
import ReefCards.Proofs.Text.FinalSigma
import ReefCards.Proofs.Text.Words

/-!
# Words that are found and words that are lost

The words of a search text are put into lowercase each by itself, and those of a document together.
A word that stands in a document is found all the same. A beginning of one need not be: what a user
has typed so far may end in a final sigma where the word in the document goes on with another one.
Main statements: `search_append_subset_iff`, which says when typing on can only narrow a search,
and `mem_search_of_own_words`.
-/

namespace ReefCards.Index

variable {text more : Text} {id : CardId}

/-- A text whose words all occur in a longer text finds all that the longer text finds. -/
theorem search_subset_of_infix {longer : Text}
    (h : ∀ word ∈ Text.words text, Text.lowercase word <:+: Text.lowercase longer)
    (documents : List Document) :
    (ofDocuments documents).search longer ⊆ (ofDocuments documents).search text := by
  intro id hid
  rw [mem_search_ofDocuments] at hid ⊢
  obtain ⟨document, hdocument, hfound, hlonger⟩ := hid
  refine ⟨document, hdocument, hfound, ?_⟩
  intro word hword
  obtain ⟨other, hother, hinfix⟩ := (Text.lowercase_infix_iff hword longer).1 (h word hword)
  exact hinfix.trans (hlonger other hother)

/-- A document is found by a text that it consists of. -/
theorem mem_search_self (id : CardId) (text : Text) :
    id ∈ (ofDocuments [⟨id, text⟩]).search text := by
  rw [mem_search_ofDocuments]
  refine ⟨⟨id, text⟩, List.mem_singleton_self _, rfl, ?_⟩
  intro word hword
  exact Text.lowercase_infix_of_mem_words hword

/-- Typing on finds nothing, in any documents, that was not found before, exactly if the text does
not lose a final sigma by it, or if its last word occurs all the same, in lowercase as by itself,
in the longer text. -/
theorem search_append_subset_iff (text more : Text) :
    (∀ documents, (ofDocuments documents).search (text ++ more) ⊆
        (ofDocuments documents).search text) ↔
      (Text.LosesFinalSigma text more → ∀ word, (Text.words text).getLast? = some word →
        Text.lowercase word <:+: Text.lowercase (text ++ more)) := by
  constructor
  · intro hsubset _ word hlast
    -- The longer text, as a document, is found by itself, so by the shorter one too.
    have hfound := hsubset [⟨0, text ++ more⟩] (mem_search_self 0 (text ++ more))
    rw [mem_search_ofDocuments] at hfound
    obtain ⟨document, hdocument, -, hwords⟩ := hfound
    obtain rfl := List.mem_singleton.1 hdocument
    exact hwords word (List.mem_of_getLast? hlast)
  · intro hlast documents
    refine search_subset_of_infix ?_ documents
    intro word hword
    rcases Text.lowercase_infix_append_or_getLast? hword more with hinfix | hgetLast
    · exact hinfix
    · by_cases hsigma : Text.LosesFinalSigma text more
      · exact hlast hsigma word hgetLast
      · have hprefix := (Text.lowercase_prefix_append_iff text more).2 hsigma
        exact (Text.lowercase_infix_of_mem_words hword).trans hprefix.isInfix

/-- A word that was found is lost when typing on shows that its sigma is not final: the text that
ends in the middle of the only word of a document does not find it, and the whole word does. -/
theorem search_loses_final_sigma :
    let index := ofDocuments [⟨1, "ΟΣΑ"⟩]
    index.search ("ΟΣ".toList ++ "Α".toList) = [1] ∧ index.search "ΟΣ" = [] ∧
      ¬ index.search ("ΟΣ".toList ++ "Α".toList) ⊆ index.search "ΟΣ" := by
  intro index
  have hlonger : index.search ("ΟΣ".toList ++ "Α".toList) = [1] := by decide +kernel
  have hshorter : index.search "ΟΣ" = [] := by decide +kernel
  refine ⟨hlonger, hshorter, ?_⟩
  rw [hlonger, hshorter]
  simp

/-- A card is found by its own words: by any text whose words are all words of its indexed fields,
in whichever order, from whichever of the fields, and with whichever blanks between them. -/
theorem mem_search_of_own_words (fields : List Field) (cards : List Card) (card : Card)
    (hcard : card ∈ cards) (text : Text)
    (hwords : ∀ word ∈ Text.words text, ∃ field ∈ fields, word ∈ Text.words (field.read card)) :
    card.id ∈ (ofCards fields cards).search text := by
  rw [mem_search_ofCards]
  refine ⟨card, hcard, rfl, ?_⟩
  intro word hword
  obtain ⟨field, hfield, hmem⟩ := hwords word hword
  exact ⟨field, hfield, Text.lowercase_infix_of_mem_words hmem⟩

/-- Three words of two fields, one of them twice, with an ideographic space and a tab between them:
alone the first ends in a final sigma, as it does in the name of the card. -/
theorem mem_search_of_own_words_greek :
    let card : Card := { id := 7, name := "ΜΕΓΑΣ ΚΑΡΧΑΡΙΑΣ", latin := "Carcharodon İSTANBUL" }
    let cards : List Card := [{ id := 3, name := "ΜΕΓΑ" }, card]
    let text : Text := "ΚΑΡΧΑΡΙΑΣ\u3000İSTANBUL\tΜΕΓΑΣ  ΚΑΡΧΑΡΙΑΣ "
    card ∈ cards ∧
      (∀ word ∈ Text.words text, ∃ field ∈ Field.standard, word ∈ Text.words (field.read card)) ∧
      7 ∈ (ofCards Field.standard cards).search text := by
  intro card cards text
  have hcard : card ∈ cards := List.mem_cons_of_mem _ (List.mem_singleton_self card)
  have hwords : ∀ word ∈ Text.words text,
      ∃ field ∈ Field.standard, word ∈ Text.words (field.read card) := by
    decide +kernel
  exact ⟨hcard, hwords, mem_search_of_own_words Field.standard cards card hcard text hwords⟩

end ReefCards.Index
