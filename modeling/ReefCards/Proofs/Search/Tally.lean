import ReefCards.Proofs.Search.Switch
import Mathlib.Data.List.Count

/-!
# What a tally says

The number that a tally gives a switch is the number of its cards that have the value of the switch.
So the tally of the results of a query says how many results are left when one more switch is put in
its strict position. Main statements: `Tally.number_add`, what one card does to a tally,
`Tally.number_ofCards` and `Catalog.tally_foretells_switches`.
-/

namespace ReefCards
namespace Tally

section Count

variable {κ : Type} [Ord κ] [Std.TransOrd κ] [Std.LawfulEqOrd κ] [DecidableEq κ]

/-- Counting a key raises its number by one and leaves the other numbers. -/
theorem get?_count (counts : OrderedMap κ Nat) (key other : κ) :
    ((count counts key).get? other).getD 0 =
      (counts.get? other).getD 0 + if key = other then 1 else 0 := by
  rw [count, OrderedMap.get?_insert]
  by_cases h : key = other
  · simp [h]
  · simp [h, Ne.symm h]

/-- Counting a list of keys raises each number by the occurrences of its key in the list. -/
theorem get?_foldl_count (counts : OrderedMap κ Nat) (keys : List κ) (other : κ) :
    ((keys.foldl count counts).get? other).getD 0 =
      (counts.get? other).getD 0 + keys.count other := by
  induction keys generalizing counts with
  | nil => rfl
  | cons key rest ih =>
    rw [List.foldl_cons, ih, get?_count, List.count_cons]
    simp only [beq_iff_eq]
    omega

end Count

/-- The number that a tally gives the value of a switch; zero if the value does not appear. -/
def number (tally : Tally) : Switch → Nat
  | .group group => (tally.groups.get? group).getD 0
  | .size size => (tally.sizes.get? size).getD 0
  | .zone zone => (tally.zones.get? zone).getD 0
  | .tag mark => (tally.traits.get? mark).getD 0

/-- A value that a list without repetitions has occurs once among those that are kept. -/
theorem count_filter_of_nodup {κ : Type} [DecidableEq κ] {values : List κ} (hvalues : values.Nodup)
    {value : κ} (hvalue : value ∈ values) (keep : κ → Bool) :
    (values.filter keep).count value = if keep value then 1 else 0 := by
  split
  · next h => rw [List.count_filter h, List.count_eq_one_of_mem hvalues hvalue]
  · next h => exact List.count_eq_zero.2 fun hmem => h (List.of_mem_filter hmem)

/-- A card raises the numbers of the values it has by one. -/
theorem number_add (tally : Tally) (card : Card) (switch : Switch) :
    (tally.add card).number switch = tally.number switch + if card.has switch then 1 else 0 := by
  cases switch with
  | group group => simpa [Card.has, number, add] using get?_count tally.groups card.group group
  | size size => simpa [Card.has, number, add] using get?_count tally.sizes card.size size
  | zone zone =>
    refine (get?_foldl_count tally.zones _ zone).trans (congrArg _ ?_)
    exact count_filter_of_nodup (by decide) (Zone.mem_all zone) _
  | tag mark =>
    refine (get?_foldl_count tally.traits _ mark).trans (congrArg _ ?_)
    exact count_filter_of_nodup (by decide) (Trait.mem_all mark) _

/-- The last card is counted after the others. -/
theorem ofCards_concat (cards : List Card) (card : Card) :
    ofCards (cards ++ [card]) = (ofCards cards).add card := by
  rw [ofCards, List.foldl_append]
  rfl

/-- A tally counts each card. -/
theorem total_ofCards (cards : List Card) : (ofCards cards).total = cards.length := by
  induction cards using List.reverseRecOn with
  | nil => rfl
  | append_singleton past card ih =>
    rw [ofCards_concat, List.length_append, List.length_singleton, ← ih]
    rfl

/-- The number of a value is that of the cards which have it. -/
theorem number_ofCards (cards : List Card) (switch : Switch) :
    (ofCards cards).number switch = cards.countP (·.has switch) := by
  induction cards using List.reverseRecOn with
  | nil => cases switch <;> rfl
  | append_singleton past card ih =>
    rw [ofCards_concat, number_add, ih, List.countP_append, List.countP_singleton]

end Tally

namespace Deck

variable {deck : Deck}

/-- A card of a deck is found by its number. -/
theorem find?_id {card : Card} (hcard : card ∈ deck.cards) : deck.find? card.id = some card := by
  cases hfound : deck.find? card.id with
  | none => exact absurd (List.find?_eq_none.1 hfound card hcard) (by simp)
  | some other =>
    have hid : other.id = card.id := by simpa using List.find?_some hfound
    rw [eq_of_id_eq (List.mem_of_find?_eq_some hfound) hcard hid]

/-- The numbers of cards of a deck lead back to these cards. -/
theorem filterMap_find?_id {cards : List Card} (h : ∀ card ∈ cards, card ∈ deck.cards) :
    (cards.map Card.id).filterMap deck.find? = cards := by
  rw [List.filterMap_map]
  calc cards.filterMap (deck.find? ∘ Card.id)
      = cards.filterMap some := List.filterMap_congr fun card hcard => find?_id (h card hcard)
    _ = cards := List.filterMap_some

end Deck

namespace Catalog

/-- The cards that a query asks for. -/
def wanted (catalog : Catalog) (query : Query) : List Card :=
  catalog.deck.cards.filter fun card =>
    (catalog.searchIds query.text).contains card.id && query.passes card

/-- Evaluating a query gives the numbers of the cards that it asks for. -/
theorem evaluate_eq_map (catalog : Catalog) (query : Query) :
    catalog.evaluate query = (catalog.wanted query).map Card.id := rfl

/-- The results of a query lead back to the cards that it asks for. -/
theorem filterMap_find?_evaluate (catalog : Catalog) (query : Query) :
    (catalog.evaluate query).filterMap catalog.deck.find? = catalog.wanted query :=
  Deck.filterMap_find?_id fun _ hcard => List.mem_of_mem_filter hcard

/-- The results of a query are tallied as the cards that it asks for. -/
theorem tally_evaluate (catalog : Catalog) (query : Query) :
    catalog.deck.tally (catalog.evaluate query) = .ofCards (catalog.wanted query) := by
  rw [Deck.tally, filterMap_find?_evaluate]

/-- With one more switch in its strict position, a query asks for those cards of before that are on
the side of that switch. -/
theorem wanted_set_strict (catalog : Catalog) (query : Query) (switch : Switch) :
    catalog.wanted (query.set switch switch.strict) =
      (catalog.wanted query).filter (·.has switch == switch.strict) := by
  simp only [wanted, Query.text_set, Query.passes_set_strict, List.filter_filter]
  refine List.filter_congr fun card _ => ?_
  rw [← Bool.and_assoc, Bool.and_comm]

/-- With one more switch in its strict position, as many results are left as there were on the side of
that switch. -/
theorem length_evaluate_set_strict (catalog : Catalog) (query : Query) (switch : Switch) :
    (catalog.evaluate (query.set switch switch.strict)).length =
      (catalog.wanted query).countP (·.has switch == switch.strict) := by
  rw [evaluate_eq_map, List.length_map, wanted_set_strict, List.countP_eq_length_filter]

/-- Switching off a group, a size or a zone takes as many results away as have that value. -/
theorem length_evaluate_set_off (catalog : Catalog) (query : Query) (switch : Switch)
    (hstrict : switch.strict = false) :
    (catalog.evaluate (query.set switch false)).length +
      (catalog.deck.tally (catalog.evaluate query)).number switch =
        (catalog.evaluate query).length := by
  have hleft := length_evaluate_set_strict catalog query switch
  rw [hstrict] at hleft
  rw [tally_evaluate, Tally.number_ofCards, hleft, evaluate_eq_map, List.length_map, Nat.add_comm]
  simpa using (List.length_eq_countP_add_countP fun card : Card => card.has switch).symm

/-- Requiring a trait leaves as many results as have the trait. -/
theorem length_evaluate_set_on (catalog : Catalog) (query : Query) (switch : Switch)
    (hstrict : switch.strict = true) :
    (catalog.evaluate (query.set switch true)).length =
      (catalog.deck.tally (catalog.evaluate query)).number switch := by
  have hleft := length_evaluate_set_strict catalog query switch
  rw [hstrict] at hleft
  rw [tally_evaluate, Tally.number_ofCards, hleft]
  simp

/-- The tally of the results of a query foretells its switches. It counts every result; switching
off a group, a size or a zone takes as many results away as the tally gives it, and requiring a
trait leaves as many results as the tally gives that. -/
theorem tally_foretells_switches (catalog : Catalog) (query : Query) :
    let results := catalog.evaluate query
    let tally := catalog.deck.tally results
    tally.total = results.length ∧
      (∀ group, (catalog.evaluate (query.withGroup group false)).length +
        (tally.groups.get? group).getD 0 = results.length) ∧
      (∀ size, (catalog.evaluate (query.withSize size false)).length +
        (tally.sizes.get? size).getD 0 = results.length) ∧
      (∀ zone, (catalog.evaluate (query.withZone zone false)).length +
        (tally.zones.get? zone).getD 0 = results.length) ∧
      ∀ mark, (catalog.evaluate (query.withTag mark true)).length =
        (tally.traits.get? mark).getD 0 := by
  intro results tally
  refine ⟨?_, fun group => ?_, fun size => ?_, fun zone => ?_, fun mark => ?_⟩
  · simp only [tally, results, tally_evaluate, Tally.total_ofCards, evaluate_eq_map,
      List.length_map]
  · exact length_evaluate_set_off catalog query (.group group) rfl
  · exact length_evaluate_set_off catalog query (.size size) rfl
  · exact length_evaluate_set_off catalog query (.zone zone) rfl
  · exact length_evaluate_set_on catalog query (.tag mark) rfl

end Catalog
end ReefCards
