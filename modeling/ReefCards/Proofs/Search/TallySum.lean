import Mathlib.Algebra.GroupWithZero.Nat
import ReefCards.Proofs.Search.Tally

/-!
# Tallies add up

A tally is told by its numbers: that of the cards, and for each value of a facet that of the cards
which have it, where a value that no card has does not appear. So the tally of two lists one after
the other has the sums of their numbers, and the order of a list does not count. Main statements:
`OrderedMap.sum_put`, what setting an entry does to the sum of a map, `Tally.ext_number?`,
`Tally.number?_ofCards` and `Tally.additive_of_lookup`.
-/

namespace ReefCards

namespace OrderedMap

variable {κ : Type} [Ord κ]

/-- The sum of the numbers in a map. -/
def sum (counts : OrderedMap κ Nat) : Nat := (counts.entries.map Prod.snd).sum

/-- Setting an entry adds the new number to the sum and takes away the one that it replaces. -/
theorem sum_put [Std.TransOrd κ] (key : κ) (value : Nat) (entries : List (κ × Nat))
    (h : entries.Pairwise fun a b => compare a.1 b.1 = .lt) :
    ((put key value entries).map Prod.snd).sum + (find? key entries).getD 0 =
      (entries.map Prod.snd).sum + value := by
  induction entries with
  | nil => simp [put, find?]
  | cons first rest ih =>
    obtain ⟨hfirst, hrest⟩ := List.pairwise_cons.1 h
    cases hcompare : compare key first.1 with
    | lt =>
      have habsent : find? key (first :: rest) = none := by
        refine find?_eq_none_of_lt key (first :: rest) fun entry hentry => ?_
        rcases List.mem_cons.1 hentry with rfl | hentry
        · exact hcompare
        · exact Std.TransCmp.lt_trans hcompare (hfirst entry hentry)
      simp only [put, hcompare, habsent, List.map_cons, List.sum_cons, Option.getD_none]
      omega
    | eq =>
      simp only [put, find?, hcompare, List.map_cons, List.sum_cons, Option.getD_some]
      omega
    | gt =>
      simp only [put, find?, hcompare, List.map_cons, List.sum_cons]
      have := ih hrest
      omega

end OrderedMap

namespace Tally

section Count

variable {κ : Type} [Ord κ] [Std.TransOrd κ] [Std.LawfulEqOrd κ]

/-- Counting a key raises the sum of all numbers by one. -/
theorem sum_count (counts : OrderedMap κ Nat) (key : κ) :
    (count counts key).sum = counts.sum + 1 := by
  have hput := OrderedMap.sum_put key ((counts.get? key).getD 0 + 1) counts.entries counts.ascending
  have hsum : (count counts key).sum =
      ((OrderedMap.put key ((counts.get? key).getD 0 + 1) counts.entries).map Prod.snd).sum := rfl
  rw [OrderedMap.get?] at hput hsum
  rw [hsum, OrderedMap.sum]
  omega

variable [DecidableEq κ]

/-- Counting a key leaves no number that is zero. -/
theorem get?_count_ne_zero {counts : OrderedMap κ Nat} (h : ∀ other, counts.get? other ≠ some 0)
    (key other : κ) : (count counts key).get? other ≠ some 0 := by
  rw [count, OrderedMap.get?_insert]
  split
  · simp
  · exact h other

/-- Counting a list of keys leaves no number that is zero. -/
theorem get?_foldl_count_ne_zero {counts : OrderedMap κ Nat}
    (h : ∀ other, counts.get? other ≠ some 0) (keys : List κ) (other : κ) :
    (keys.foldl count counts).get? other ≠ some 0 := by
  induction keys generalizing counts with
  | nil => exact h other
  | cons key rest ih => exact ih (get?_count_ne_zero h key)

end Count

/-- The number that a tally gives the value of a switch, if the value appears. -/
def number? (tally : Tally) : Switch → Option Nat
  | .group group => tally.groups.get? group
  | .size size => tally.sizes.get? size
  | .zone zone => tally.zones.get? zone
  | .tag mark => tally.traits.get? mark

/-- A value that does not appear has the number zero. -/
theorem number_eq (tally : Tally) (switch : Switch) :
    tally.number switch = (tally.number? switch).getD 0 := by
  cases switch <;> rfl

/-- Two tallies of as many cards with the same numbers are equal. -/
theorem ext_number? {first second : Tally} (htotal : first.total = second.total)
    (h : ∀ switch, first.number? switch = second.number? switch) : first = second := by
  obtain ⟨total, groups, sizes, zones, traits⟩ := first
  obtain rfl : total = second.total := htotal
  obtain rfl : groups = second.groups := OrderedMap.ext_get? _ _ fun group => h (.group group)
  obtain rfl : sizes = second.sizes := OrderedMap.ext_get? _ _ fun size => h (.size size)
  obtain rfl : zones = second.zones := OrderedMap.ext_get? _ _ fun zone => h (.zone zone)
  obtain rfl : traits = second.traits := OrderedMap.ext_get? _ _ fun mark => h (.tag mark)
  rfl

/-- Counting a card leaves no number that is zero. -/
theorem number?_add_ne_zero {tally : Tally} (h : ∀ switch, tally.number? switch ≠ some 0)
    (card : Card) (switch : Switch) : (tally.add card).number? switch ≠ some 0 := by
  cases switch with
  | group group => exact get?_count_ne_zero (fun other => h (.group other)) card.group group
  | size size => exact get?_count_ne_zero (fun other => h (.size other)) card.size size
  | zone zone => exact get?_foldl_count_ne_zero (fun other => h (.zone other)) _ zone
  | tag mark => exact get?_foldl_count_ne_zero (fun other => h (.tag other)) _ mark

/-- No number of a tally is zero. -/
theorem number?_ofCards_ne_zero (cards : List Card) (switch : Switch) :
    (ofCards cards).number? switch ≠ some 0 := by
  induction cards using List.reverseRecOn generalizing switch with
  | nil => cases switch <;> exact nofun
  | append_singleton past card ih =>
    rw [ofCards_concat]
    exact number?_add_ne_zero ih card switch

/-- The number of a value is that of the cards which have it, and the value does not appear if there
are none. -/
theorem number?_ofCards (cards : List Card) (switch : Switch) :
    (ofCards cards).number? switch =
      if cards.countP (·.has switch) = 0 then none else some (cards.countP (·.has switch)) := by
  have hnumber := number_ofCards cards switch
  rw [number_eq] at hnumber
  cases hfound : (ofCards cards).number? switch with
  | none =>
    rw [hfound, Option.getD_none] at hnumber
    rw [if_pos hnumber.symm]
  | some number =>
    rw [hfound, Option.getD_some] at hnumber
    have hne : cards.countP (·.has switch) ≠ 0 := by
      rw [← hnumber]
      rintro rfl
      exact number?_ofCards_ne_zero cards switch hfound
    rw [if_neg hne, hnumber]

/-- The numbers of two lists of cards one after the other are the sums of their numbers. -/
theorem number?_ofCards_append (first second : List Card) (switch : Switch) :
    (ofCards (first ++ second)).number? switch =
      Option.merge (· + ·) ((ofCards first).number? switch) ((ofCards second).number? switch) := by
  simp only [number?_ofCards, List.countP_append]
  by_cases hfirst : first.countP (·.has switch) = 0
  · by_cases hsecond : second.countP (·.has switch) = 0 <;> simp [hfirst, hsecond]
  · by_cases hsecond : second.countP (·.has switch) = 0 <;> simp [hfirst, hsecond]

/-- The order of the cards does not count. -/
theorem ofCards_perm {first second : List Card} (h : first.Perm second) :
    ofCards first = ofCards second := by
  refine ext_number? ?_ fun switch => ?_
  · rw [total_ofCards, total_ofCards, h.length_eq]
  · rw [number?_ofCards, number?_ofCards, h.countP_eq]

/-- Each card has one group and one size, so the numbers of the groups add up to that of the cards,
and so do those of the sizes. -/
theorem sum_ofCards (cards : List Card) :
    (ofCards cards).groups.sum = cards.length ∧ (ofCards cards).sizes.sum = cards.length := by
  induction cards using List.reverseRecOn with
  | nil => exact ⟨rfl, rfl⟩
  | append_singleton past card ih =>
    obtain ⟨hgroups, hsizes⟩ := ih
    rw [ofCards_concat, List.length_append, List.length_singleton, add, sum_count, sum_count,
      hgroups, hsizes]
    exact ⟨rfl, rfl⟩

/-- The cards that a look-up finds and that have a property are counted over the listed numbers. -/
theorem countP_filterMap_lookup (find? : CardId → Option Card) (has : Card → Bool)
    (ids : List CardId) :
    (ids.filterMap find?).countP has = ids.countP fun id => (find? id).any has := by
  rw [List.countP_filterMap]
  refine List.countP_congr fun id _ => ?_
  cases find? id <;> rfl

/-- Tallies of listed cards add up, by whichever map from card numbers to cards. The tally of two
lists one after the other has the sums of their numbers, and the order of a list does not count. The
total is how many items of the list lead to a card, which is also the sum over the groups and that
over the sizes; each zone and each trait has the number of those whose card has it, and no number
that appears is zero. -/
theorem additive_of_lookup (find? : CardId → Option Card) (first second : List CardId) :
    let tally : List CardId → Tally := fun ids => ofCards (ids.filterMap find?)
    (∀ deck : Deck, deck.find? = find? → deck.tally = tally) ∧
      ((tally (first ++ second)).total = (tally first).total + (tally second).total ∧
        ∀ switch, (tally (first ++ second)).number? switch =
          Option.merge (· + ·) ((tally first).number? switch) ((tally second).number? switch)) ∧
      (first.Perm second → tally first = tally second) ∧
      ((tally first).total = first.countP (fun id => (find? id).isSome) ∧
        (tally first).groups.sum = (tally first).total ∧
        (tally first).sizes.sum = (tally first).total) ∧
      (∀ zone, ((tally first).zones.get? zone).getD 0 =
        first.countP fun id => (find? id).any (·.occupies zone)) ∧
      (∀ mark, ((tally first).traits.get? mark).getD 0 =
        first.countP fun id => (find? id).any (·.hasTrait mark)) ∧
      ∀ switch, (tally first).number? switch ≠ some 0 := by
  intro tally
  have htotal (ids : List CardId) : (tally ids).total = (ids.filterMap find?).length :=
    total_ofCards _
  obtain ⟨hgroups, hsizes⟩ := sum_ofCards (first.filterMap find?)
  refine ⟨?_, ⟨?_, fun switch => ?_⟩, fun hperm => ?_, ⟨?_, ?_, ?_⟩, fun zone => ?_, fun mark => ?_,
    number?_ofCards_ne_zero _⟩
  · rintro deck rfl
    rfl
  · rw [htotal, htotal, htotal, List.filterMap_append, List.length_append]
  · simp only [tally, List.filterMap_append]
    exact number?_ofCards_append _ _ switch
  · exact ofCards_perm (hperm.filterMap find?)
  · rw [htotal, List.length_filterMap_eq_countP]
  · rw [htotal, hgroups]
  · rw [htotal, hsizes]
  · exact (number_ofCards _ (.zone zone)).trans (countP_filterMap_lookup find? _ first)
  · exact (number_ofCards _ (.tag mark)).trans (countP_filterMap_lookup find? _ first)

end Tally
end ReefCards
