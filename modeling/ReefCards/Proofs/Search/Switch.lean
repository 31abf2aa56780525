import ReefCards.Proofs.Search.Evaluate

/-!
# Switches

A query has a switch for each value of each facet. Every switch has one position in which it holds
cards back: off for a group, a size or a zone, where it holds back the cards with its value, and on
for a trait, where it holds back the cards without it. Main statements: `Query.switch?_set`,
`Query.ext_switch?`, `Query.passes_iff_admits` and `Query.passes_set_strict`, what a query still
lets through when one more switch is put in that position.
-/

namespace ReefCards

/-- A switch of a query: a value of one of the facets. -/
inductive Switch where
  | group (group : Text)
  | size (size : Size)
  | zone (zone : Zone)
  | tag (mark : Trait)
  deriving DecidableEq, Repr

namespace Switch

/-- How a switch counts that a query does not have. -/
def missing : Switch → Bool
  | .zone _ => true
  | .group _ | .size _ | .tag _ => false

/-- The position in which a switch holds cards back. -/
def strict : Switch → Bool
  | .tag _ => true
  | .group _ | .size _ | .zone _ => false

end Switch

/-- Whether a card has the value of a switch. -/
def Card.has (card : Card) : Switch → Bool
  | .group group => card.group = group
  | .size size => card.size = size
  | .zone zone => card.occupies zone
  | .tag mark => card.hasTrait mark

namespace Query

/-- How a switch stands in the query, if it is there. -/
def switch? (query : Query) : Switch → Option Bool
  | .group group => query.groups.get? group
  | .size size => query.sizes.get? size
  | .zone zone => query.zones.get? zone
  | .tag mark => query.tags.get? mark

/-- The query with a switch set. -/
def set (query : Query) (switch : Switch) (on : Bool) : Query :=
  match switch with
  | .group group => query.withGroup group on
  | .size size => query.withSize size on
  | .zone zone => query.withZone zone on
  | .tag mark => query.withTag mark on

/-- Setting a switch leaves every other switch as it stands. -/
theorem switch?_set (query : Query) (switch other : Switch) (on : Bool) :
    (query.set switch on).switch? other =
      if other = switch then some on else query.switch? other := by
  cases switch <;> cases other <;>
    simp [set, switch?, withGroup, withSize, withZone, withTag, OrderedMap.get?_insert]

/-- Setting a switch leaves the text. -/
theorem text_set (query : Query) (switch : Switch) (on : Bool) :
    (query.set switch on).text = query.text := by
  cases switch <;> rfl

/-- Two queries with the same text in which every switch stands alike are equal. -/
theorem ext_switch? {first second : Query} (htext : first.text = second.text)
    (h : ∀ switch, first.switch? switch = second.switch? switch) : first = second := by
  obtain ⟨text, groups, sizes, zones, tags⟩ := first
  obtain rfl : text = second.text := htext
  obtain rfl : groups = second.groups := OrderedMap.ext_get? _ _ fun group => h (.group group)
  obtain rfl : sizes = second.sizes := OrderedMap.ext_get? _ _ fun size => h (.size size)
  obtain rfl : zones = second.zones := OrderedMap.ext_get? _ _ fun zone => h (.zone zone)
  obtain rfl : tags = second.tags := OrderedMap.ext_get? _ _ fun mark => h (.tag mark)
  rfl

/-- A switch admits a card unless it stands in its strict position and the card is on the other
side. -/
def Admits (query : Query) (switch : Switch) (card : Card) : Prop :=
  (query.switch? switch).getD switch.missing = switch.strict → card.has switch = switch.strict

/-- The switch of a group admits the cards of other groups, and those of the group if it is on. -/
theorem admits_group_iff (query : Query) (group : Text) (card : Card) :
    query.Admits (.group group) card ↔
      (card.group = group → query.groups.get? group = some true) := by
  rcases h : query.groups.get? group with _ | (_ | _) <;>
    simp [Admits, switch?, Switch.missing, Switch.strict, Card.has, h]

/-- The switch of a size admits the cards of other sizes, and those of the size if it is on. -/
theorem admits_size_iff (query : Query) (size : Size) (card : Card) :
    query.Admits (.size size) card ↔ (card.size = size → query.sizes.get? size = some true) := by
  rcases h : query.sizes.get? size with _ | (_ | _) <;>
    simp [Admits, switch?, Switch.missing, Switch.strict, Card.has, h]

/-- The switch of a zone admits the cards in the zone unless it is off. -/
theorem admits_zone_iff (query : Query) (zone : Zone) (card : Card) :
    query.Admits (.zone zone) card ↔
      (card.occupies zone = true → query.zones.get? zone ≠ some false) := by
  rcases h : query.zones.get? zone with _ | (_ | _) <;>
    simp [Admits, switch?, Switch.missing, Switch.strict, Card.has, h]

/-- The switch of a trait admits only the cards with the trait if it is on. -/
theorem admits_tag_iff (query : Query) (mark : Trait) (card : Card) :
    query.Admits (.tag mark) card ↔
      (query.tags.get? mark = some true → card.hasTrait mark = true) := by
  rcases h : query.tags.get? mark with _ | (_ | _) <;>
    simp [Admits, switch?, Switch.missing, Switch.strict, Card.has, h]

/-- A query lets through the cards that every switch admits. -/
theorem passes_iff_admits (query : Query) (card : Card) :
    query.passes card = true ↔ ∀ switch, query.Admits switch card := by
  simp only [passes, Bool.and_eq_true, groupAllows_iff, sizeAllows_iff, zonesAllow_iff,
    tagsAllow_iff]
  constructor
  · rintro ⟨⟨⟨hgroup, hsize⟩, hzones⟩, htags⟩ switch
    cases switch with
    | group group => exact (admits_group_iff query group card).2 fun heq => heq ▸ hgroup
    | size size => exact (admits_size_iff query size card).2 fun heq => heq ▸ hsize
    | zone zone => exact (admits_zone_iff query zone card).2 (hzones zone)
    | tag mark => exact (admits_tag_iff query mark card).2 (htags mark)
  · intro h
    exact ⟨⟨⟨(admits_group_iff query card.group card).1 (h _) rfl,
      (admits_size_iff query card.size card).1 (h _) rfl⟩,
      fun zone => (admits_zone_iff query zone card).1 (h _)⟩,
      fun mark => (admits_tag_iff query mark card).1 (h _)⟩

/-- A query with one more switch in its strict position lets through those cards of before that are
on the side of that switch. -/
theorem passes_set_strict (query : Query) (switch : Switch) (card : Card) :
    (query.set switch switch.strict).passes card =
      (query.passes card && (card.has switch == switch.strict)) := by
  have hadmits (other : Switch) : (query.set switch switch.strict).Admits other card ↔
      (if other = switch then card.has switch = switch.strict else query.Admits other card) := by
    rw [Admits, switch?_set]
    split
    · next heq => simp [heq]
    · rfl
  rw [Bool.eq_iff_iff, Bool.and_eq_true, beq_iff_eq, passes_iff_admits, passes_iff_admits]
  simp only [hadmits]
  constructor
  · intro h
    have hhas : card.has switch = switch.strict := by simpa using h switch
    refine ⟨fun other => ?_, hhas⟩
    by_cases heq : other = switch
    · exact heq ▸ fun _ => hhas
    · simpa [heq] using h other
  · rintro ⟨hpasses, hhas⟩ other
    split
    · exact hhas
    · exact hpasses other

end Query
end ReefCards
