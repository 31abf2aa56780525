import ReefCards.Card.Named

/-!
# Facets of a card

The depth zones a card can be played in, the traits printed beside its name and the size its length
gives it. Each is a small ordered type of named values. Main statements: `Zone.mem_all`,
`Trait.mem_all` and `Size.mem_all`, the lists of values are complete.
-/

namespace ReefCards

/-- The zones of the sea, from the surface down. -/
inductive Zone where
  | sunlight
  | twilight
  | midnight
  deriving DecidableEq, Repr, Ord

/-- The special traits of a fish. -/
inductive Trait where
  | bioluminescent
  | camouflage
  | electric
  | predator
  | venomous
  deriving DecidableEq, Repr, Ord

/-- The sizes of fish. -/
inductive Size where
  | small
  | medium
  | large
  deriving DecidableEq, Repr, Ord

/-- The zones by name. -/
instance : Named Zone where
  kind := "zone"
  all := [.sunlight, .twilight, .midnight]
  name
    | .sunlight => "sunlight"
    | .twilight => "twilight"
    | .midnight => "midnight"

/-- The traits by name. -/
instance : Named Trait where
  kind := "trait"
  all := [.bioluminescent, .camouflage, .electric, .predator, .venomous]
  name
    | .bioluminescent => "Bioluminescent"
    | .camouflage => "Camouflage"
    | .electric => "Electric"
    | .predator => "Predator"
    | .venomous => "Venomous"

/-- The sizes by name. -/
instance : Named Size where
  kind := "size"
  all := [.small, .medium, .large]
  name
    | .small => "small"
    | .medium => "medium"
    | .large => "large"

/-- Comparing zones is a linear order. -/
instance : Std.TransOrd Zone where
  eq_swap {a b} := by cases a <;> cases b <;> rfl
  isLE_trans {a b c} := by cases a <;> cases b <;> cases c <;> decide

/-- Zones that compare equal are equal. -/
instance : Std.LawfulEqOrd Zone where
  compare_self {a} := by cases a <;> rfl
  eq_of_compare {a b} := by cases a <;> cases b <;> decide

/-- Comparing traits is a linear order. -/
instance : Std.TransOrd Trait where
  eq_swap {a b} := by cases a <;> cases b <;> rfl
  isLE_trans {a b c} := by cases a <;> cases b <;> cases c <;> decide

/-- Traits that compare equal are equal. -/
instance : Std.LawfulEqOrd Trait where
  compare_self {a} := by cases a <;> rfl
  eq_of_compare {a b} := by cases a <;> cases b <;> decide

/-- Comparing sizes is a linear order. -/
instance : Std.TransOrd Size where
  eq_swap {a b} := by cases a <;> cases b <;> rfl
  isLE_trans {a b c} := by cases a <;> cases b <;> cases c <;> decide

/-- Sizes that compare equal are equal. -/
instance : Std.LawfulEqOrd Size where
  compare_self {a} := by cases a <;> rfl
  eq_of_compare {a b} := by cases a <;> cases b <;> decide

/-- The size of a fish of this length in centimetres: small below 50 and large from 150 on. -/
def Size.ofLength (length : Float) : Size :=
  if length < 50 then .small else if length < 150 then .medium else .large

/-- Every zone is in the list of zones. -/
theorem Zone.mem_all (zone : Zone) : zone ∈ (Named.all : List Zone) := by
  cases zone <;> decide

/-- Every trait is in the list of traits. -/
theorem Trait.mem_all (mark : Trait) : mark ∈ (Named.all : List Trait) := by
  cases mark <;> decide

/-- Every size is in the list of sizes. -/
theorem Size.mem_all (size : Size) : size ∈ (Named.all : List Size) := by
  cases size <;> decide

end ReefCards
