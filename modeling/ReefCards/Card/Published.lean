import ReefCards.Card.Deck

/-!
# The published cards

The twelve cards of the published game, in the order of their numbers.
-/

namespace ReefCards

/-- The Clownfish. -/
def clownfish : Card where
  id := 1
  group := "starter"
  name := "Clownfish"
  latin := "Amphiprion ocellaris"
  description := "Lives among the tentacles of sea anemones, protected by a mucus coat."
  length := 11
  points := some 2
  eggCost := 1
  sunlight := 1
  abilityKind := some .whenPlayed
  ability := "Lay 1 [FishEgg] on this card."

/-- The Lanternfish. -/
def lanternfish : Card where
  id := 2
  group := "starter"
  name := "Lanternfish"
  latin := "Myctophum punctatum"
  description := "Rows of photophores along its belly hide its silhouette from below."
  length := 8
  points := some 1
  twilight := 1
  midnight := 1
  bioluminescent := 1
  abilityKind := some .ifActivated
  ability := "[DrawCard] + [Discard]"

/-- The Great White Shark. -/
def greatWhiteShark : Card where
  id := 3
  group := "main"
  name := "Great White Shark"
  latin := "Carcharodon carcharias"
  description := "The largest predatory fish on Earth."
  length := 600
  points := some 9
  cardCost := 1
  consuming := 2
  sunlight := 1
  twilight := 1
  predator := 1
  abilityKind := some .whenPlayed
  ability := "[Predator] Eat 1 [SchoolFish] from the [Estuary], then gain 2 [Wave]"

/-- The Anglerfish. -/
def anglerfish : Card where
  id := 4
  group := "main"
  name := "Anglerfish"
  latin := "Melanocetus johnsonii"
  description := "A glowing lure dangles above its jaws."
  length := 18
  points := some 4
  youngCost := 1
  midnight := 2
  bioluminescent := 1
  predator := 1
  abilityKind := some .ifActivated
  ability := "[ConsumeFish] a fish in this row: 3 [Wave]"

/-- The Electric Eel. -/
def electricEel : Card where
  id := 5
  group := "main"
  name := "Electric Eel"
  latin := "Electrophorus electricus"
  description := "Can discharge up to 860 volts."
  length := 250
  points := some 6
  eggCost := 2
  twilight := 1
  electric := 2
  abilityKind := some .ifActivated
  ability := "[AllPlayers] [Discard] 1 card"

/-- The Leafy Seadragon. -/
def leafySeadragon : Card where
  id := 6
  group := "main"
  name := "Leafy Seadragon"
  latin := "Phycodurus eques"
  description := "Leaf-like appendages let it vanish into kelp."
  length := 35
  points := some 5
  cardCost := 1
  sunlight := 1
  camouflage := 1
  abilityKind := some .gameEnd
  ability := "1 [Wave] for each [YoungFish] in the [Estuary]"

/-- The Stonefish. -/
def stonefish : Card where
  id := 7
  group := "main"
  name := "Stonefish"
  latin := "Synanceia verrucosa"
  description := "The most venomous fish known."
  length := 40
  points := some 4
  eggCost := 1
  youngCost := 1
  sunlight := 1
  camouflage := 1
  venomous := 1
  abilityKind := some .whenPlayed
  ability := "[FishFromHand] + [PlayFishBottomRow]"

/-- The Giant Oarfish. -/
def giantOarfish : Card where
  id := 8
  group := "main"
  name := "Giant Oarfish"
  latin := "Regalecus glesne"
  description := "The longest bony fish alive, rarely seen at the surface."
  length := 800
  points := some 8
  cardCost := 2
  twilight := 1
  midnight := 1
  abilityKind := some .gameEnd
  ability := "2 [Wave] per [FishLengthLarge] card you have"

/-- The Atlantic Herring. -/
def atlanticHerring : Card where
  id := 9
  group := "main"
  name := "Atlantic Herring"
  latin := "Clupea harengus"
  description := "Travels in schools of millions."
  length := 30
  points := some 1
  sunlight := 1
  abilityKind := some .whenPlayed
  ability := "[SchoolFeederMove] Move 1 [SchoolFish] to this card"

/-- The Vampire Squid. -/
def vampireSquid : Card where
  id := 10
  group := "main"
  name := "Vampire Squid"
  latin := "Vampyroteuthis infernalis"
  description := "Not a squid at all, it turns itself inside out when threatened."
  length := 30
  points := some 3
  eggCost := 1
  midnight := 1
  bioluminescent := 1
  abilityKind := some .ifActivated
  ability := "[FishHatch] a [FishEgg] in this row (or [ArrowDown] one row)"

/-- The Blue Marlin. -/
def blueMarlin : Card where
  id := 11
  group := "main"
  name := "Blue Marlin"
  latin := "Makaira nigricans"
  description := "One of the fastest fish in the ocean."
  length := 430
  points := some 7
  cardCost := 1
  consuming := 1
  sunlight := 1
  predator := 1
  abilityKind := some .whenPlayed
  ability := "[FlipperBlue] + [FlipperGreen] + [FlipperPurple]"

/-- The Pufferfish. -/
def pufferfish : Card where
  id := 12
  group := "main"
  name := "Pufferfish"
  latin := "Takifugu rubripes"
  description := "Inflates to several times its size when threatened."
  length := 45
  points := some 3
  eggCost := 1
  sunlight := 1
  twilight := 1
  venomous := 1
  abilityKind := some .gameEnd
  ability := "[FishLengthSmall] cards here are worth 1 [Wave] more"

/-- The published cards in the order of their numbers. -/
def publishedCards : List Card :=
  [clownfish, lanternfish, greatWhiteShark, anglerfish, electricEel,
    leafySeadragon, stonefish, giantOarfish, atlanticHerring, vampireSquid,
    blueMarlin, pufferfish]

/-- The deck of the published cards. -/
def publishedDeck : Deck where
  cards := publishedCards
  ascending := by decide

end ReefCards
