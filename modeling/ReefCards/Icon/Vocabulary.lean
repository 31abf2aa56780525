import ReefCards.Text.Basic

/-!
# Icon vocabularies

The icon names that a game prints. A vocabulary is the list of its distinct names in the order in
which they were first given. Main statements: `mem_ofNames` and `ofNames_names`.
-/

namespace ReefCards

/-- The names of the icons in use, each once. -/
structure Vocabulary where
  names : List Text
  nodup : names.Nodup
  deriving DecidableEq

/-- A list without its repetitions holds nothing twice. -/
theorem nodup_eraseDups (names : List Text) : names.eraseDups.Nodup := by
  induction h : names.length using Nat.strongRecOn generalizing names with
  | ind size ih =>
    cases names with
    | nil => simp
    | cons first rest =>
      rw [List.eraseDups_cons, List.nodup_cons]
      have hsize : (rest.filter fun other => !other == first).length < size := by
        have := List.length_filter_le (fun other => !other == first) rest
        simp only [List.length_cons] at h
        omega
      exact ⟨by simp, ih _ hsize _ rfl⟩

/-- A list without repetitions has none to remove. -/
theorem eraseDups_of_nodup (names : List Text) (h : names.Nodup) : names.eraseDups = names := by
  induction names with
  | nil => simp
  | cons first rest ih =>
    obtain ⟨hfirst, hrest⟩ := List.nodup_cons.1 h
    have hkeep : (rest.filter fun other => !other == first) = rest := by
      rw [List.filter_eq_self]
      intro other hother
      have : other ≠ first := fun heq => hfirst (heq ▸ hother)
      simpa using this
    rw [List.eraseDups_cons, hkeep, ih hrest]

namespace Vocabulary

/-- The vocabulary of the given names. -/
def ofNames (names : List Text) : Vocabulary := ⟨names.eraseDups, nodup_eraseDups names⟩

/-- A name belongs to a vocabulary when it is one of its names. -/
instance : Membership Text Vocabulary := ⟨fun vocabulary name => name ∈ vocabulary.names⟩

/-- Whether a name belongs to a vocabulary is decided by comparing it with every name. -/
instance (vocabulary : Vocabulary) (name : Text) : Decidable (name ∈ vocabulary) :=
  inferInstanceAs (Decidable (name ∈ vocabulary.names))

/-- The number of names. -/
def size (vocabulary : Vocabulary) : Nat := vocabulary.names.length

/-- Exactly the given names belong to the vocabulary made of them. -/
theorem mem_ofNames (names : List Text) (name : Text) : name ∈ ofNames names ↔ name ∈ names :=
  List.mem_eraseDups

/-- A vocabulary is made again from its own names. -/
theorem ofNames_names (vocabulary : Vocabulary) : ofNames vocabulary.names = vocabulary := by
  obtain ⟨names, nodup⟩ := vocabulary
  simp [ofNames, eraseDups_of_nodup names nodup]

/-- The name of the icon for points. -/
def wave : Text := "Wave"

/-- The published icons, in the order in which the game lists them. -/
def standard : Vocabulary := ofNames [
  "DrawCard", "FishEgg", "FishHatch", "YoungFish", "SchoolFeederMove", "SchoolFish",
  "FishFromHand", "ConsumeFish", "Discard", "AllPlayers", "ArrowDown", "Estuary",
  "FishLengthSmall", "FishLengthMedium", "FishLengthLarge", "FlipperBlue", "FlipperGreen",
  "FlipperPurple", "PlayFishBottomRow", "Predator", wave]

end Vocabulary
end ReefCards
