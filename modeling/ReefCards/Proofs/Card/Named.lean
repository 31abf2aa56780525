import Mathlib.Data.List.Nodup
import ReefCards.Failure

/-!
# Values known by their names

Where every value of a choice is listed and no two have one name, a value is the one that its name
stands for. Main statement: `Named.exactly?_name`.
-/

namespace ReefCards

namespace Named

/-- A choice that lists all its values, each under a name of its own. -/
class Lawful (α : Type) [Named α] : Prop where
  mem_all : ∀ value : α, value ∈ (all : List α)
  nodup_names : ((all : List α).map name).Nodup

/-- The value with exactly a given name has that name. -/
theorem eq_name_of_exactly? {α : Type} [Named α] {text : Text} {value : α}
    (h : exactly? text = some value) : text = name value :=
  (by simpa using List.find?_some h : name value = text).symm

/-- A value is known by its name. -/
theorem exactly?_name {α : Type} [Named α] [Lawful α] (value : α) :
    exactly? (name value) = some value := by
  have hsome : (exactly? (name value) : Option α).isSome :=
    List.find?_isSome.2 ⟨value, Lawful.mem_all value, by simp⟩
  obtain ⟨found, hfound⟩ := Option.isSome_iff_exists.1 hsome
  have hname : name value = name found := eq_name_of_exactly? hfound
  rw [hfound, List.inj_on_of_nodup_map Lawful.nodup_names (Lawful.mem_all found)
    (Lawful.mem_all value) hname.symm]

end Named

instance : Named.Lawful Zone where
  mem_all := Zone.mem_all
  nodup_names := by decide

instance : Named.Lawful Trait where
  mem_all := Trait.mem_all
  nodup_names := by decide

instance : Named.Lawful Size where
  mem_all := Size.mem_all
  nodup_names := by decide

instance : Named.Lawful Field where
  mem_all field := by cases field <;> decide
  nodup_names := by decide

instance : Named.Lawful Setting where
  mem_all setting := by cases setting <;> decide
  nodup_names := by decide

end ReefCards
