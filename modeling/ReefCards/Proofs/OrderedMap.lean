import ReefCards.OrderedMap
import Mathlib.Data.List.Induction

/-!
# Keys and entries of ordered maps

A map has a key when the look-up of the key finds a value, and it is the map of its own entries.
Main statements: `mem_keys_iff`, `mem_keys_ofList` and `ofList_entries`.
-/

namespace ReefCards.OrderedMap

variable {κ ν : Type} [Ord κ]

/-- A key above all others gets its entry at the end. -/
theorem put_of_lt [Std.OrientedOrd κ] (key : κ) (value : ν) (entries : List (κ × ν))
    (h : ∀ entry ∈ entries, compare entry.1 key = .lt) :
    put key value entries = entries ++ [(key, value)] := by
  induction entries with
  | nil => rfl
  | cons first rest ih =>
    have hgt : compare key first.1 = .gt :=
      Std.OrientedCmp.gt_of_lt (h first List.mem_cons_self)
    simp only [put, hgt, List.cons_append]
    rw [ih fun entry hentry => h entry (List.mem_cons_of_mem _ hentry)]

variable [Std.LawfulEqOrd κ]

/-- A key is not found exactly when no entry has it. -/
theorem find?_eq_none_iff (key : κ) (entries : List (κ × ν)) :
    find? key entries = none ↔ key ∉ entries.map Prod.fst := by
  induction entries with
  | nil => simp [find?]
  | cons first rest ih =>
    rw [find?, List.map_cons, List.mem_cons, not_or]
    split
    · next heq => simp [Std.compare_eq_iff_eq.1 heq]
    · next hne =>
      have hkey : key ≠ first.1 := fun heq => hne (Std.compare_eq_iff_eq.2 heq)
      simp [ih, hkey]

/-- A map has the keys whose look-up finds a value. -/
theorem mem_keys_iff (map : OrderedMap κ ν) (key : κ) : key ∈ map.keys ↔ map.get? key ≠ none := by
  rw [get?, ne_eq, find?_eq_none_iff, keys]
  exact Classical.not_not.symm

/-- No key occurs twice in a map. -/
theorem nodup_keys (map : OrderedMap κ ν) : map.keys.Nodup := by
  refine List.pairwise_map.2 (map.ascending.imp fun {first second} hlt heq => ?_)
  rw [heq, Std.compare_eq_iff_eq.2 rfl] at hlt
  exact absurd hlt (by simp)

variable [Std.TransOrd κ]

/-- The last entry of a list is set after the others. -/
theorem ofList_concat (entries : List (κ × ν)) (entry : κ × ν) :
    ofList (entries ++ [entry]) = (ofList entries).insert entry.1 entry.2 := by
  rw [ofList, List.foldl_append]
  rfl

/-- Ascending entries are the entries of their map. -/
theorem entries_ofList (entries : List (κ × ν))
    (h : entries.Pairwise fun a b => compare a.1 b.1 = .lt) :
    (ofList entries).entries = entries := by
  induction entries using List.reverseRecOn with
  | nil => rfl
  | append_singleton past last ih =>
    obtain ⟨hpast, -, hlast⟩ := List.pairwise_append.1 h
    have hbelow : ∀ entry ∈ past, compare entry.1 last.1 = .lt :=
      fun entry hentry => hlast entry hentry last (List.mem_singleton_self last)
    calc (ofList (past ++ [last])).entries
        = put last.1 last.2 (ofList past).entries := by rw [ofList_concat]; rfl
      _ = put last.1 last.2 past := by rw [ih hpast]
      _ = past ++ [last] := put_of_lt last.1 last.2 past hbelow

/-- A map is the map of its entries. -/
theorem ofList_entries (map : OrderedMap κ ν) : ofList map.entries = map := by
  obtain ⟨entries, hentries⟩ := map
  have h : (ofList entries).entries = entries := entries_ofList entries hentries
  cases hmap : ofList entries with
  | mk other hother =>
    rw [hmap] at h
    obtain rfl : other = entries := h
    rfl

/-- Two maps that only tell whether a key is there are equal if they have the same keys. -/
theorem ext_keys (left right : OrderedMap κ Unit) (h : ∀ key, key ∈ left.keys ↔ key ∈ right.keys) :
    left = right := by
  refine ext_get? left right fun key => ?_
  have hfound : left.get? key ≠ none ↔ right.get? key ≠ none := by
    rw [← mem_keys_iff, ← mem_keys_iff]
    exact h key
  cases hleft : left.get? key with
  | none => exact (Classical.not_not.1 (mt hfound.2 (not_not_intro hleft))).symm
  | some _ =>
    obtain ⟨_, hright⟩ := Option.ne_none_iff_exists'.1 (hfound.1 (by simp [hleft]))
    exact hright.symm

variable [DecidableEq κ]

/-- Setting a key adds that key. -/
theorem mem_keys_insert (map : OrderedMap κ ν) (key other : κ) (value : ν) :
    other ∈ (map.insert key value).keys ↔ other = key ∨ other ∈ map.keys := by
  rw [mem_keys_iff, mem_keys_iff, get?_insert]
  by_cases h : other = key <;> simp [h]

/-- The map of a list of entries has the keys of the entries. -/
theorem mem_keys_ofList (entries : List (κ × ν)) (key : κ) :
    key ∈ (ofList entries).keys ↔ key ∈ entries.map Prod.fst := by
  have hfold (map : OrderedMap κ ν) :
      key ∈ (entries.foldl (fun map entry => map.insert entry.1 entry.2) map).keys ↔
        key ∈ map.keys ∨ key ∈ entries.map Prod.fst := by
    induction entries generalizing map with
    | nil => simp
    | cons first rest ih =>
      rw [List.foldl_cons, ih, mem_keys_insert, List.map_cons, List.mem_cons, or_assoc,
        or_left_comm]
  rw [ofList, hfold]
  simp [keys, empty]

/-- The map that gives each of some keys its value has these keys alone. -/
theorem get?_ofList_map (keys : List κ) (value : κ → ν) (key : κ) :
    (ofList (keys.map fun key => (key, value key))).get? key =
      if key ∈ keys then some (value key) else none := by
  induction keys using List.reverseRecOn with
  | nil => rfl
  | append_singleton past last ih =>
    rw [List.map_append, List.map_singleton, ofList_concat, get?_insert, ih]
    by_cases h : key = last
    · simp [h]
    · simp [h]

end ReefCards.OrderedMap
