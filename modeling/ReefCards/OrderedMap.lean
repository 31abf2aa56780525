/-!
# Maps in ascending order of their keys

A finite map kept as the list of its entries, ordered strictly by key. Two maps that answer every
look-up alike are therefore the same list. Main statements: `get?_insert` and `ext_get?`.
-/

namespace ReefCards

universe u v

variable {κ : Type u} {ν : Type v}

/-- A finite map as its entries in strictly ascending order of the keys. -/
structure OrderedMap (κ : Type u) (ν : Type v) [Ord κ] where
  entries : List (κ × ν)
  ascending : entries.Pairwise fun a b => compare a.1 b.1 = .lt
  deriving DecidableEq

namespace OrderedMap

section Entries

variable [Ord κ]

/-- The value of a key in a list of entries. -/
def find? (key : κ) : List (κ × ν) → Option ν
  | [] => none
  | entry :: rest =>
    match compare key entry.1 with
    | .eq => some entry.2
    | _ => find? key rest

/-- The ordered list with the value of `key` set: an entry with this key is replaced, and a new one
is put in its place. -/
def put (key : κ) (value : ν) : List (κ × ν) → List (κ × ν)
  | [] => [(key, value)]
  | entry :: rest =>
    match compare key entry.1 with
    | .lt => (key, value) :: entry :: rest
    | .eq => (key, value) :: rest
    | .gt => entry :: put key value rest

/-- The keys after setting one are that key and the keys from before. -/
theorem fst_of_mem_put (key : κ) (value : ν) (entries : List (κ × ν)) (entry : κ × ν)
    (h : entry ∈ put key value entries) : entry = (key, value) ∨ entry ∈ entries := by
  induction entries with
  | nil => simpa [put] using h
  | cons first rest ih =>
    unfold put at h
    split at h
    · simpa using h
    · rcases List.mem_cons.1 h with rfl | h
      · exact .inl rfl
      · exact .inr (List.mem_cons_of_mem _ h)
    · rcases List.mem_cons.1 h with rfl | h
      · exact .inr List.mem_cons_self
      · exact (ih h).imp_right (List.mem_cons_of_mem _)

/-- Setting a key keeps the entries in order. -/
theorem pairwise_put [Std.TransOrd κ] [Std.LawfulEqOrd κ] (key : κ) (value : ν)
    (entries : List (κ × ν)) (h : entries.Pairwise fun a b => compare a.1 b.1 = .lt) :
    (put key value entries).Pairwise fun a b => compare a.1 b.1 = .lt := by
  induction entries with
  | nil => simp [put]
  | cons first rest ih =>
    obtain ⟨hfirst, hrest⟩ := List.pairwise_cons.1 h
    unfold put
    split
    · next hlt =>
      refine List.pairwise_cons.2 ⟨?_, h⟩
      intro other hother
      rcases List.mem_cons.1 hother with rfl | hother
      · exact hlt
      · exact Std.TransCmp.lt_trans hlt (hfirst other hother)
    · next heq =>
      refine List.pairwise_cons.2 ⟨?_, hrest⟩
      intro other hother
      have hkey : key = first.1 := Std.compare_eq_iff_eq.1 heq
      exact hkey ▸ hfirst other hother
    · next hgt =>
      refine List.pairwise_cons.2 ⟨?_, ih hrest⟩
      intro other hother
      rcases fst_of_mem_put key value rest other hother with rfl | hother
      · exact Std.OrientedCmp.lt_of_gt hgt
      · exact hfirst other hother

/-- After setting a key its look-up gives the new value, and every other look-up is as before. -/
theorem find?_put [Std.LawfulEqOrd κ] [DecidableEq κ] (key other : κ) (value : ν)
    (entries : List (κ × ν)) :
    find? other (put key value entries) =
      if other = key then some value else find? other entries := by
  induction entries with
  | nil =>
    by_cases h : other = key
    · subst h
      simp [put, find?]
    · have hne : compare other key ≠ .eq := fun heq => h (Std.compare_eq_iff_eq.1 heq)
      simp only [put, find?, if_neg h]
  | cons first rest ih =>
    unfold put
    split
    · next hlt =>
      by_cases h : other = key
      · subst h
        simp [find?]
      · have hne : compare other key ≠ .eq := fun heq => h (Std.compare_eq_iff_eq.1 heq)
        rw [find?, if_neg h]
        split
        · next heq => exact absurd heq hne
        · rfl
    · next heq =>
      have hkey : key = first.1 := Std.compare_eq_iff_eq.1 heq
      by_cases h : other = key
      · subst h
        simp [find?]
      · have hne : compare other key ≠ .eq := fun heq => h (Std.compare_eq_iff_eq.1 heq)
        rw [if_neg h, find?, find?, ← hkey]
        split
        · next heq => exact absurd heq hne
        · rfl
    · next hgt =>
      by_cases h : other = key
      · subst h
        rw [find?, hgt, ih, if_pos rfl, if_pos rfl]
      · rw [if_neg h, find?, find?, ih, if_neg h]

/-- A key below every key of the list is not found. -/
theorem find?_eq_none_of_lt (key : κ) (entries : List (κ × ν))
    (h : ∀ entry ∈ entries, compare key entry.1 = .lt) : find? key entries = none := by
  induction entries with
  | nil => rfl
  | cons first rest ih =>
    rw [find?, h first List.mem_cons_self]
    exact ih fun entry hentry => h entry (List.mem_cons_of_mem _ hentry)

/-- The first key of a list is found with its value. -/
theorem find?_cons_self [Std.LawfulEqOrd κ] (entry : κ × ν) (rest : List (κ × ν)) :
    find? entry.1 (entry :: rest) = some entry.2 := by
  rw [find?, Std.compare_eq_iff_eq.2 rfl]

/-- Two ordered lists of entries that answer every look-up alike are the same. -/
theorem eq_of_find?_eq [Std.TransOrd κ] [Std.LawfulEqOrd κ] (left right : List (κ × ν))
    (hleft : left.Pairwise fun a b => compare a.1 b.1 = .lt)
    (hright : right.Pairwise fun a b => compare a.1 b.1 = .lt)
    (h : ∀ key, find? key left = find? key right) : left = right := by
  induction left generalizing right with
  | nil =>
    cases right with
    | nil => rfl
    | cons y ys => simpa [find?, find?_cons_self] using h y.1
  | cons x xs ih =>
    obtain ⟨hx, hxs⟩ := List.pairwise_cons.1 hleft
    cases right with
    | nil => simpa [find?, find?_cons_self] using h x.1
    | cons y ys =>
      obtain ⟨hy, hys⟩ := List.pairwise_cons.1 hright
      have hkeys : x.1 = y.1 := by
        cases hxy : compare x.1 y.1 with
        | eq => exact Std.compare_eq_iff_eq.1 hxy
        | lt =>
          have hnone : find? x.1 (y :: ys) = none :=
            find?_eq_none_of_lt x.1 (y :: ys) fun entry hentry => by
              rcases List.mem_cons.1 hentry with rfl | hentry
              · exact hxy
              · exact Std.TransCmp.lt_trans hxy (hy entry hentry)
          rw [← h x.1, find?_cons_self] at hnone
          exact absurd hnone (by simp)
        | gt =>
          have hyx : compare y.1 x.1 = .lt := Std.OrientedCmp.lt_of_gt hxy
          have hnone : find? y.1 (x :: xs) = none :=
            find?_eq_none_of_lt y.1 (x :: xs) fun entry hentry => by
              rcases List.mem_cons.1 hentry with rfl | hentry
              · exact hyx
              · exact Std.TransCmp.lt_trans hyx (hx entry hentry)
          rw [h y.1, find?_cons_self] at hnone
          exact absurd hnone (by simp)
      have hvalues : x.2 = y.2 := by
        have hfound := h x.1
        rw [find?_cons_self, hkeys, find?_cons_self] at hfound
        exact Option.some.inj hfound
      have htails : xs = ys := by
        refine ih ys hxs hys fun key => ?_
        by_cases hkey : key = x.1
        · subst hkey
          rw [find?_eq_none_of_lt x.1 xs hx,
            find?_eq_none_of_lt x.1 ys fun entry hentry => hkeys ▸ hy entry hentry]
        · have hne : compare key x.1 ≠ .eq := fun heq => hkey (Std.compare_eq_iff_eq.1 heq)
          have hfound := h key
          rw [find?, find?, ← hkeys] at hfound
          cases hcmp : compare key x.1 with
          | eq => exact absurd hcmp hne
          | lt => simpa [hcmp] using hfound
          | gt => simpa [hcmp] using hfound
      rw [Prod.ext hkeys hvalues, htails]

end Entries

variable [Ord κ]

/-- The map without entries. -/
def empty : OrderedMap κ ν := ⟨[], .nil⟩

/-- The value of a key, if the map has the key. -/
def get? (map : OrderedMap κ ν) (key : κ) : Option ν := find? key map.entries

/-- The keys in ascending order. -/
def keys (map : OrderedMap κ ν) : List κ := map.entries.map Prod.fst

/-- The empty map has no key. -/
theorem get?_empty (key : κ) : (empty : OrderedMap κ ν).get? key = none := rfl

variable [Std.TransOrd κ] [Std.LawfulEqOrd κ]

/-- The map with the value of `key` set. -/
def insert (map : OrderedMap κ ν) (key : κ) (value : ν) : OrderedMap κ ν :=
  ⟨put key value map.entries, pairwise_put key value map.entries map.ascending⟩

/-- The map of a list of entries, where a later entry replaces an earlier one with its key. -/
def ofList (entries : List (κ × ν)) : OrderedMap κ ν :=
  entries.foldl (fun map entry => map.insert entry.1 entry.2) empty

/-- A look-up in a map after setting a key. -/
theorem get?_insert [DecidableEq κ] (map : OrderedMap κ ν) (key other : κ) (value : ν) :
    (map.insert key value).get? other = if other = key then some value else map.get? other :=
  find?_put key other value map.entries

/-- Two maps that answer every look-up alike are equal. -/
theorem ext_get? (left right : OrderedMap κ ν) (h : ∀ key, left.get? key = right.get? key) :
    left = right := by
  obtain ⟨entriesLeft, ascendingLeft⟩ := left
  obtain ⟨entriesRight, ascendingRight⟩ := right
  obtain rfl : entriesLeft = entriesRight :=
    eq_of_find?_eq entriesLeft entriesRight ascendingLeft ascendingRight h
  rfl

end OrderedMap
end ReefCards
