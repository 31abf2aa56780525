import Mathlib.Data.Finset.Card
import Mathlib.Data.List.Induction
import Mathlib.Data.List.Nodup
import ReefCards.Icon.Vocabulary
import ReefCards.Proofs.OrderedMap

/-!
# Vocabularies made name by name

A vocabulary can be made in one pass over the names that keeps two things: the names in the order in
which they first come, and a set in which a name is looked up. `Lists` says what the two must be for
the names given so far; one more name keeps it, and it determines both. Main statements:
`Lists.add`, `Lists.unique` and `ofNames_agrees`.
-/

namespace ReefCards

/-- The names taken in so far: in the order in which they first came, and as a set. -/
structure Listing where
  ordered : List Text
  lookup : OrderedMap Text Unit
  deriving DecidableEq

namespace Listing

/-- Whether the set has a name. -/
def isValid (listing : Listing) (name : Text) : Bool := (listing.lookup.get? name).isSome

/-- The number of names listed. -/
def size (listing : Listing) : Nat := listing.ordered.length

/-- No names. -/
def empty : Listing := ⟨[], .empty⟩

/-- Takes in a name, which is listed only if the set does not have it yet. -/
def add (listing : Listing) (name : Text) : Listing where
  ordered := if listing.isValid name then listing.ordered else listing.ordered ++ [name]
  lookup := listing.lookup.insert name ()

/-- Takes in the names one after the other. -/
def ofNames (names : List Text) : Listing := names.foldl add empty

/-- What a listing must be for the names given so far. -/
structure Lists (given : List Text) (listing : Listing) : Prop where
  /-- What is listed first came first, so nothing is listed twice. -/
  ascending : listing.ordered.Pairwise fun first second => given.idxOf first < given.idxOf second
  mem_ordered : ∀ name, name ∈ listing.ordered ↔ name ∈ given
  isValid_iff : ∀ name, listing.isValid name = true ↔ name ∈ given

variable {given names : List Text} {listing other : Listing}

/-- A name is looked up among the keys of the set. -/
theorem isValid_iff_mem_keys (listing : Listing) (name : Text) :
    listing.isValid name = true ↔ name ∈ listing.lookup.keys := by
  rw [isValid, Option.isSome_iff_ne_none, OrderedMap.mem_keys_iff]

/-- After a name is taken in, the set has it and what it had before. -/
theorem isValid_add (listing : Listing) (name known : Text) :
    (listing.add name).isValid known = true ↔ known = name ∨ listing.isValid known = true := by
  simp only [isValid_iff_mem_keys]
  exact OrderedMap.mem_keys_insert listing.lookup name known ()

/-- The last name is taken in after the others. -/
theorem ofNames_concat (past : List Text) (name : Text) :
    ofNames (past ++ [name]) = (ofNames past).add name := by
  rw [ofNames, List.foldl_append]
  rfl

/-- Before any name is given, nothing is listed. -/
theorem lists_empty : Lists [] empty where
  ascending := .nil
  mem_ordered _ := Iff.rfl
  isValid_iff name := by simp [isValid, empty, OrderedMap.get?_empty]

/-- A name more keeps the list and the set in step with the names given. -/
theorem Lists.add (h : Lists given listing) (name : Text) :
    Lists (given ++ [name]) (listing.add name) := by
  have hvalid (known : Text) :
      (listing.add name).isValid known = true ↔ known ∈ given ++ [name] := by
    rw [isValid_add, h.isValid_iff, List.mem_append, List.mem_singleton, or_comm]
  -- The names of before keep the places where they first came.
  have hplace {known : Text} (hknown : known ∈ listing.ordered) :
      (given ++ [name]).idxOf known = given.idxOf known :=
    List.idxOf_append_of_mem ((h.mem_ordered known).1 hknown)
  have hbefore : listing.ordered.Pairwise fun first second =>
      (given ++ [name]).idxOf first < (given ++ [name]).idxOf second := by
    refine h.ascending.imp_of_mem fun hfirst hsecond hlt => ?_
    rw [hplace hfirst, hplace hsecond]
    exact hlt
  by_cases hname : name ∈ given
  · have hordered : (listing.add name).ordered = listing.ordered :=
      if_pos ((h.isValid_iff name).2 hname)
    refine ⟨hordered ▸ hbefore, fun known => ?_, hvalid⟩
    rw [hordered, h.mem_ordered, List.mem_append, List.mem_singleton]
    refine ⟨.inl, ?_⟩
    rintro (hknown | rfl)
    · exact hknown
    · exact hname
  · have hordered : (listing.add name).ordered = listing.ordered ++ [name] :=
      if_neg (mt (h.isValid_iff name).1 hname)
    refine ⟨?_, fun known => ?_, hvalid⟩
    · rw [hordered, List.pairwise_append]
      refine ⟨hbefore, List.pairwise_singleton _ _, fun first hfirst second hsecond => ?_⟩
      obtain rfl := List.mem_singleton.1 hsecond
      rw [hplace hfirst, List.idxOf_append_of_notMem hname]
      exact Nat.lt_add_right _ (List.idxOf_lt_length_of_mem ((h.mem_ordered first).1 hfirst))
    · rw [hordered, List.mem_append, List.mem_append, h.mem_ordered]

/-- One pass over the names lists them. -/
theorem lists_ofNames (names : List Text) : Lists names (ofNames names) := by
  induction names using List.reverseRecOn with
  | nil => exact lists_empty
  | append_singleton past name ih =>
    rw [ofNames_concat]
    exact ih.add name

/-- Nothing is listed twice. -/
theorem Lists.nodup (h : Lists given listing) : listing.ordered.Nodup :=
  h.ascending.imp fun hlt => ne_of_apply_ne given.idxOf (Nat.ne_of_lt hlt)

/-- The names given determine both the list and the set. -/
theorem Lists.unique (h : Lists given listing) (hother : Lists given other) : listing = other := by
  have hperm : listing.ordered.Perm other.ordered :=
    (List.perm_ext_iff_of_nodup h.nodup hother.nodup).2 fun name => by
      rw [h.mem_ordered, hother.mem_ordered]
  have hordered : listing.ordered = other.ordered :=
    hperm.eq_of_pairwise (fun _ _ _ _ hab hba => absurd hba (Nat.lt_asymm hab))
      h.ascending hother.ascending
  have hlookup : listing.lookup = other.lookup := by
    refine OrderedMap.ext_keys _ _ fun name => ?_
    rw [← isValid_iff_mem_keys, ← isValid_iff_mem_keys, h.isValid_iff, hother.isValid_iff]
  obtain ⟨ordered, lookup⟩ := listing
  obtain rfl : ordered = other.ordered := hordered
  obtain rfl : lookup = other.lookup := hlookup
  rfl

/-- A listing lists its own names, too. -/
theorem Lists.again (h : Lists given listing) : Lists listing.ordered listing where
  ascending := by
    rw [List.pairwise_iff_getElem]
    intro first second hfirst hsecond hlt
    rwa [h.nodup.idxOf_getElem first hfirst, h.nodup.idxOf_getElem second hsecond]
  mem_ordered _ := Iff.rfl
  isValid_iff name := by rw [h.isValid_iff, h.mem_ordered]

/-- What is listed is what is left of the names without repetitions. -/
theorem ordered_ofNames (names : List Text) : (ofNames names).ordered = names.eraseDups := by
  induction names using List.reverseRecOn with
  | nil => rfl
  | append_singleton past name ih =>
    have hvalid := (lists_ofNames past).isValid_iff name
    rw [ofNames_concat, add, ih, List.eraseDups_append]
    by_cases hname : name ∈ past
    · simp [hvalid.2 hname, List.removeAll, hname]
    · simp [mt hvalid.1 hname, List.removeAll, hname, List.eraseDups_cons]

/-- One pass over any names, with repetitions or not, makes a list and a set that agree: each name
is listed once, in the order in which the names first come, the set has the given names and no
others, and the size is the number of different names. From the listed names the same list and set
are made again, and they are the names of the vocabulary. -/
theorem ofNames_agrees (names : List Text) :
    (ofNames names).ordered.Nodup ∧
      (∀ name, name ∈ (ofNames names).ordered ↔ name ∈ names) ∧
      ((ofNames names).ordered.Pairwise fun first second =>
        names.idxOf first < names.idxOf second) ∧
      (∀ name, (ofNames names).isValid name = true ↔ name ∈ names) ∧
      (ofNames names).lookup.keys.Perm (ofNames names).ordered ∧
      (ofNames names).size = names.toFinset.card ∧
      ofNames (ofNames names).ordered = ofNames names ∧
      (Vocabulary.ofNames names).names = (ofNames names).ordered ∧
      (∀ name, name ∈ Vocabulary.ofNames names ↔ (ofNames names).isValid name = true) ∧
      (Vocabulary.ofNames names).size = (ofNames names).size ∧
      Vocabulary.ofNames (Vocabulary.ofNames names).names = Vocabulary.ofNames names := by
  have h := lists_ofNames names
  have hvocabulary : (Vocabulary.ofNames names).names = (ofNames names).ordered :=
    (ordered_ofNames names).symm
  refine ⟨h.nodup, h.mem_ordered, h.ascending, h.isValid_iff, ?_, ?_, ?_, hvocabulary, ?_, ?_,
    Vocabulary.ofNames_names _⟩
  · refine (List.perm_ext_iff_of_nodup (OrderedMap.nodup_keys _) h.nodup).2 fun name => ?_
    rw [← isValid_iff_mem_keys, h.isValid_iff, h.mem_ordered]
  · have hset : (ofNames names).ordered.toFinset = names.toFinset := by
      ext name
      rw [List.mem_toFinset, List.mem_toFinset, h.mem_ordered]
    rw [size, ← List.toFinset_card_of_nodup h.nodup, hset]
  · exact (lists_ofNames _).unique h.again
  · intro name
    rw [Vocabulary.mem_ofNames, h.isValid_iff]
  · rw [Vocabulary.size, hvocabulary, size]

example : (ofNames ["A", "B", "A"]).ordered = ["A", "B"] := by decide

end Listing
end ReefCards
