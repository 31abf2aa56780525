import ReefCards.Text.Basic

/-!
# Slices by byte positions

A text as it is written in UTF-8: its size in bytes, the byte positions that do not stand inside a
character, and the part between two such positions. Main statements: `isBoundary_iff` and
`slice?_eq_some_iff`, a slice is the part between two others of the text, whose sizes give the
positions.
-/

namespace ReefCards.Text

/-- The number of bytes of a text. -/
def byteSize (text : Text) : Nat := (String.ofList text).utf8ByteSize

/-- Whether a byte position stands at an end of a text or between two of its characters. -/
def IsBoundary (text : Text) (position : Nat) : Prop :=
  String.Pos.Raw.IsValid (String.ofList text) ⟨position⟩

/-- Whether a position is a boundary is decided by the byte that stands there. -/
instance (text : Text) (position : Nat) : Decidable (IsBoundary text position) :=
  inferInstanceAs (Decidable (String.Pos.Raw.IsValid _ _))

/-- The place in the text at a boundary. -/
def boundary {text : Text} {position : Nat} (h : IsBoundary text position) :
    (String.ofList text).Pos :=
  (String.ofList text).pos ⟨position⟩ h

/-- The part of a text between two byte positions, or nothing if one of them is no boundary or they
stand in the other order. -/
def slice? (text : Text) (start stop : Nat) : Option Text :=
  if h : IsBoundary text start ∧ IsBoundary text stop ∧ start ≤ stop then
    some ((String.ofList text).slice (boundary h.1) (boundary h.2.1) h.2.2).copy.toList
  else none

variable {text part : Text} {position start stop : Nat}

/-- The empty text has no bytes. -/
@[simp]
theorem byteSize_nil : byteSize [] = 0 := rfl

/-- The bytes of two texts put together. -/
@[simp]
theorem byteSize_append (first second : Text) :
    byteSize (first ++ second) = byteSize first + byteSize second := by
  rw [byteSize, String.ofList_append, String.utf8ByteSize_append, byteSize, byteSize]

/-- The bytes of a text by its first character. -/
@[simp]
theorem byteSize_cons (c : Char) (rest : Text) :
    byteSize (c :: rest) = c.utf8Size + byteSize rest := by
  rw [byteSize, String.ofList_cons, String.utf8ByteSize_append, String.utf8ByteSize_singleton,
    byteSize]

/-- Only the empty text has no bytes. -/
theorem byteSize_pos_iff : 0 < byteSize text ↔ text ≠ [] := by
  cases text with
  | nil => simp
  | cons c rest => simp [Nat.add_pos_left c.utf8Size_pos]

/-- A position is a boundary if it is the size of some beginning of the text. -/
theorem isBoundary_iff :
    IsBoundary text position ↔
      ∃ before after, text = before ++ after ∧ byteSize before = position := by
  rw [IsBoundary, String.Pos.Raw.isValid_iff_exists_append]
  constructor
  · rintro ⟨before, after, htext, hposition⟩
    refine ⟨before.toList, after.toList, ?_, ?_⟩
    · rw [← String.toList_append, ← htext, String.toList_ofList]
    · rw [byteSize, String.ofList_toList]
      exact (congrArg String.Pos.Raw.byteIdx hposition).symm
  · rintro ⟨before, after, rfl, rfl⟩
    exact ⟨String.ofList before, String.ofList after, String.ofList_append, rfl⟩

/-- A boundary divides the text into a beginning of that size and the rest. -/
theorem splits_boundary_iff (h : IsBoundary text position) (before after : String) :
    (boundary h).Splits before after ↔
      text = before.toList ++ after.toList ∧ byteSize before.toList = position := by
  have hsize : byteSize before.toList = before.utf8ByteSize := by
    rw [byteSize, String.ofList_toList]
  rw [hsize, ← String.toList_append]
  constructor
  · rintro ⟨htext, hposition⟩
    exact ⟨by rw [← htext, String.toList_ofList],
      (congrArg String.Pos.Raw.byteIdx hposition).symm⟩
  · rintro ⟨rfl, rfl⟩
    exact ⟨String.ofList_toList, String.offset_pos⟩

/-- A slice is what stands between two other parts of the text, whose sizes give the positions. -/
theorem slice?_eq_some_iff :
    slice? text start stop = some part ↔
      ∃ before after, text = before ++ (part ++ after) ∧ byteSize before = start ∧
        byteSize (before ++ part) = stop := by
  constructor
  · intro h
    unfold slice? at h
    split at h
    · next hvalid =>
      have hle : boundary hvalid.1 ≤ boundary hvalid.2.1 := hvalid.2.2
      obtain ⟨before, after, hfirst, hlast⟩ := String.copy_slice_eq_iff_splits.1 ⟨hle, rfl⟩
      obtain ⟨htext, hstart⟩ := (splits_boundary_iff hvalid.1 _ _).1 hfirst
      obtain ⟨-, hstop⟩ := (splits_boundary_iff hvalid.2.1 _ _).1 hlast
      rw [String.toList_append, Option.some.inj h] at htext hstop
      exact ⟨before.toList, after.toList, htext, hstart, hstop⟩
    · simp at h
  · rintro ⟨before, after, rfl, rfl, rfl⟩
    have hstart : IsBoundary (before ++ (part ++ after)) (byteSize before) :=
      isBoundary_iff.2 ⟨before, part ++ after, rfl, rfl⟩
    have hstop : IsBoundary (before ++ (part ++ after)) (byteSize (before ++ part)) :=
      isBoundary_iff.2 ⟨before ++ part, after, (List.append_assoc _ _ _).symm, rfl⟩
    have hfirst : (boundary hstart).Splits (String.ofList before)
        (String.ofList part ++ String.ofList after) :=
      (splits_boundary_iff hstart _ _).2 (by simp)
    have hlast : (boundary hstop).Splits (String.ofList before ++ String.ofList part)
        (String.ofList after) :=
      (splits_boundary_iff hstop _ _).2 (by simp)
    obtain ⟨hle, hpart⟩ := String.copy_slice_eq_iff_splits.2 ⟨_, _, hfirst, hlast⟩
    rw [slice?, dif_pos ⟨hstart, hstop, hle⟩, hpart, String.toList_ofList]

example : slice? ['é', 'a'] 2 3 = some ['a'] := by decide

-- The second byte of the first character is no place to cut.
example : slice? ['é', 'a'] 1 3 = none := by decide

end ReefCards.Text
