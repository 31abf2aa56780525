import ReefCards.Proofs.SearchBox.Run

/-!
# What a backspace takes away

A backspace cuts a piece out of the text right before the cursor and leaves all else in place: a
complete token where one ends there, and otherwise a single character. It reckons with the cursor
within the text, and takes no more than stands before it. Main statement: `backspace_deletesBack`,
for any text and cursor and for every search box that a user can reach.
-/

namespace ReefCards

variable {text : Text} {cursor : Nat}

/-- Whether a text is a complete token: brackets around something that is not empty and holds no
bracket. -/
def IsCompleteToken (token : Text) : Prop :=
  ∃ name, name ≠ [] ∧ '[' ∉ name ∧ ']' ∉ name ∧ token = bracketed name

/-- A complete token is not empty. -/
theorem IsCompleteToken.ne_nil {token : Text} (h : IsCompleteToken token) : token ≠ [] := by
  obtain ⟨name, -, -, -, rfl⟩ := h
  simp [bracketed]

/-- The text and the cursor that are left when the characters between a new cursor and the old one
are deleted, and which characters these may be. The old cursor stands within the text. -/
structure DeletesBack (text : Text) (cursor : Nat) (after : Text × Nat) : Prop where
  /-- At the start of the text there is nothing to delete. -/
  at_start : cursor = 0 → after = (text, 0)
  cursor_lt : cursor ≠ 0 → after.2 < cursor
  /-- The new cursor is the old one less the number of deleted characters. -/
  cursor_eq : after.2 + ((text.take cursor).drop after.2).length = cursor
  text_eq : after.1 = text.take after.2 ++ text.drop cursor
  deleted : cursor ≠ 0 → ((text.take cursor).drop after.2).length = 1 ∨
    IsCompleteToken ((text.take cursor).drop after.2)
  /-- A whole token is deleted exactly where one ends at the cursor. -/
  isCompleteToken_iff : IsCompleteToken ((text.take cursor).drop after.2) ↔
    ∃ token, IsCompleteToken token ∧ token <:+ text.take cursor

/-- The text before a trailing token, as the text that is left without it. -/
theorem beforeTrailingToken?_eq_some_iff_append {kept : Text} :
    beforeTrailingToken? text = some kept ↔
      ∃ token, IsCompleteToken token ∧ text = kept ++ token := by
  rw [beforeTrailingToken?_eq_some_iff]
  constructor
  · rintro ⟨name, hname, hopen, hclose, rfl⟩
    exact ⟨bracketed name, ⟨name, hname, hopen, hclose, rfl⟩, rfl⟩
  · rintro ⟨token, ⟨name, hname, hopen, hclose, rfl⟩, rfl⟩
    exact ⟨name, hname, hopen, hclose, rfl⟩

/-- What stands before the cursor is cut in two: a backspace keeps the first part and takes the
second, which is a complete token if one ends there, and else the last character if there is
one. -/
theorem backspace_cases (text : Text) (cursor : Nat) :
    ∃ kept taken, text.take cursor = kept ++ taken ∧
      backspace text cursor = (kept ++ text.drop cursor, kept.length) ∧
      (IsCompleteToken taken ∨ taken = (text.take cursor).getLast?.toList ∧
        ¬ ∃ token, IsCompleteToken token ∧ token <:+ text.take cursor) := by
  cases h : beforeTrailingToken? (text.take cursor) with
  | some kept =>
    obtain ⟨token, htoken, htake⟩ := beforeTrailingToken?_eq_some_iff_append.1 h
    exact ⟨kept, token, htake, by simp [backspace, h], .inl htoken⟩
  | none =>
    have hends : ¬ ∃ token, IsCompleteToken token ∧ token <:+ text.take cursor := by
      rintro ⟨token, htoken, kept, hkept⟩
      have hsome := beforeTrailingToken?_eq_some_iff_append.2 ⟨token, htoken, hkept.symm⟩
      exact absurd (h.symm.trans hsome) (by simp)
    refine ⟨(text.take cursor).dropLast, _, ?_, by simp [backspace, h], .inr ⟨rfl, hends⟩⟩
    cases hlast : (text.take cursor).getLast? with
    | none => simp [List.getLast?_eq_none_iff.1 hlast]
    | some c => exact (List.dropLast_append_getLast? c hlast).symm

/-- With the cursor within the text, a backspace deletes back from it. -/
theorem deletesBack_backspace (h : cursor ≤ text.length) :
    DeletesBack text cursor (backspace text cursor) := by
  obtain ⟨kept, taken, htake, hback, htaken⟩ := backspace_cases text cursor
  have hlength : kept.length + taken.length = cursor := by
    rw [← List.length_append, ← htake, List.length_take, Nat.min_eq_left h]
  have hdeleted : (text.take cursor).drop kept.length = taken := by rw [htake, List.drop_left]
  have hkept : text.take kept.length = kept := by
    rw [← List.take_append_drop cursor text, htake, List.append_assoc, List.take_left]
  -- Away from the start, a character is there to be taken where no token is.
  have hone : cursor ≠ 0 → taken.length = 1 ∨ IsCompleteToken taken := by
    intro hcursor
    rcases htaken with htoken | ⟨rfl, -⟩
    · exact .inr htoken
    · left
      have hne : text.take cursor ≠ [] := by
        rw [← List.length_pos_iff, List.length_take, Nat.min_eq_left h]
        exact Nat.pos_of_ne_zero hcursor
      rw [List.getLast?_eq_getLast_of_ne_nil hne]
      rfl
  rw [hback]
  constructor
  case at_start =>
    rintro rfl
    obtain ⟨rfl, rfl⟩ := List.append_eq_nil_iff.1 htake.symm
    rfl
  case cursor_lt =>
    intro hcursor
    have hpos : 0 < taken.length := by
      rcases hone hcursor with hsingle | htoken
      · omega
      · exact List.length_pos_of_ne_nil htoken.ne_nil
    show kept.length < cursor
    omega
  case cursor_eq => rw [hdeleted, hlength]
  case text_eq => rw [hkept]
  case deleted => rwa [hdeleted]
  case isCompleteToken_iff =>
    rw [hdeleted]
    constructor
    · exact fun htoken => ⟨taken, htoken, kept, htake.symm⟩
    · intro hends
      rcases htaken with htoken | ⟨-, hnone⟩
      · exact htoken
      · exact absurd hends hnone

/-- A cursor behind the end of the text counts as one at the end. -/
theorem backspace_min (text : Text) (cursor : Nat) :
    backspace text (min cursor text.length) = backspace text cursor := by
  rcases Nat.le_total cursor text.length with h | h
  · rw [Nat.min_eq_left h]
  · rw [Nat.min_eq_right h, backspace, backspace, List.take_length, List.drop_length,
      List.take_of_length_le h, List.drop_of_length_le h]

/-- A backspace deletes back from the cursor, or from the end of the text if the cursor lies behind
it. In every search box that a user can reach the cursor stands within the text, and a backspace
deletes back from right there. -/
theorem backspace_deletesBack :
    (∀ text cursor, DeletesBack text (min cursor text.length) (backspace text cursor)) ∧
      ∀ vocabulary edits, let box := (SearchBox.empty vocabulary).run edits
        box.cursor ≤ box.text.length ∧
          DeletesBack box.text box.cursor (box.deleteBack.text, box.deleteBack.cursor) := by
  constructor
  · intro text cursor
    rw [← backspace_min]
    exact deletesBack_backspace (Nat.min_le_right _ _)
  · intro vocabulary edits box
    exact ⟨box.cursor_le_length, deletesBack_backspace box.cursor_le_length⟩

/-- Right behind a token all of it goes, and within one a single character. -/
example :
    backspace "a[Wave][Egg]" 7 = ("a[Egg]".toList, 1) ∧
      backspace "a[Wave][Egg]" 4 = ("a[Wve][Egg]".toList, 3) := by
  decide

end ReefCards
