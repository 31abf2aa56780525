import ReefCards.Proofs.Text.Columns
import ReefCards.Terminal.Layout

/-!
# Titles cut to their column

`truncate` asks with `columns` whether a title fits, but finds the place for the ellipsis with the
columns of the characters one by one. Main statements: `truncate_fits_iff`, what is shown fits
exactly if both measures leave the last column free at the same place; `truncate_fits_of_counted`,
so it is for titles without the characters that only one of them counts;
`columns_truncate_le`, any other title is too wide by at most a column for each of these.
-/

namespace ReefCards.Layout

open Text

variable {limit used : Nat} {text kept rest : Text} {next : Char}

/-- What is shown stands for the text in a column of `limit`: it is no wider than that, it is the
whole text if that fits, and otherwise a first part of it with an ellipsis. -/
structure FitsColumn (text shown : Text) (limit : Nat) : Prop where
  within : columns shown ≤ limit
  whole : columns text ≤ limit → shown = text
  shortened : limit < columns text → ∃ kept, kept <+: text ∧ shown = kept ++ ['…']

/-- A text whose characters stay within the limit is not cut. -/
theorem cut_of_le (h : used + loneColumns text ≤ limit) : cut limit used text = text := by
  induction text generalizing used with
  | nil => rfl
  | cons c rest ih =>
    rw [loneColumns_cons] at h
    rw [cut, if_neg (by omega), ih (by omega)]

/-- A text is cut before the first character that passes the limit. -/
theorem cut_append_cons (hkept : used + loneColumns kept ≤ limit)
    (hnext : limit < used + loneColumns kept + loneCharColumns next) :
    cut limit used (kept ++ next :: rest) = kept ++ ['…'] := by
  induction kept generalizing used with
  | nil =>
    rw [loneColumns_nil] at hnext
    exact if_pos hnext
  | cons c kept ih =>
    rw [loneColumns_cons] at hkept hnext
    rw [List.cons_append, cut, if_neg (by omega), ih (by omega) (by omega), List.cons_append]

/-- A text whose characters pass the limit has a first one that does. -/
theorem exists_passing (hused : used ≤ limit) (h : limit < used + loneColumns text) :
    ∃ kept next rest, text = kept ++ next :: rest ∧ used + loneColumns kept ≤ limit ∧
      limit < used + loneColumns kept + loneCharColumns next := by
  induction text generalizing used with
  | nil =>
    rw [loneColumns_nil] at h
    omega
  | cons c rest ih =>
    rw [loneColumns_cons] at h
    by_cases hc : limit < used + loneCharColumns c
    · exact ⟨[], c, rest, rfl, hused, hc⟩
    · have hused' : used + loneCharColumns c ≤ limit := by omega
      obtain ⟨kept, next, tail, rfl, hkept, hnext⟩ := ih hused' (by omega)
      refine ⟨c :: kept, next, tail, rfl, ?_, ?_⟩ <;> rw [loneColumns_cons] <;> omega

/-- A text that fits is shown whole. -/
theorem truncate_of_columns_le (h : columns text ≤ limit) : truncate text limit = text := if_pos h

/-- A text whose characters leave the last column free is shown whole, even if it does not fit. -/
theorem truncate_of_loneColumns_le (h : loneColumns text ≤ limit - 1) :
    truncate text limit = text := by
  rw [truncate, cut_of_le (by omega), ite_self]

/-- A text that does not fit is cut where its characters reach the last column. A limit of nothing
is treated as one column. -/
theorem truncate_append_cons (hwide : limit < columns (kept ++ next :: rest))
    (hkept : loneColumns kept ≤ limit - 1)
    (hnext : limit - 1 < loneColumns kept + loneCharColumns next) :
    truncate (kept ++ next :: rest) limit = kept ++ ['…'] := by
  rw [truncate, if_neg (by omega), cut_append_cons (by omega) (by omega)]

/-- All that can be shown of a text that does not fit. -/
theorem truncate_cases (hwide : limit < columns text) :
    (∃ kept next rest, text = kept ++ next :: rest ∧ loneColumns kept ≤ limit - 1 ∧
      limit - 1 < loneColumns kept + loneCharColumns next ∧
      truncate text limit = kept ++ ['…']) ∨
    (loneColumns text ≤ limit - 1 ∧ truncate text limit = text) := by
  by_cases hlone : loneColumns text ≤ limit - 1
  · exact .inr ⟨hlone, truncate_of_loneColumns_le hlone⟩
  · have hpassed : limit - 1 < 0 + loneColumns text := by omega
    obtain ⟨kept, next, rest, rfl, hkept, hnext⟩ := exists_passing (Nat.zero_le _) hpassed
    rw [Nat.zero_add] at hkept hnext
    exact .inl ⟨kept, next, rest, rfl, hkept, hnext, truncate_append_cons hwide hkept hnext⟩

/-- A text that fits may be shown whole. -/
theorem fitsColumn_self (h : columns text ≤ limit) : FitsColumn text text limit where
  within := h
  whole _ := rfl
  shortened hwide := by omega

/-- What is shown of a text that is cut fits if the part before the ellipsis leaves a column for
it. -/
theorem fitsColumn_concat_ellipsis (hwide : limit < columns text) (hpart : kept <+: text)
    (hfree : columns kept < limit) : FitsColumn text (kept ++ ['…']) limit where
  within := by
    rw [columns_concat_ellipsis]
    omega
  whole h := by omega
  shortened _ := ⟨kept, hpart, rfl⟩

/-- What is shown fits exactly if the text does, or if it is cut before a character that brings the
sum of the characters to the last column, while the text before it leaves that column free. -/
theorem truncate_fits_iff (text : Text) (limit : Nat) :
    FitsColumn text (truncate text limit) limit ↔
      (limit < columns text → ∃ kept next rest, text = kept ++ next :: rest ∧
        loneColumns kept < limit ∧ limit ≤ loneColumns kept + loneCharColumns next ∧
        columns kept < limit) := by
  constructor
  · intro hfits hwide
    -- A wide text that is shown whole is too wide, so it was cut and an ellipsis has found a place.
    have hwithin := hfits.within
    obtain ⟨kept, next, rest, htext, hkept, hnext, hshown⟩ | ⟨-, hshown⟩ := truncate_cases hwide
    · rw [hshown, columns_concat_ellipsis] at hwithin
      exact ⟨kept, next, rest, htext, by omega, by omega, by omega⟩
    · rw [hshown] at hwithin
      omega
  · intro h
    by_cases hwide : limit < columns text
    · obtain ⟨kept, next, rest, rfl, hkept, hnext, hfree⟩ := h hwide
      rw [truncate_append_cons hwide (by omega) (by omega)]
      exact fitsColumn_concat_ellipsis hwide (List.prefix_append ..) hfree
    · rw [truncate_of_columns_le (by omega)]
      exact fitsColumn_self (by omega)

/-- Two tabs take two columns, but none that the cut counts, and are shown whole in one column. -/
theorem truncate_overflows_at_tabs :
    truncate ['\t', '\t'] 1 = ['\t', '\t'] ∧ columns ['\t', '\t'] = 2 ∧
      ¬FitsColumn ['\t', '\t'] (truncate ['\t', '\t'] 1) 1 := by
  have hcolumns : columns ['\t', '\t'] = 2 := by decide +kernel
  have hshown : truncate ['\t', '\t'] 1 = ['\t', '\t'] :=
    truncate_of_loneColumns_le (by decide)
  refine ⟨hshown, hcolumns, fun hfits => ?_⟩
  have hwithin := hfits.within
  rw [hshown, hcolumns] at hwithin
  omega

/-- A text of characters that count the same alone and within a text is shown as it should be in
any column there is. -/
theorem truncate_fits_of_counted (hlimit : 0 < limit) (htext : ∀ c ∈ text, isUncounted c = false) :
    FitsColumn text (truncate text limit) limit := by
  by_cases hwide : limit < columns text
  · obtain ⟨kept, next, rest, rfl, hkept, -, hshown⟩ | ⟨hlone, -⟩ := truncate_cases hwide
    · have hcolumns : columns kept ≤ loneColumns kept :=
        columns_le_loneColumns fun c hc => htext c (List.mem_append_left _ hc)
      rw [hshown]
      exact fitsColumn_concat_ellipsis hwide (List.prefix_append ..) (by omega)
    · have hcolumns := columns_le_loneColumns htext
      omega
  · rw [truncate_of_columns_le (by omega)]
    exact fitsColumn_self (by omega)

example : truncate "Great White Shark" 8 = "Great W…" := by decide +kernel

/-- What is shown is too wide by no more than a column for each character of the text that the cut
does not count. -/
theorem columns_truncate_le (text : Text) (limit : Nat) :
    columns (truncate text limit) ≤ max 1 limit + text.countP isUncounted := by
  by_cases hwide : limit < columns text
  · obtain ⟨kept, next, rest, rfl, hkept, -, hshown⟩ | ⟨hlone, hshown⟩ := truncate_cases hwide
    · have hcolumns := columns_le_add_countP kept
      rw [hshown, columns_concat_ellipsis, List.countP_append]
      omega
    · have hcolumns := columns_le_add_countP text
      rw [hshown]
      omega
  · rw [truncate_of_columns_le (by omega)]
    omega

end ReefCards.Layout
