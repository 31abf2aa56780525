import ReefCards.Encyclopedia
import ReefCards.Proofs.SearchBox.Token

/-!
# What the sanitizer removes

`sanitize` and `Piece.ofText` read the same text for the same tokens. Removing tokens brings their
neighbours together, and `ofText_sanitize` says that no new token arises there: the pieces of a
sanitized text are the known pieces of the text it came from. Because a text is decided once its
last bracket is, sanitizing may also be done bit by bit, as `sanitize_sanitize_append` says.
-/

namespace ReefCards

namespace Piece

/-- Puts a piece before pieces, as one run where both are text. -/
def push : Piece → List Piece → List Piece
  | .text run, .text next :: rest => .text (run ++ next) :: rest
  | piece, rest => piece :: rest

/-- The pieces with neighbouring runs of text as a single run. -/
def merge (pieces : List Piece) : List Piece := pieces.foldr push []

/-- Every run of text is known. -/
@[simp]
theorem isKnown_text (vocabulary : Vocabulary) (run : Text) :
    isKnown vocabulary (.text run) = true := rfl

/-- An icon is known when its name is in the vocabulary. -/
@[simp]
theorem isKnown_icon (vocabulary : Vocabulary) (name : Text) :
    isKnown vocabulary (.icon name) = decide (name ∈ vocabulary) := rfl

/-- A character is put before pieces as a run of its own. -/
theorem pushChar_eq_push (c : Char) (pieces : List Piece) :
    pushChar c pieces = push (.text [c]) pieces := by
  rcases pieces with _ | ⟨_ | _, _⟩ <;> rfl

/-- Runs put before pieces one after the other might as well be put there together. -/
theorem push_push_text (first second : Text) (pieces : List Piece) :
    push (.text first) (push (.text second) pieces) = push (.text (first ++ second)) pieces := by
  rcases pieces with _ | ⟨_ | _, _⟩ <;> simp [push]

/-- A piece before others comes first in the merged pieces. -/
theorem merge_cons (piece : Piece) (pieces : List Piece) :
    merge (piece :: pieces) = push piece (merge pieces) := rfl

/-- An icon stays apart from the pieces that it is put before. -/
theorem push_icon (name : Text) (pieces : List Piece) :
    push (.icon name) pieces = .icon name :: pieces := rfl

/-- The characters of pieces with a character put before them. -/
theorem flatMap_toText_pushChar (c : Char) (pieces : List Piece) :
    (pushChar c pieces).flatMap toText = c :: pieces.flatMap toText := by
  rcases pieces with _ | ⟨_ | _, _⟩ <;> simp [pushChar, toText]

/-- The pieces of a text hold all its characters in their order. -/
theorem flatMap_toText_ofText (text : Text) : (ofText text).flatMap toText = text := by
  induction text using token_induction with
  | nil => simp [ofText]
  | token name after hname hclose ih =>
    rw [ofText_bracketed_append hname hclose, List.flatMap_cons, ih]
    rfl
  | char c rest hnone ih => rw [ofText_cons hnone, flatMap_toText_pushChar, ih]

/-- A character put before pieces is among the known ones, next to the first that is known. -/
theorem filter_isKnown_pushChar (vocabulary : Vocabulary) (c : Char) (pieces : List Piece) :
    (pushChar c pieces).filter (isKnown vocabulary) =
        pushChar c (pieces.filter (isKnown vocabulary)) ∨
      (pushChar c pieces).filter (isKnown vocabulary) =
        .text [c] :: pieces.filter (isKnown vocabulary) := by
  rcases pieces with _ | ⟨run | name, rest⟩
  · exact .inl rfl
  · left
    rw [pushChar, List.filter_cons_of_pos rfl, List.filter_cons_of_pos rfl]
    rfl
  · right
    rw [pushChar, List.filter_cons_of_pos rfl]
    simp

/-- A character put before pieces comes first in the merged pieces. -/
theorem merge_pushChar (c : Char) (pieces : List Piece) :
    merge (pushChar c pieces) = pushChar c (merge pieces) := by
  rcases pieces with _ | ⟨run | name, rest⟩
  · rfl
  · rw [pushChar, merge_cons, merge_cons, pushChar_eq_push, push_push_text]
    rfl
  · rw [pushChar_eq_push c (merge _)]
    rfl

/-- Merging leaves the icons as they are. -/
theorem icon_mem_merge (name : Text) (pieces : List Piece) :
    .icon name ∈ merge pieces ↔ .icon name ∈ pieces := by
  have hpush (piece : Piece) (rest : List Piece) :
      .icon name ∈ push piece rest ↔ .icon name = piece ∨ .icon name ∈ rest := by
    rcases piece with _ | _ <;> rcases rest with _ | ⟨_ | _, _⟩ <;> simp [push]
  induction pieces with
  | nil => simp [merge]
  | cons piece rest ih =>
    rw [merge_cons, hpush, List.mem_cons]
    exact or_congr_right ih

end Piece

variable {vocabulary : Vocabulary}

/-- A sanitized text is made of the known pieces of the text it came from. -/
theorem sanitize_eq_flatMap (text : Text) :
    sanitize vocabulary text =
      ((Piece.ofText text).filter (Piece.isKnown vocabulary)).flatMap Piece.toText := by
  induction text using token_induction with
  | nil => simp [Piece.ofText]
  | token name after hname hclose ih =>
    rw [sanitize_bracketed_append hname hclose, Piece.ofText_bracketed_append hname hclose, ih]
    by_cases hmem : name ∈ vocabulary <;> simp [Piece.toText, hmem]
  | char c rest hnone ih =>
    rw [sanitize_cons hnone, Piece.ofText_cons hnone, ih]
    rcases Piece.filter_isKnown_pushChar vocabulary c (Piece.ofText rest) with h | h
    · rw [h, Piece.flatMap_toText_pushChar]
    · rw [h, List.flatMap_cons]
      rfl

/-- A text without closing brackets has no tokens to lose. -/
theorem sanitize_eq_self_of_not_mem {text : Text} (h : ']' ∉ text) :
    sanitize vocabulary text = text := by
  induction text with
  | nil => exact sanitize_nil
  | cons c rest ih =>
    have hrest : ']' ∉ rest := fun hmem => h (List.mem_cons_of_mem _ hmem)
    rw [sanitize_cons (token?_eq_none_of_not_mem h), ih hrest]

/-- A character that begins no token begins none either once the rest is sanitized. -/
theorem token?_cons_sanitize {c : Char} {rest : Text} (h : token? (c :: rest) = none) :
    token? (c :: sanitize vocabulary rest) = none := by
  rw [token?_cons_eq_none_iff] at h ⊢
  -- A closing bracket right after the character stays there, and where there is none at all the
  -- sanitizer has nothing to remove.
  rcases h with hc | ⟨behind, rfl⟩ | hmem
  · exact .inl hc
  · exact .inr (.inl ⟨_, sanitize_cons (token?_cons_of_ne (by decide) behind)⟩)
  · exact .inr (.inr (by rwa [sanitize_eq_self_of_not_mem hmem]))

/-- The pieces of a sanitized text are the known pieces of the text it came from. -/
theorem ofText_sanitize (text : Text) :
    Piece.ofText (sanitize vocabulary text) =
      Piece.merge ((Piece.ofText text).filter (Piece.isKnown vocabulary)) := by
  induction text using token_induction with
  | nil => simp [Piece.ofText, Piece.merge]
  | token name after hname hclose ih =>
    rw [sanitize_bracketed_append hname hclose, Piece.ofText_bracketed_append hname hclose]
    by_cases hmem : name ∈ vocabulary
    · rw [if_pos hmem, Piece.ofText_bracketed_append hname hclose, ih,
        List.filter_cons_of_pos (by simpa using hmem), Piece.merge_cons, Piece.push_icon]
    · rw [if_neg hmem, List.nil_append, ih,
        List.filter_cons_of_neg (by simpa using hmem)]
  | char c rest hnone ih =>
    -- The character begins no token afterwards either, and joins the first known piece or a run of
    -- its own; merging makes no difference between the two.
    rw [sanitize_cons hnone, Piece.ofText_cons (token?_cons_sanitize hnone), ih,
      Piece.ofText_cons hnone]
    rcases Piece.filter_isKnown_pushChar vocabulary c (Piece.ofText rest) with h | h
    · rw [h, Piece.merge_pushChar]
    · rw [h, Piece.merge_cons, Piece.pushChar_eq_push]

/-- A text loses nothing to the sanitizer exactly when its icons are all in the vocabulary. -/
theorem sanitize_eq_self_iff (text : Text) :
    sanitize vocabulary text = text ↔
      ∀ name, .icon name ∈ Piece.ofText text → name ∈ vocabulary := by
  constructor
  · intro h name hicon
    rw [← h, ofText_sanitize, Piece.icon_mem_merge, List.mem_filter] at hicon
    simpa using hicon.2
  · intro h
    have hknown : (Piece.ofText text).filter (Piece.isKnown vocabulary) = Piece.ofText text := by
      rw [List.filter_eq_self]
      rintro (run | name) hpiece
      · rfl
      · simpa using h name hpiece
    rw [sanitize_eq_flatMap, hknown, Piece.flatMap_toText_ofText]

/-- What is typed after a text may be sanitized together with the sanitized text. -/
theorem sanitize_sanitize_append (first second : Text) :
    sanitize vocabulary (sanitize vocabulary first ++ second) =
      sanitize vocabulary (first ++ second) := by
  induction first using token_induction with
  | nil => simp
  | token name after hname hclose ih =>
    rw [sanitize_bracketed_append hname hclose, List.append_assoc, List.append_assoc,
      sanitize_bracketed_append hname hclose, ← ih]
    by_cases hmem : name ∈ vocabulary
    · rw [if_pos hmem, sanitize_bracketed_append hname hclose, if_pos hmem]
    · rw [if_neg hmem, List.nil_append, List.nil_append]
  | char c rest hnone ih =>
    -- Only an opening bracket that is not yet closed can become a token through the second text.
    by_cases hc : c = '['
    · subst hc
      rcases token?_cons_eq_none_iff.1 hnone with hne | ⟨behind, rfl⟩ | hmem
      · exact absurd rfl hne
      · have hclose (tail : Text) : sanitize vocabulary (']' :: tail) =
            ']' :: sanitize vocabulary tail := sanitize_cons (token?_cons_of_ne (by decide) tail)
        rw [hclose, List.cons_append, List.cons_append] at ih
        rw [sanitize_cons hnone, hclose, List.cons_append, List.cons_append, List.cons_append,
          List.cons_append, sanitize_cons (token?_empty_brackets _), ih,
          sanitize_cons (token?_empty_brackets _)]
      · have hself : sanitize vocabulary ('[' :: rest) = '[' :: rest :=
          sanitize_eq_self_of_not_mem (by simpa using hmem)
        rw [hself]
    · rw [sanitize_cons hnone, List.cons_append, List.cons_append,
        sanitize_cons (token?_cons_of_ne hc _), ih, sanitize_cons (token?_cons_of_ne hc _)]

/-- A sanitized text has nothing more to lose. -/
theorem sanitize_sanitize (text : Text) :
    sanitize vocabulary (sanitize vocabulary text) = sanitize vocabulary text := by
  simpa using sanitize_sanitize_append text []

/-- The sanitizer removes from what is shown exactly the icons outside the vocabulary: a text is
made of its pieces, the sanitized text is made of those among them that are known, and it is shown
as these with neighbouring runs of text as one. The report on a text warns unless nothing went. -/
theorem sanitize_removes_unknown_icons (vocabulary : Vocabulary) (catalog : Catalog)
    (text : Text) :
    Piece.ofText (sanitize vocabulary text) =
        Piece.merge ((Piece.ofText text).filter (Piece.isKnown vocabulary)) ∧
      (Piece.ofText text).flatMap Piece.toText = text ∧
      sanitize vocabulary text =
        ((Piece.ofText text).filter (Piece.isKnown vocabulary)).flatMap Piece.toText ∧
      (sanitize vocabulary text = text ↔
        ∀ name, .icon name ∈ Piece.ofText text → name ∈ vocabulary) ∧
      (sanitize vocabulary text = text ↔
        (Encyclopedia.sanitize { catalog, vocabulary } text).notices = []) := by
  refine ⟨ofText_sanitize text, Piece.flatMap_toText_ofText text, sanitize_eq_flatMap text,
    sanitize_eq_self_iff text, ?_⟩
  by_cases h : sanitize vocabulary text = text <;> simp [Encyclopedia.sanitize, h]

namespace SearchBox

/-- Types a character at the end of the content, as an edit. -/
def typeChar (box : SearchBox) (c : Char) : SearchBox := box.edit (box.text ++ [c])

/-- Contents that are the same once sanitized make the same box. -/
theorem edit_congr (box : SearchBox) {first second : Text}
    (h : sanitize box.vocabulary first = sanitize box.vocabulary second) :
    box.edit first = box.edit second := by
  simp only [edit, h]

/-- Characters typed one by one after an edit make the box that one edit makes of the whole. -/
theorem foldl_typeChar_edit (box : SearchBox) (first second : Text) :
    second.foldl typeChar (box.edit first) = box.edit (first ++ second) := by
  induction second generalizing first with
  | nil => simp
  | cons c rest ih =>
    have hstep : (box.edit first).typeChar c = box.edit (first ++ [c]) :=
      edit_congr box (sanitize_sanitize_append first [c])
    rw [List.foldl_cons, hstep, ih, List.append_assoc, List.singleton_append]

/-- A new box is one whose content was just removed. -/
theorem edit_nil_empty (vocabulary : Vocabulary) :
    (empty vocabulary).edit [] = empty vocabulary := by
  simp [edit, empty]

/-- A text may be sanitized bit by bit: sanitized so far and continued, it ends up as if it were
sanitized as a whole. So sanitizing twice is sanitizing once, and a text typed character by
character, each with the content so far, makes the same search box as the text pasted whole. -/
theorem incremental_sanitize (vocabulary : Vocabulary) (first second : Text) :
    sanitize vocabulary (sanitize vocabulary first ++ second) =
        sanitize vocabulary (first ++ second) ∧
      sanitize vocabulary (sanitize vocabulary first) = sanitize vocabulary first ∧
      first.foldl typeChar (empty vocabulary) = (empty vocabulary).edit first ∧
      second.foldl typeChar ((empty vocabulary).edit first) =
        (empty vocabulary).edit (first ++ second) := by
  refine ⟨sanitize_sanitize_append first second, sanitize_sanitize first, ?_,
    foldl_typeChar_edit (empty vocabulary) first second⟩
  simpa [edit_nil_empty] using foldl_typeChar_edit (empty vocabulary) [] first

end SearchBox
end ReefCards
