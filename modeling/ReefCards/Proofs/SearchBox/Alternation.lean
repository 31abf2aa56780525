import ReefCards.Proofs.SearchBox.Sanitize
import Mathlib.Data.List.Chain

/-!
# Runs of text and icons in turn

How a search text is shown. Its pieces hold all its characters; between two icons there is one run
of text or none, and the reader leaves no token in a run: a token that stands in a run would begin
one in the text as well, at the same character. Main statements: `holdsToken_cons_iff`,
`Piece.wellShown_of_mem_ofText`, `Piece.isChain_ofText` and `Piece.ofText_alternates`.
-/

namespace ReefCards

variable {name rest text : Text} {c : Char}

/-- Whether a complete token stands in a text: a name between brackets, which is not empty and holds
no closing bracket. -/
def HoldsToken (text : Text) : Prop := ∃ name, name ≠ [] ∧ ']' ∉ name ∧ bracketed name <:+: text

/-- The empty text holds no token. -/
theorem not_holdsToken_nil : ¬ HoldsToken [] := by
  rintro ⟨name, -, -, hname⟩
  simp [bracketed] at hname

/-- A text holds a token if it begins with one, or if the text after its first character holds
one. -/
theorem holdsToken_cons_iff :
    HoldsToken (c :: rest) ↔ token? (c :: rest) ≠ none ∨ HoldsToken rest := by
  have hbegins : token? (c :: rest) ≠ none ↔
      ∃ name, name ≠ [] ∧ ']' ∉ name ∧ bracketed name <+: c :: rest := by
    rw [Option.ne_none_iff_exists']
    constructor
    · rintro ⟨⟨name, after⟩, htoken⟩
      obtain ⟨hname, hclose, htext⟩ := token?_eq_some_iff.1 htoken
      exact ⟨name, hname, hclose, after, htext.symm⟩
    · rintro ⟨name, hname, hclose, after, htext⟩
      exact ⟨(name, after), token?_eq_some_iff.2 ⟨hname, hclose, htext.symm⟩⟩
  rw [hbegins]
  constructor
  · rintro ⟨name, hname, hclose, hinfix⟩
    obtain hprefix | hinfix := List.infix_cons_iff.1 hinfix
    · exact .inl ⟨name, hname, hclose, hprefix⟩
    · exact .inr ⟨name, hname, hclose, hinfix⟩
  · rintro (⟨name, hname, hclose, hprefix⟩ | ⟨name, hname, hclose, hinfix⟩)
    · exact ⟨name, hname, hclose, hprefix.isInfix⟩
    · exact ⟨name, hname, hclose, List.infix_cons_iff.2 (.inr hinfix)⟩

/-- A text that begins with no token begins with none when it is cut short. -/
theorem token?_eq_none_of_append {first : Text} (h : token? (first ++ rest) = none) :
    token? first = none := by
  refine Option.eq_none_iff_forall_ne_some.2 fun ⟨name, after⟩ htoken => ?_
  obtain ⟨hname, hclose, rfl⟩ := token?_eq_some_iff.1 htoken
  rw [List.append_assoc, token?_bracketed_append hname hclose] at h
  cases h

namespace Piece

/-- Whether a piece is a run of text. -/
def isText : Piece → Bool
  | .text _ => true
  | .icon _ => false

/-- What a piece must be for its display to be understood: a run of text is not empty and holds no
token, and the name of an icon is not empty and holds no closing bracket. -/
def WellShown : Piece → Prop
  | .text run => run ≠ [] ∧ ¬ HoldsToken run
  | .icon name => name ≠ [] ∧ ']' ∉ name

/-- A character that begins no token before the text of pieces goes well with them. -/
theorem wellShown_of_mem_pushChar {pieces : List Piece} (h : ∀ piece ∈ pieces, piece.WellShown)
    (hnone : token? (c :: pieces.flatMap toText) = none) :
    ∀ piece ∈ pushChar c pieces, piece.WellShown := by
  have hrun {run tail : Text} (hrun : ¬ HoldsToken run)
      (hnone : token? (c :: (run ++ tail)) = none) : WellShown (.text (c :: run)) := by
    refine ⟨List.cons_ne_nil c run, ?_⟩
    rw [holdsToken_cons_iff, not_or, not_not]
    exact ⟨token?_eq_none_of_append hnone, hrun⟩
  rcases pieces with _ | ⟨run | name, others⟩
  · exact List.forall_mem_singleton.2 (hrun not_holdsToken_nil hnone)
  · obtain ⟨hfirst, hothers⟩ := List.forall_mem_cons.1 h
    exact List.forall_mem_cons.2 ⟨hrun hfirst.2 hnone, hothers⟩
  · exact List.forall_mem_cons.2 ⟨hrun not_holdsToken_nil hnone, h⟩

/-- The pieces of a text are well shown. -/
theorem wellShown_of_mem_ofText (text : Text) : ∀ piece ∈ ofText text, piece.WellShown := by
  induction text using token_induction with
  | nil => simp [ofText]
  | token name after hname hclose ih =>
    rw [ofText_bracketed_append hname hclose]
    exact List.forall_mem_cons.2 ⟨⟨hname, hclose⟩, ih⟩
  | char c rest hnone ih =>
    rw [ofText_cons hnone]
    refine wellShown_of_mem_pushChar ih ?_
    rwa [flatMap_toText_ofText]

/-- Whether one piece may stand right before another: two runs of text would be one. -/
def MayPrecede (left right : Piece) : Prop := ¬ (left.isText = true ∧ right.isText = true)

/-- An icon may stand before any piece. -/
theorem mayPrecede_of_icon_left (name : Text) (piece : Piece) : MayPrecede (.icon name) piece :=
  fun h => Bool.false_ne_true h.1

/-- An icon may stand after any piece. -/
theorem mayPrecede_of_icon_right (piece : Piece) (name : Text) : MayPrecede piece (.icon name) :=
  fun h => Bool.false_ne_true h.2

/-- A character put before pieces makes no run of text beside another. -/
theorem isChain_pushChar {pieces : List Piece} (h : pieces.IsChain MayPrecede) (c : Char) :
    (pushChar c pieces).IsChain MayPrecede := by
  rcases pieces with _ | ⟨run | name, others⟩
  · exact List.IsChain.singleton _
  · -- The run only grows, and what follows it was no run before.
    obtain ⟨hfirst, hothers⟩ := List.isChain_cons.1 h
    exact List.isChain_cons.2 ⟨hfirst, hothers⟩
  · exact List.isChain_cons_cons.2 ⟨mayPrecede_of_icon_right _ name, h⟩

/-- No two runs of text stand side by side in the pieces of a text. -/
theorem isChain_ofText (text : Text) : (ofText text).IsChain MayPrecede := by
  induction text using token_induction with
  | nil => simp [ofText]
  | token name after hname hclose ih =>
    rw [ofText_bracketed_append hname hclose]
    exact List.isChain_cons.2 ⟨fun piece _ => mayPrecede_of_icon_left name piece, ih⟩
  | char c rest hnone ih =>
    rw [ofText_cons hnone]
    exact isChain_pushChar ih c

/-- What is shown for a search text is the text, piece by piece: the pieces hold its characters in
their order, no run of text is empty, holds a token or stands beside another, and every icon has a
name without a closing bracket. -/
theorem ofText_alternates (text : Text) :
    (ofText text).flatMap toText = text ∧
      (∀ run, .text run ∈ ofText text → run ≠ [] ∧ ¬ HoldsToken run) ∧
      (∀ name, .icon name ∈ ofText text → name ≠ [] ∧ ']' ∉ name) ∧
      (ofText text).IsChain MayPrecede :=
  ⟨flatMap_toText_ofText text, fun run => wellShown_of_mem_ofText text (.text run),
    fun name => wellShown_of_mem_ofText text (.icon name), isChain_ofText text⟩

end Piece
end ReefCards
