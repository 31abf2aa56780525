import ReefCards.Proofs.SearchBox.Run

/-!
# What a search text shows, unit by unit

A search text shows its characters one by one, except that a token shows as one icon. In these
units nothing is left of how the pieces are grouped, so the sanitizer is a plain filter on them, and
two texts show their units one after the other as long as no bracket of the first is left open.
Main statements: `displayUnits_append`, `sanitize_append_bracketed` and `displayUnits_concat`.
-/

namespace ReefCards

/-- The units of a piece: a run of text has a unit for each character, and an icon is one. -/
def Piece.units : Piece → List Piece
  | .text run => run.map fun c => .text [c]
  | .icon name => [.icon name]

/-- The units that a search text shows, from left to right. -/
def displayUnits (text : Text) : List Piece := (Piece.ofText text).flatMap Piece.units

/-- A text is closed when each of its opening brackets has a closing one after it. -/
def IsClosed (text : Text) : Prop := '[' ∉ afterLastClose text

/-- Whether a text is closed is decided by what stands after its last closing bracket. -/
instance (text : Text) : Decidable (IsClosed text) :=
  inferInstanceAs (Decidable ('[' ∉ afterLastClose text))

variable {text left right name rest : Text} {c : Char} {vocabulary : Vocabulary}

/-- The empty text shows nothing. -/
@[simp]
theorem displayUnits_nil : displayUnits [] = [] := by
  rw [displayUnits, Piece.ofText, List.flatMap_nil]

/-- A token at the start of a text is its first unit. -/
theorem displayUnits_bracketed_append (hname : name ≠ []) (hclose : ']' ∉ name) (rest : Text) :
    displayUnits (bracketed name ++ rest) = .icon name :: displayUnits rest := by
  rw [displayUnits, Piece.ofText_bracketed_append hname hclose]
  rfl

/-- A character that begins no token is a unit by itself. -/
theorem displayUnits_cons (h : token? (c :: rest) = none) :
    displayUnits (c :: rest) = .text [c] :: displayUnits rest := by
  rw [displayUnits, Piece.ofText_cons h, displayUnits]
  rcases Piece.ofText rest with _ | ⟨_ | _, _⟩ <;> rfl

/-- A single character is a unit by itself. -/
theorem displayUnits_singleton (c : Char) : displayUnits [c] = [.text [c]] := by
  rw [displayUnits_cons (token?_cons_eq_none_iff.2 (.inr (.inr List.not_mem_nil))),
    displayUnits_nil]

/-- The pieces of a text are its units with neighbouring characters as a single run. -/
theorem merge_displayUnits (text : Text) :
    Piece.merge (displayUnits text) = Piece.ofText text := by
  induction text using token_induction with
  | nil => rw [displayUnits_nil, Piece.ofText]; rfl
  | token name after hname hclose ih =>
    rw [displayUnits_bracketed_append hname hclose, Piece.merge_cons, ih, Piece.push_icon,
      Piece.ofText_bracketed_append hname hclose]
  | char c rest hnone ih =>
    rw [displayUnits_cons hnone, Piece.merge_cons, ih, ← Piece.pushChar_eq_push,
      Piece.ofText_cons hnone]

/-- The units of a text hold all its characters in their order. -/
theorem flatMap_toText_displayUnits (text : Text) :
    (displayUnits text).flatMap Piece.toText = text := by
  induction text using token_induction with
  | nil => rw [displayUnits_nil, List.flatMap_nil]
  | token name after hname hclose ih =>
    rw [displayUnits_bracketed_append hname hclose, List.flatMap_cons, ih]
    rfl
  | char c rest hnone ih =>
    rw [displayUnits_cons hnone, List.flatMap_cons, ih]
    rfl

/-- A text is empty exactly when it shows nothing. -/
theorem displayUnits_eq_nil_iff : displayUnits text = [] ↔ text = [] := by
  constructor
  · intro h
    rw [← flatMap_toText_displayUnits text, h, List.flatMap_nil]
  · rintro rfl
    exact displayUnits_nil

/-- The icons among the units are those among the pieces. -/
theorem icon_mem_displayUnits : .icon name ∈ displayUnits text ↔ .icon name ∈ Piece.ofText text := by
  rw [← merge_displayUnits, Piece.icon_mem_merge]

/-- The sanitizer keeps the units that are no icons outside the vocabulary. -/
theorem sanitize_eq_filter_displayUnits (vocabulary : Vocabulary) (text : Text) :
    sanitize vocabulary text =
      ((displayUnits text).filter (Piece.isKnown vocabulary)).flatMap Piece.toText := by
  induction text using token_induction with
  | nil => simp
  | token name after hname hclose ih =>
    rw [sanitize_bracketed_append hname hclose, displayUnits_bracketed_append hname hclose, ih]
    by_cases hmem : name ∈ vocabulary <;> simp [Piece.toText, hmem]
  | char c rest hnone ih =>
    rw [sanitize_cons hnone, displayUnits_cons hnone, ih, List.filter_cons_of_pos rfl]
    rfl

/-- The empty text is closed. -/
theorem isClosed_nil : IsClosed [] := by simp [IsClosed, afterLastClose]

/-- What comes before a closing bracket is closed by it. -/
theorem isClosed_append_close : IsClosed (left ++ ']' :: right) ↔ IsClosed right := by
  rw [IsClosed, afterLastClose_append_close, IsClosed]

/-- A text that begins with an opening bracket is closed only if a bracket closes in it. -/
theorem isClosed_cons : IsClosed (c :: rest) ↔ (c = '[' → ']' ∈ rest) ∧ IsClosed rest := by
  by_cases hmem : ']' ∈ rest
  · obtain ⟨stretch, behind, rfl, -⟩ := List.eq_append_cons_of_mem hmem
    rw [← List.cons_append, isClosed_append_close, isClosed_append_close]
    simp
  · have hrest : afterLastClose rest = rest := afterLastClose_of_not_mem hmem
    by_cases hc : c = ']'
    · subst hc
      rw [← List.nil_append (']' :: rest), isClosed_append_close]
      simp
    · have hcons : afterLastClose (c :: rest) = c :: rest :=
        afterLastClose_of_not_mem (List.not_mem_cons_of_ne_of_not_mem (Ne.symm hc) hmem)
      simp only [IsClosed, hcons, hrest, hmem, List.mem_cons, not_or, imp_false]
      exact and_congr_left fun _ => ne_comm

/-- A text is closed, or it has a first opening bracket that is not. -/
theorem isClosed_or_exists_open (text : Text) :
    IsClosed text ∨
      ∃ kept typed, text = kept ++ '[' :: typed ∧ IsClosed kept ∧ ']' ∉ typed := by
  induction text using closing_induction with
  | unclosed text hclose =>
    by_cases hopen : '[' ∈ text
    · obtain ⟨kept, typed, rfl, hkept⟩ := List.eq_append_cons_of_mem hopen
      have hkeptClose : ']' ∉ kept := fun hmem => hclose (List.mem_append_left _ hmem)
      refine .inr ⟨kept, typed, rfl, ?_, fun hmem => hclose (by simp [hmem])⟩
      rwa [IsClosed, afterLastClose_of_not_mem hkeptClose]
    · left
      rwa [IsClosed, afterLastClose_of_not_mem hclose]
  | close stretch rest hstretch ih =>
    rw [isClosed_append_close]
    refine ih.imp_right ?_
    rintro ⟨kept, typed, rfl, hkept, htyped⟩
    exact ⟨stretch ++ ']' :: kept, typed, by simp, isClosed_append_close.2 hkept, htyped⟩

/-- A closed text and what stands after it show their units one after the other. -/
theorem displayUnits_append (h : IsClosed left) (right : Text) :
    displayUnits (left ++ right) = displayUnits left ++ displayUnits right := by
  induction left using token_induction with
  | nil => simp
  | token name after hname hclose ih =>
    have hafter : IsClosed after := by
      rwa [bracketed_append, ← List.cons_append, isClosed_append_close] at h
    rw [List.append_assoc, displayUnits_bracketed_append hname hclose,
      displayUnits_bracketed_append hname hclose, ih hafter, List.cons_append]
  | char c rest hnone ih =>
    obtain ⟨hc, hrest⟩ := isClosed_cons.1 h
    -- Nothing that comes later makes a token of the character: if it is an opening bracket, it is
    -- closed before that, and by the very next character.
    have hstill : token? (c :: (rest ++ right)) = none := by
      rw [token?_cons_eq_none_iff] at hnone ⊢
      rcases hnone with hne | ⟨behind, rfl⟩ | hmem
      · exact .inl hne
      · exact .inr (.inl ⟨behind ++ right, rfl⟩)
      · exact .inl fun heq => hmem (hc heq)
    rw [List.cons_append, displayUnits_cons hstill, displayUnits_cons hnone, ih hrest,
      List.cons_append]

/-- A closed text and a token after it show the token as one more unit. -/
theorem displayUnits_append_bracketed (h : IsClosed left) (hname : name ≠ [])
    (hclose : ']' ∉ name) :
    displayUnits (left ++ bracketed name) = displayUnits left ++ [.icon name] := by
  have htoken : displayUnits (bracketed name) = [.icon name] := by
    rw [← List.append_nil (bracketed name), displayUnits_bracketed_append hname hclose,
      displayUnits_nil]
  rw [displayUnits_append h, htoken]

/-- A closed text is sanitized apart from what stands after it. -/
theorem sanitize_append (h : IsClosed left) (right : Text) :
    sanitize vocabulary (left ++ right) =
      sanitize vocabulary left ++ sanitize vocabulary right := by
  simp only [sanitize_eq_filter_displayUnits, displayUnits_append h, List.filter_append,
    List.flatMap_append]

/-- Of a closed text and a token after it, the sanitizer keeps the token if its name is in the
vocabulary. -/
theorem sanitize_append_bracketed (h : IsClosed left) (hname : name ≠ []) (hclose : ']' ∉ name) :
    sanitize vocabulary (left ++ bracketed name) =
      sanitize vocabulary left ++ if name ∈ vocabulary then bracketed name else [] := by
  have htoken : sanitize vocabulary (bracketed name) =
      if name ∈ vocabulary then bracketed name else [] := by
    rw [← List.append_nil (bracketed name), sanitize_bracketed_append hname hclose, sanitize_nil,
      List.append_nil, List.append_nil]
  rw [sanitize_append h, htoken]

/-- Without closing brackets every character is a unit by itself. -/
theorem displayUnits_of_not_mem (h : ']' ∉ text) :
    displayUnits text = text.map fun c => .text [c] := by
  induction text with
  | nil => exact displayUnits_nil
  | cons c rest ih =>
    have hrest : ']' ∉ rest := fun hmem => h (List.mem_cons_of_mem _ hmem)
    rw [displayUnits_cons (token?_eq_none_of_not_mem h), ih hrest, List.map_cons]

/-- A character at the end of a text is one more unit, or it closes a token that was open until
then. -/
theorem displayUnits_concat (text : Text) (c : Char) :
    displayUnits (text ++ [c]) = displayUnits text ++ [.text [c]] ∨
      ∃ kept name, IsClosed kept ∧ name ≠ [] ∧ ']' ∉ name ∧
        text ++ [c] = kept ++ bracketed name := by
  rcases isClosed_or_exists_open text with hclosed | ⟨kept, typed, rfl, hkept, htyped⟩
  · left
    rw [displayUnits_append hclosed, displayUnits_singleton]
  · by_cases hc : c = ']'
    · subst hc
      by_cases hempty : typed = []
      · subst hempty
        left
        have hbrackets : displayUnits ['[', ']'] = [.text ['['], .text [']']] := by
          rw [displayUnits_cons (token?_empty_brackets []), displayUnits_singleton]
        rw [List.append_assoc, displayUnits_append hkept, displayUnits_append hkept,
          displayUnits_singleton, List.append_assoc]
        exact congrArg (displayUnits kept ++ ·) hbrackets
      · right
        refine ⟨kept, typed, hkept, hempty, htyped, ?_⟩
        simp [bracketed]
    · left
      have hopen : ']' ∉ '[' :: typed := by simpa using htyped
      have hlonger : ']' ∉ '[' :: typed ++ [c] := by
        simp [htyped, Ne.symm hc]
      rw [List.append_assoc, displayUnits_append hkept, displayUnits_append hkept,
        displayUnits_of_not_mem hopen, displayUnits_of_not_mem hlonger, List.map_append,
        List.append_assoc]
      rfl

end ReefCards
