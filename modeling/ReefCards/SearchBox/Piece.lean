import ReefCards.Icon.Glyph

/-!
# Pieces of a search text

A search text is plain characters and bracketed icon tokens, and it is shown as runs of text and
icons. A token reaches from an opening bracket to the next closing one and is not empty; between
the two any character may stand. Main statement: `length_lt_of_token?`.
-/

namespace ReefCards

/-- A part of a search text as it is shown. -/
inductive Piece where
  | text (run : Text)
  | icon (name : Text)
  deriving DecidableEq, Repr

/-- The token at the start of a text, by its name, and the text after it. -/
def token? (text : Text) : Option (Text × Text) :=
  match text with
  | '[' :: rest =>
    match rest.takeWhile (· != ']'), rest.dropWhile (· != ']') with
    | first :: name, _ :: after => some (first :: name, after)
    | _, _ => none
  | _ => none

/-- The text after a token is shorter. -/
theorem length_lt_of_token? (text : Text) (found : Text × Text) (h : token? text = some found) :
    found.2.length < text.length := by
  unfold token? at h
  split at h
  · next rest =>
    split at h
    · next first name close after _ hdrop =>
      obtain rfl := Option.some.inj h
      have hle := (List.dropWhile_sublist (l := rest) (· != ']')).length_le
      rw [hdrop, List.length_cons] at hle
      simp only [List.length_cons]
      omega
    · simp at h
  · simp at h

namespace Piece

/-- Puts a character before pieces, into the first one if that is a run of text. -/
def pushChar (c : Char) : List Piece → List Piece
  | .text run :: rest => .text (c :: run) :: rest
  | pieces => .text [c] :: pieces

/-- The pieces of a search text. -/
def ofText (text : Text) : List Piece :=
  match text with
  | [] => []
  | c :: rest =>
    match _h : token? (c :: rest) with
    | some (name, after) => .icon name :: ofText after
    | none => pushChar c (ofText rest)
termination_by text.length
decreasing_by
  · exact length_lt_of_token? _ _ _h
  · simp

/-- The characters of a piece. -/
def toText : Piece → Text
  | .text run => run
  | .icon name => bracketed name

/-- Whether a piece is no icon outside the vocabulary. -/
def isKnown (vocabulary : Vocabulary) : Piece → Bool
  | .text _ => true
  | .icon name => name ∈ vocabulary

/-- What is shown for a piece. -/
def render (vocabulary : Vocabulary) : Piece → Text
  | .text run => run
  | .icon name => vocabulary.display name

/-- What is shown for a search text in pieces. -/
def renderAll (vocabulary : Vocabulary) (pieces : List Piece) : Text :=
  pieces.flatMap (render vocabulary)

end Piece

/-- The search text without the tokens that are outside the vocabulary. -/
def sanitize (vocabulary : Vocabulary) (text : Text) : Text :=
  match text with
  | [] => []
  | c :: rest =>
    match _h : token? (c :: rest) with
    | some (name, after) =>
      (if name ∈ vocabulary then bracketed name else []) ++ sanitize vocabulary after
    | none => c :: sanitize vocabulary rest
termination_by text.length
decreasing_by
  · exact length_lt_of_token? _ _ _h
  · simp

end ReefCards
