import ReefCards.Markup.Segment
import ReefCards.Text.Blank

/-!
# Fragments of ability markup

A markup text is cut into fragments from left to right. At each place the shapes are tried in a
fixed order, rows before points before plain words before icons, and the first that fits takes as
much as it can; characters that fit no shape are gathered into stray fragments. Main statement:
`length_lt_of_read?`, a shape takes at least one character.
-/

namespace ReefCards

/-- The shapes that a markup text is made of, with what they say. -/
inductive Shape where
  /-- Two or more bracketed names with plus signs between them. -/
  | row (names : List Text)
  /-- Digits before the bracketed icon for points. -/
  | points (digits : Text)
  /-- Letters, digits, spaces, round brackets and plus signs. -/
  | plain
  /-- A bracketed name. -/
  | icon (name : Text)
  deriving DecidableEq, Repr

/-- A part of a markup text, and the shape it fits, if any. -/
structure Fragment where
  shape : Option Shape
  source : Text
  deriving DecidableEq, Repr

namespace Shape

/-- Whether the character may stand in an icon name. -/
def isNameChar (c : Char) : Bool := c.isAlphanum || c = '_'

/-- Whether the character may stand in plain words. -/
def isPlainChar (c : Char) : Bool := c.isAlphanum || c = ' ' || c = '(' || c = ')' || c = '+'

/-- The bracketed name at the start of a text, and the text after it. -/
def icon? (text : Text) : Option (Text × Text) :=
  match text with
  | '[' :: rest =>
    match rest.takeWhile isNameChar, rest.dropWhile isNameChar with
    | first :: name, ']' :: after => some (first :: name, after)
    | _, _ => none
  | _ => none

/-- The name after a plus sign at the start of a text, where blanks may stand on both sides of the
sign, and the text after it. -/
def joined? (text : Text) : Option (Text × Text) :=
  match text.dropWhile Text.isBlank with
  | '+' :: rest => icon? (rest.dropWhile Text.isBlank)
  | _ => none

/-- The text after a bracketed name is shorter. -/
theorem length_lt_of_icon? (text : Text) (found : Text × Text) (h : icon? text = some found) :
    found.2.length < text.length := by
  unfold icon? at h
  split at h
  · next rest =>
    split at h
    · next first name after _ hdrop =>
      obtain rfl := Option.some.inj h
      have hle := (List.dropWhile_sublist (l := rest) isNameChar).length_le
      rw [hdrop, List.length_cons] at hle
      simp only [List.length_cons]
      omega
    · simp at h
  · simp at h

/-- The text after a joined name is shorter. -/
theorem length_lt_of_joined? (text : Text) (found : Text × Text)
    (h : joined? text = some found) : found.2.length < text.length := by
  unfold joined? at h
  split at h
  · next rest hdrop =>
    have hicon := length_lt_of_icon? _ found h
    have hrest := (List.dropWhile_sublist (l := rest) Text.isBlank).length_le
    have htext := (List.dropWhile_sublist (l := text) Text.isBlank).length_le
    rw [hdrop, List.length_cons] at htext
    omega
  · simp at h

/-- All joined names at the start of a text, and the text after them. -/
def joinedNames (text : Text) : List Text × Text :=
  match _h : joined? text with
  | none => ([], text)
  | some (name, rest) =>
    let (names, after) := joinedNames rest
    (name :: names, after)
termination_by text.length
decreasing_by exact length_lt_of_joined? text _ _h

/-- The text after joined names is not longer. -/
theorem length_joinedNames_le (text : Text) : (joinedNames text).2.length ≤ text.length := by
  fun_induction joinedNames text with
  | case1 => exact Nat.le_refl _
  | case2 text name rest h names after hrest ih =>
    rw [hrest] at ih
    have := length_lt_of_joined? text _ h
    exact Nat.le_trans ih (Nat.le_of_lt this)

/-- The row at the start of a text, and the text after it. -/
def row? (text : Text) : Option (List Text × Text) :=
  match icon? text with
  | some (name, rest) =>
    match joinedNames rest with
    | ([], _) => none
    | (names, after) => some (name :: names, after)
  | none => none

/-- The text without one space at its start, if it has one there. -/
def skipSpace (text : Text) : Text :=
  match text with
  | ' ' :: rest => rest
  | _ => text

/-- The digits before the bracketed icon for points at the start of a text, and the text after the
icon. One space may stand between them. -/
def points? (text : Text) : Option (Text × Text) :=
  let digits := text.takeWhile Char.isDigit
  if digits.isEmpty then none
  else
    (Text.after? (bracketed Vocabulary.wave) (skipSpace (text.dropWhile Char.isDigit))).map
      fun rest => (digits, rest)

/-- The text after the plain words at the start of a text. -/
def plain? (text : Text) : Option Text :=
  match text with
  | c :: rest => if isPlainChar c then some (rest.dropWhile isPlainChar) else none
  | [] => none

/-- The first shape that fits the start of a text, and the text after it. Rows count as shapes only
when `rows` is true. -/
def read? (rows : Bool) (text : Text) : Option (Shape × Text) :=
  ((if rows then row? text else none).map fun found => (row found.1, found.2)) <|>
    ((points? text).map fun found => (points found.1, found.2)) <|>
    ((plain? text).map fun rest => (plain, rest)) <|>
    ((icon? text).map fun found => (icon found.1, found.2))

/-- The text after a row is shorter. -/
theorem length_lt_of_row? (text : Text) (found : List Text × Text) (h : row? text = some found) :
    found.2.length < text.length := by
  unfold row? at h
  split at h
  · next name rest hicon =>
    have hname := length_lt_of_icon? text _ hicon
    have hnames := length_joinedNames_le rest
    split at h
    · simp at h
    · next names after hjoined =>
      obtain rfl := Option.some.inj h
      rw [hjoined] at hnames
      exact Nat.lt_of_le_of_lt hnames hname
  · simp at h

/-- The text after a space is not longer. -/
theorem length_skipSpace_le (text : Text) : (skipSpace text).length ≤ text.length := by
  unfold skipSpace
  split <;> simp

/-- The text after points is shorter. -/
theorem length_lt_of_points? (text : Text) (found : Text × Text)
    (h : points? text = some found) : found.2.length < text.length := by
  unfold points? at h
  dsimp only at h
  split at h
  · simp at h
  · obtain ⟨rest, hrest, rfl⟩ := Option.map_eq_some_iff.1 h
    have hspace := length_skipSpace_le (text.dropWhile Char.isDigit)
    have hdigits := (List.dropWhile_sublist (l := text) Char.isDigit).length_le
    unfold Text.after? at hrest
    split at hrest
    · obtain rfl := Option.some.inj hrest
      have hwave : (bracketed Vocabulary.wave).length = 6 := rfl
      rw [List.length_drop, hwave]
      have htext : text.length ≠ 0 := by
        intro hzero
        simp_all [List.length_eq_zero_iff.1 hzero]
      omega
    · simp at hrest

/-- The text after plain words is shorter. -/
theorem length_lt_of_plain? (text rest : Text) (h : plain? text = some rest) :
    rest.length < text.length := by
  unfold plain? at h
  split at h
  · next c tail =>
    split at h
    · obtain rfl := Option.some.inj h
      exact Nat.lt_succ_of_le (List.dropWhile_sublist _).length_le
    · simp at h
  · simp at h

/-- The text after a shape is shorter. -/
theorem length_lt_of_read? (rows : Bool) (text : Text) (found : Shape × Text)
    (h : read? rows text = some found) : found.2.length < text.length := by
  simp only [read?, Option.orElse_eq_orElse, Option.orElse_eq_or, Option.or_eq_some_iff,
    Option.map_eq_some_iff] at h
  rcases h with ⟨row, hrow, rfl⟩ | ⟨-, ⟨points, hpoints, rfl⟩ | ⟨-, ⟨rest, hplain, rfl⟩ |
    ⟨-, icon, hicon, rfl⟩⟩⟩
  · split at hrow
    · exact length_lt_of_row? text row hrow
    · simp at hrow
  · exact length_lt_of_points? text points hpoints
  · exact length_lt_of_plain? text rest hplain
  · exact length_lt_of_icon? text icon hicon

end Shape

namespace Fragment

/-- Puts a stray character before fragments, into the first one if that is stray too. -/
def pushStray (c : Char) : List Fragment → List Fragment
  | ⟨none, source⟩ :: rest => ⟨none, c :: source⟩ :: rest
  | fragments => ⟨none, [c]⟩ :: fragments

/-- The fragments of a text. -/
def scan (rows : Bool) (text : Text) : List Fragment :=
  match text with
  | [] => []
  | c :: tail =>
    match _h : Shape.read? rows (c :: tail) with
    | some (shape, rest) =>
      ⟨some shape, (c :: tail).take ((c :: tail).length - rest.length)⟩ :: scan rows rest
    | none => pushStray c (scan rows tail)
termination_by text.length
decreasing_by
  · exact Shape.length_lt_of_read? rows _ _ _h
  · simp

end Fragment
end ReefCards
