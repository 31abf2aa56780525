import ReefCards.Text.Basic
import ReefCards.Text.Columns.Tail

/-!
# Terminal columns

How many columns a text takes on a terminal. Most texts take the sum of what their characters take,
but characters fuse with those after them, and a selector changes how the one before it is drawn.
`columns` reads a text from its end and remembers what follows. Main statement: `columns_of_ascii`,
a text of printable ASCII characters takes a column for each.
-/

namespace ReefCards.Text

/-- Whether the character is a control character of ASCII or of Latin-1. -/
def isControl (c : Char) : Bool :=
  c.toNat < 0x20 || (0x7F ≤ c.toNat && c.toNat < 0xA0)

/-- The columns of a character on its own, where a control character takes none. -/
def loneCharColumns (c : Char) : Nat :=
  if isControl c then 0 else charColumns c

/-- How the character before a selector is to be drawn. -/
inductive Selector where
  | picture
  | sign
  | wideQuote
  deriving DecidableEq, Repr

/-- The selector that a character is. -/
def Selector.ofChar? (c : Char) : Option Selector :=
  if c = '\uFE0F' then some .picture
  else if c = '\uFE0E' then some .sign
  else if c = '\uFE01' then some .wideQuote
  else none

/-- Whether the character is a picture that a selector turns into a sign of one column. The
enclosed ideographs keep their two columns. -/
def hasSign (c : Char) : Bool :=
  selectable.contains c && pictures.contains c && !(0x1F200 ≤ c.toNat && c.toNat ≤ 0x1F2FF)

/-- Whether the character is a curved quotation mark, which a selector makes wide. -/
def isCurvedQuote (c : Char) : Bool :=
  c = '\u2018' || c = '\u2019' || c = '\u201C' || c = '\u201D'

/-- What stands after a place in a text: the selectors right after it, and the tail after them. -/
structure Ahead where
  tail : Tail := .plain
  picture : Bool := false
  sign : Bool := false
  wideQuote : Bool := false
  deriving DecidableEq, Repr

namespace Ahead

/-- What is ahead without its selectors, where a selector lets the tail through. -/
def throughSelector (ahead : Ahead) : Ahead :=
  match ahead.tail with
  | .alef | .letter _ _ => ahead
  | _ => {}

/-- What is ahead of the character before a selector. A fused picture may be one that is asked
for. -/
def select (ahead : Ahead) : Selector → Ahead
  | .picture =>
    match ahead.tail with
    | .joiner _ => { ahead with picture := true }
    | _ => { ahead.throughSelector with picture := true }
  | .sign => { ahead.throughSelector with sign := true }
  | .wideQuote => { ahead.throughSelector with wideQuote := true }

/-- What is ahead when a character does not heed the selector for a picture. -/
def withoutPicture (ahead : Ahead) : Ahead :=
  if ahead.picture then { ahead.throughSelector with picture := false } else ahead

/-- The columns of a picture that was asked for: a fused one has them counted already. -/
def pictureColumns (ahead : Ahead) : Nat :=
  match ahead.tail with
  | .joiner _ => 0
  | _ => 2

/-- The columns that a character adds without regard to selectors, and what is ahead of the one
before it. Letters fuse across marks that are never drawn, and a joiner is remembered. -/
def stepTail (ahead : Ahead) (c : Char) : Int × Ahead :=
  match ahead.tail with
  | .letter last joined =>
    if c = zeroWidthJoiner then (0, { ahead with tail := .letter last true })
    else if ligatureMarks.contains c then (0, ahead)
    else apart (Tail.before (if ahead.wideQuote then .plain else .letter last joined) c)
  | tail => apart (Tail.before (if ahead.wideQuote then .plain else tail) c)
where
  /-- No selectors are left after a character that is none. -/
  apart (effect : Tail.Effect) : Int × Ahead := (effect.1, { tail := effect.2 })

/-- The columns that a character adds which is no selector and heeds none for a picture, and what
is ahead of the one before it. -/
def stepSign (ahead : Ahead) (c : Char) : Int × Ahead :=
  if ahead.sign then
    if hasSign c then (1, {}) else { ahead with sign := false }.stepTail c
  else if ahead.wideQuote && isCurvedQuote c then (2, {})
  else { ahead with wideQuote := false }.stepTail c

/-- The columns that a character adds, and what is ahead of the one before it. -/
def step (ahead : Ahead) (c : Char) : Int × Ahead :=
  if ahead.picture && selectable.contains c then (ahead.pictureColumns, { tail := .picture })
  else match Selector.ofChar? c with
    | some selector => (0, ahead.withoutPicture.select selector)
    | none => ahead.withoutPicture.stepSign c

end Ahead

/-- The columns a text takes, and what it is for the character before it. -/
def measure : Text → Int × Ahead
  | [] => (0, {})
  | c :: rest =>
    let (taken, ahead) := measure rest
    let (added, next) := ahead.step c
    (taken + added, next)

/-- The columns a text takes on a terminal. -/
def columns (text : Text) : Nat := (measure text).1.toNat

/-- A printable ASCII character adds a column when nothing that it heeds is ahead. -/
theorem Ahead.step_of_ascii (c : Char) (hlow : 0x20 ≤ c.toNat) (hhigh : c.toNat < 0x7F) :
    ({} : Ahead).step c = (1, {}) := by
  have hne (d : Char) (hd : 0x7F ≤ d.toNat) : c ≠ d := by
    rintro rfl
    omega
  have hselector : Selector.ofChar? c = none := by
    simp only [Selector.ofChar?, hne '\uFE0F' (by decide), hne '\uFE0E' (by decide),
      hne '\uFE01' (by decide), if_false]
  have hbefore : Tail.before .plain c = (1, .plain) := by
    simp [Tail.before, Tail.fuse?, charColumns, hhigh, Tail.ofChar_of_ascii c hlow hhigh]
  simp [Ahead.step, hselector, withoutPicture, stepSign, stepTail, stepTail.apart, hbefore]

/-- A text of printable ASCII characters takes a column for each. -/
theorem columns_of_ascii (text : Text) (h : ∀ c ∈ text, 0x20 ≤ c.toNat ∧ c.toNat < 0x7F) :
    columns text = text.length := by
  have hmeasure : measure text = ((text.length : Int), {}) := by
    induction text with
    | nil => rfl
    | cons c rest ih =>
      obtain ⟨hlow, hhigh⟩ := h c List.mem_cons_self
      rw [measure, ih fun d hd => h d (List.mem_cons_of_mem _ hd)]
      simp [Ahead.step_of_ascii c hlow hhigh]
  simp [columns, hmeasure]

end ReefCards.Text
