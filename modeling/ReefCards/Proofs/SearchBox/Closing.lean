import ReefCards.Proofs.SearchBox.Token
import Mathlib.Data.List.DropRight

/-!
# Closing brackets and icon names

Every closing bracket settles what stands before it, so the icons of a search text can be read off
the stretches between closing brackets, one by one. Main statement: `iconNames_append`, the icons of
two texts put together are those of the first, at most one that ends with the first closing bracket
of the second, and those of the second after that bracket.
-/

namespace ReefCards

/-- The name of a piece that is an icon. -/
def Piece.name? : Piece → Option Text
  | .text _ => none
  | .icon name => some name

/-- The names of the icons of a search text, from left to right. -/
def iconNames (text : Text) : List Text := (Piece.ofText text).filterMap Piece.name?

/-- What stands after the first opening bracket of a text, unless that is nothing. -/
def openedName? (text : Text) : Option Text :=
  match text.dropWhile (· != '[') with
  | _ :: first :: name => some (first :: name)
  | _ => none

/-- The part of a text after its last closing bracket. -/
def afterLastClose (text : Text) : Text := text.rtakeWhile (· != ']')

/-- The part of a text after its first closing bracket. -/
def afterFirstClose (text : Text) : Text := (text.dropWhile (· != ']')).tail

/-- The name of the token that ends with the first closing bracket of the right text, when that text
comes right after the left one. -/
def tokenAhead? (left right : Text) : Option Text :=
  if ']' ∈ right then openedName? (afterLastClose left ++ right.takeWhile (· != ']')) else none

variable {stretch rest text : Text}

/-- The icon names of a text are the names of the icons among its pieces. -/
theorem mem_iconNames {name : Text} : name ∈ iconNames text ↔ .icon name ∈ Piece.ofText text := by
  rw [iconNames, List.mem_filterMap]
  constructor
  · rintro ⟨run | other, hmem, hname⟩
    · simp [Piece.name?] at hname
    · obtain rfl := Option.some.inj hname
      exact hmem
  · intro hmem
    exact ⟨.icon name, hmem, rfl⟩

/-- A token at the start of a text is its first icon. -/
theorem iconNames_bracketed_append {name : Text} (hname : name ≠ []) (hclose : ']' ∉ name)
    (after : Text) : iconNames (bracketed name ++ after) = name :: iconNames after := by
  rw [iconNames, Piece.ofText_bracketed_append hname hclose]
  rfl

/-- A character that begins no token adds no icon. -/
theorem iconNames_cons {c : Char} (h : token? (c :: rest) = none) :
    iconNames (c :: rest) = iconNames rest := by
  rw [iconNames, iconNames, Piece.ofText_cons h]
  rcases Piece.ofText rest with _ | ⟨_ | _, _⟩ <;> rfl

/-- A text without closing brackets has no icons. -/
theorem iconNames_of_not_mem (h : ']' ∉ text) : iconNames text = [] := by
  induction text with
  | nil => simp [iconNames, Piece.ofText]
  | cons c rest ih =>
    rw [iconNames_cons (token?_eq_none_of_not_mem h)]
    exact ih fun hmem => h (List.mem_cons_of_mem _ hmem)

/-- A stretch up to the next closing bracket has the one icon that it opened, if it did. -/
theorem iconNames_append_close (h : ']' ∉ stretch) (rest : Text) :
    iconNames (stretch ++ ']' :: rest) = (openedName? stretch).toList ++ iconNames rest := by
  induction stretch with
  | nil => exact iconNames_cons (token?_cons_of_ne (by decide) rest)
  | cons c tail ih =>
    have htail : ']' ∉ tail := fun hmem => h (List.mem_cons_of_mem _ hmem)
    by_cases hc : c = '['
    · subst hc
      -- The bracket opens a token with all that follows it, unless nothing does.
      cases tail with
      | nil =>
        rw [List.cons_append, List.nil_append, iconNames_cons (token?_empty_brackets rest),
          iconNames_cons (token?_cons_of_ne (by decide) rest)]
        rfl
      | cons first name =>
        rw [List.cons_append, ← bracketed_append, iconNames_bracketed_append (by simp) htail]
        rfl
    · rw [List.cons_append, iconNames_cons (token?_cons_of_ne hc _), ih htail]
      simp [openedName?, hc]

/-- A statement holds of every text if it holds where no bracket closes, and passes from what comes
after the first closing bracket to the whole. -/
theorem closing_induction {motive : Text → Prop}
    (unclosed : ∀ text, ']' ∉ text → motive text)
    (close : ∀ stretch rest, ']' ∉ stretch → motive rest → motive (stretch ++ ']' :: rest))
    (text : Text) : motive text := by
  induction hsize : text.length using Nat.strongRecOn generalizing text with
  | ind size ih =>
    subst hsize
    by_cases hmem : ']' ∈ text
    · obtain ⟨stretch, rest, rfl, hstretch⟩ := List.eq_append_cons_of_mem hmem
      exact close stretch rest hstretch (ih _ (by simp; omega) rest rfl)
    · exact unclosed text hmem

/-- Where no bracket closes, all of a text comes after the last one that does. -/
theorem afterLastClose_of_not_mem (h : ']' ∉ text) : afterLastClose text = text := by
  rw [afterLastClose, List.rtakeWhile_eq_self_iff]
  exact ne_close_of_not_mem h

/-- What comes before a closing bracket does not come after the last one. -/
theorem afterLastClose_append_close (stretch rest : Text) :
    afterLastClose (stretch ++ ']' :: rest) = afterLastClose rest := by
  induction rest using List.reverseRecOn with
  | nil => simp [afterLastClose, List.rtakeWhile]
  | append_singleton tail c ih =>
    have hshape : stretch ++ ']' :: (tail ++ [c]) = (stretch ++ ']' :: tail) ++ [c] := by simp
    rw [afterLastClose, afterLastClose] at ih
    rw [hshape, afterLastClose, afterLastClose, List.rtakeWhile_concat, List.rtakeWhile_concat, ih]

/-- Where no bracket closes, nothing comes after the first one that does. -/
theorem afterFirstClose_of_not_mem (h : ']' ∉ text) : afterFirstClose text = [] := by
  rw [afterFirstClose, List.dropWhile_eq_nil_iff.2 (ne_close_of_not_mem h), List.tail_nil]

/-- A text goes on after its first closing bracket. -/
theorem afterFirstClose_append_close (h : ']' ∉ stretch) (rest : Text) :
    afterFirstClose (stretch ++ ']' :: rest) = rest := by
  rw [afterFirstClose, List.dropWhile_append_of_pos (ne_close_of_not_mem h)]
  simp

/-- Where no bracket closes on the right, no token ends there. -/
theorem tokenAhead?_of_not_mem (left : Text) (h : ']' ∉ text) : tokenAhead? left text = none :=
  if_neg h

/-- The token that ends with the next closing bracket was opened after the last one. -/
theorem tokenAhead?_append_close (left : Text) (h : ']' ∉ stretch) (rest : Text) :
    tokenAhead? left (stretch ++ ']' :: rest) = openedName? (afterLastClose left ++ stretch) := by
  rw [tokenAhead?, if_pos (by simp), List.takeWhile_append_of_pos (ne_close_of_not_mem h)]
  simp

/-- What comes before a closing bracket on the left has no part in the token on the right. -/
theorem tokenAhead?_close_left (stretch rest right : Text) :
    tokenAhead? (stretch ++ ']' :: rest) right = tokenAhead? rest right := by
  rw [tokenAhead?, tokenAhead?, afterLastClose_append_close]

/-- Between texts that meet anywhere, only the token that ends with the first closing bracket of the
second can depend on both. -/
theorem iconNames_append (left right : Text) :
    iconNames (left ++ right) =
      iconNames left ++ (tokenAhead? left right).toList ++ iconNames (afterFirstClose right) := by
  -- The stretches that close within the left text have the same icons in both; the last one, which
  -- does not close there, goes on to the first closing bracket on the right.
  induction left using closing_induction with
  | unclosed left hleft =>
    rw [iconNames_of_not_mem hleft, List.nil_append]
    by_cases hmem : ']' ∈ right
    · obtain ⟨stretch, rest, rfl, hstretch⟩ := List.eq_append_cons_of_mem hmem
      have hboth : ']' ∉ left ++ stretch := by
        rw [List.mem_append]
        exact fun h => h.elim hleft hstretch
      rw [← List.append_assoc, iconNames_append_close hboth, tokenAhead?_append_close left hstretch,
        afterLastClose_of_not_mem hleft, afterFirstClose_append_close hstretch]
    · have hboth : ']' ∉ left ++ right := by
        rw [List.mem_append]
        exact fun h => h.elim hleft hmem
      rw [iconNames_of_not_mem hboth, tokenAhead?_of_not_mem left hmem,
        afterFirstClose_of_not_mem hmem, iconNames_of_not_mem List.not_mem_nil]
      rfl
  | close stretch rest hstretch ih =>
    rw [List.append_assoc, List.cons_append, iconNames_append_close hstretch, ih,
      iconNames_append_close hstretch, tokenAhead?_close_left]
    simp only [List.append_assoc]

end ReefCards
