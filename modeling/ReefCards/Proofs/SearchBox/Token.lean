import ReefCards.SearchBox.Piece
import Mathlib.Data.List.TakeWhile

/-!
# Tokens at the start of a text

When `token?` finds a token and when it does not, and how the two readers of a search text,
`Piece.ofText` and `sanitize`, go on in each case. Main statements: `token?_eq_some_iff` and
`token_induction`, which follows a text from token to token.
-/

namespace ReefCards

variable {name after rest text : Text} {c : Char}

/-- No character of a text without closing brackets is one. -/
theorem ne_close_of_not_mem (h : ']' ∉ text) : ∀ d ∈ text, (d != ']') = true := by
  intro d hd
  have hne : d ≠ ']' := fun heq => h (heq ▸ hd)
  simpa using hne

/-- A name without closing brackets is read back from between its brackets. -/
theorem token?_bracketed_append (hname : name ≠ []) (hclose : ']' ∉ name) (after : Text) :
    token? (bracketed name ++ after) = some (name, after) := by
  have hinner := ne_close_of_not_mem hclose
  cases name with
  | nil => exact absurd rfl hname
  | cons first inner =>
    rw [bracketed_append, token?, List.takeWhile_append_of_pos hinner,
      List.dropWhile_append_of_pos hinner]
    simp

/-- A token is a name between brackets, where the name is not empty and holds no closing bracket. -/
theorem token?_eq_some_iff :
    token? text = some (name, after) ↔
      name ≠ [] ∧ ']' ∉ name ∧ text = bracketed name ++ after := by
  constructor
  · intro h
    unfold token? at h
    split at h
    · next inner =>
      split at h
      · next first others close behind htake hdrop =>
        obtain ⟨rfl, rfl⟩ := Prod.mk.inj (Option.some.inj h)
        have hclosed : (close != ']') = false := by
          have := List.head_dropWhile_not (fun d => d != ']') (l := inner) (by simp [hdrop])
          simpa [hdrop] using this
        obtain rfl : close = ']' := by simpa using hclosed
        refine ⟨by simp, ?_, ?_⟩
        · intro hmem
          have := List.mem_takeWhile_imp (htake ▸ hmem)
          simp at this
        · rw [← List.takeWhile_append_dropWhile (p := fun d => d != ']') (l := inner), htake, hdrop,
            bracketed_append]
      · simp at h
    · simp at h
  · rintro ⟨hname, hclose, rfl⟩
    exact token?_bracketed_append hname hclose after

/-- No token begins with another character than an opening bracket. -/
theorem token?_cons_of_ne (hc : c ≠ '[') (rest : Text) : token? (c :: rest) = none := by
  unfold token?
  split
  · next heq => exact absurd (List.cons.inj heq).1 hc
  · rfl

/-- Nothing between the brackets makes no token. -/
theorem token?_empty_brackets (rest : Text) : token? ('[' :: ']' :: rest) = none := rfl

/-- Where no closing bracket follows, there is no token. -/
theorem token?_eq_none_of_not_mem (h : ']' ∉ text) : token? text = none := by
  rw [Option.eq_none_iff_forall_ne_some]
  rintro ⟨name, after⟩ hsome
  obtain ⟨-, -, rfl⟩ := token?_eq_some_iff.1 hsome
  simp [bracketed] at h

/-- A character that begins no token is no opening bracket, or a closing bracket comes right after
it, or none comes at all. -/
theorem token?_cons_eq_none_iff :
    token? (c :: rest) = none ↔ c ≠ '[' ∨ (∃ behind, rest = ']' :: behind) ∨ ']' ∉ rest := by
  constructor
  · intro h
    by_cases hc : c = '['
    · subst hc
      by_cases hmem : ']' ∈ rest
      · obtain ⟨inner, behind, rfl, hinner⟩ := List.eq_append_cons_of_mem hmem
        cases inner with
        | nil => exact .inr (.inl ⟨behind, rfl⟩)
        | cons first others =>
          have hsome := token?_bracketed_append (by simp) hinner behind
          rw [bracketed_append] at hsome
          exact absurd (hsome.symm.trans h) (by simp)
      · exact .inr (.inr hmem)
    · exact .inl hc
  · rintro (hc | ⟨behind, rfl⟩ | hmem)
    · exact token?_cons_of_ne hc rest
    · by_cases hc : c = '['
      · subst hc
        exact token?_empty_brackets behind
      · exact token?_cons_of_ne hc _
    · by_cases hc : c = '['
      · subst hc
        exact token?_eq_none_of_not_mem (by simpa using hmem)
      · exact token?_cons_of_ne hc _

/-- A statement holds of every text if it holds of the empty one and passes from the rest of a text
to the text, where the rest comes after a token or after a character that begins none. -/
theorem token_induction {motive : Text → Prop} (nil : motive [])
    (token : ∀ name after, name ≠ [] → ']' ∉ name → motive after →
      motive (bracketed name ++ after))
    (char : ∀ c rest, token? (c :: rest) = none → motive rest → motive (c :: rest))
    (text : Text) : motive text := by
  -- By the length of the text, since a token is longer than one character.
  induction hsize : text.length using Nat.strongRecOn generalizing text with
  | ind size ih =>
    subst hsize
    cases text with
    | nil => exact nil
    | cons c rest =>
      cases h : token? (c :: rest) with
      | none => exact char c rest h (ih _ (by simp) rest rfl)
      | some found =>
        obtain ⟨name, after⟩ := found
        have hlt := length_lt_of_token? _ _ h
        obtain ⟨hname, hclose, heq⟩ := token?_eq_some_iff.1 h
        rw [heq]
        exact token name after hname hclose (ih _ hlt after rfl)

namespace Piece

/-- The pieces of a text that begins with a token. -/
theorem ofText_of_token? (h : token? text = some (name, after)) :
    ofText text = .icon name :: ofText after := by
  cases text with
  | nil => exact absurd h (by simp [token?])
  | cons c rest =>
    rw [ofText]
    split
    · next heq =>
      obtain ⟨rfl, rfl⟩ := Prod.mk.inj (Option.some.inj (h.symm.trans heq))
      rfl
    · next heq => exact absurd (h.symm.trans heq) (by simp)

/-- The pieces of a text that begins with a bracketed name. -/
theorem ofText_bracketed_append (hname : name ≠ []) (hclose : ']' ∉ name) (after : Text) :
    ofText (bracketed name ++ after) = .icon name :: ofText after :=
  ofText_of_token? (token?_bracketed_append hname hclose after)

/-- The pieces of a text that begins with no token. -/
theorem ofText_cons (h : token? (c :: rest) = none) :
    ofText (c :: rest) = pushChar c (ofText rest) := by
  rw [ofText]
  split
  · next heq => exact absurd (h.symm.trans heq) (by simp)
  · rfl

end Piece

variable {vocabulary : Vocabulary}

/-- Nothing is left of the empty text. -/
@[simp]
theorem sanitize_nil : sanitize vocabulary [] = [] := by rw [sanitize]

/-- A token at the start of a text stays if its name is in the vocabulary, and goes if not. -/
theorem sanitize_of_token? (h : token? text = some (name, after)) :
    sanitize vocabulary text =
      (if name ∈ vocabulary then bracketed name else []) ++ sanitize vocabulary after := by
  cases text with
  | nil => exact absurd h (by simp [token?])
  | cons c rest =>
    rw [sanitize]
    split
    · next heq =>
      obtain ⟨rfl, rfl⟩ := Prod.mk.inj (Option.some.inj (h.symm.trans heq))
      rfl
    · next heq => exact absurd (h.symm.trans heq) (by simp)

/-- A bracketed name at the start of a text stays if it is in the vocabulary, and goes if not. -/
theorem sanitize_bracketed_append (hname : name ≠ []) (hclose : ']' ∉ name) (after : Text) :
    sanitize vocabulary (bracketed name ++ after) =
      (if name ∈ vocabulary then bracketed name else []) ++ sanitize vocabulary after :=
  sanitize_of_token? (token?_bracketed_append hname hclose after)

/-- A character that begins no token stays. -/
theorem sanitize_cons (h : token? (c :: rest) = none) :
    sanitize vocabulary (c :: rest) = c :: sanitize vocabulary rest := by
  rw [sanitize]
  split
  · next heq => exact absurd (h.symm.trans heq) (by simp)
  · rfl

end ReefCards
