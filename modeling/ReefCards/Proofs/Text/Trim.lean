import ReefCards.Proofs.Text.Blank
import Mathlib.Data.List.DropRight

/-!
# Trimmed texts

What trimming leaves of a text and of two texts put together. Main statements: `trim_trim`,
`trim_infix`, `trimEnd_append` and `isTight_trim`, which says of a trimmed text what a reader sees:
no blank stands at its ends.
-/

namespace ReefCards.Text

variable {c : Char} {text first : Text}

/-- A text keeps its start exactly when it begins with no blank. -/
theorem trimStart_cons_eq_self_iff (c : Char) (rest : Text) :
    trimStart (c :: rest) = c :: rest ↔ isBlank c = false := by
  constructor
  · intro h
    by_contra hblank
    have hdrop : trimStart rest = c :: rest := by
      rwa [trimStart, List.dropWhile_cons_of_pos (by simpa using hblank)] at h
    have hle : (trimStart rest).length ≤ rest.length := (List.dropWhile_sublist _).length_le
    rw [hdrop, List.length_cons] at hle
    omega
  · exact fun hc => List.dropWhile_cons_of_neg (by simp [hc])

/-- A text that begins as one without blanks at its start has none there either. -/
theorem trimStart_of_prefix (h : trimStart text = text) (hfirst : first <+: text) :
    trimStart first = first := by
  obtain ⟨rest, rfl⟩ := hfirst
  cases first with
  | nil => rfl
  | cons c others =>
    rw [List.cons_append, trimStart_cons_eq_self_iff] at h
    rwa [trimStart_cons_eq_self_iff]

/-- Behind a text with no blanks at its start, nothing is trimmed there. -/
theorem trimStart_append (hne : first ≠ []) (h : trimStart first = first) (last : Text) :
    trimStart (first ++ last) = first ++ last := by
  cases first with
  | nil => exact absurd rfl hne
  | cons c others =>
    rw [trimStart_cons_eq_self_iff] at h
    rwa [List.cons_append, trimStart_cons_eq_self_iff]

/-- Blanks at the end of a text are trimmed in its last part, or in the part before that if nothing
is left of the last. -/
theorem trimEnd_append (first last : Text) :
    trimEnd (first ++ last) =
      if trimEnd last = [] then trimEnd first else first ++ trimEnd last := by
  have hempty : (last.reverse.dropWhile isBlank).isEmpty = true ↔ trimEnd last = [] := by
    rw [trimEnd, List.isEmpty_iff, List.reverse_eq_nil_iff]
  rw [trimEnd, List.reverse_append, List.dropWhile_append]
  by_cases h : trimEnd last = []
  · rw [if_pos (hempty.2 h), if_pos h]
    rfl
  · rw [if_neg (mt hempty.1 h), if_neg h, List.reverse_append, List.reverse_reverse]
    rfl

/-- Behind a text with no blanks at its end, only what comes after it is trimmed. -/
theorem trimEnd_append_of_trimEnd_eq (h : trimEnd first = first) (last : Text) :
    trimEnd (first ++ last) = first ++ trimEnd last := by
  rw [trimEnd_append]
  split
  · next hlast => rw [hlast, h, List.append_nil]
  · rfl

/-- A trimmed text has no blanks left at its start. -/
theorem trimStart_trim (text : Text) : trimStart (trim text) = trim text :=
  trimStart_of_prefix (List.dropWhile_idempotent isBlank text)
    (List.rdropWhile_prefix isBlank (trimStart text))

/-- A trimmed text has no blanks left at its end. -/
theorem trimEnd_trim (text : Text) : trimEnd (trim text) = trim text :=
  List.rdropWhile_idempotent isBlank (trimStart text)

/-- A trimmed text has nothing more to trim. -/
theorem trim_trim (text : Text) : trim (trim text) = trim text := by
  rw [trim, trimStart_trim, trimEnd_trim]

/-- Nothing is left of a trimmed text exactly when all of the text is blank. -/
theorem trim_eq_nil_iff (text : Text) : trim text = [] ↔ ∀ c ∈ text, isBlank c = true := by
  constructor
  · intro h
    rw [← withoutBlanks_eq_nil_iff, ← withoutBlanks_trim, h]
    rfl
  · intro h
    rw [trim, trimStart, List.dropWhile_eq_nil_iff.2 h]
    rfl

/-- Blanks before and behind a text are trimmed with it. -/
theorem trim_append_append {before behind : Text} (hbefore : ∀ c ∈ before, isBlank c = true)
    (hbehind : ∀ c ∈ behind, isBlank c = true) (text : Text) :
    trim (before ++ (text ++ behind)) = trim text := by
  by_cases hblank : ∀ c ∈ text, isBlank c = true
  · have hall : ∀ c ∈ before ++ (text ++ behind), isBlank c = true :=
      List.forall_mem_append.2 ⟨hbefore, List.forall_mem_append.2 ⟨hblank, hbehind⟩⟩
    rw [(trim_eq_nil_iff text).2 hblank, (trim_eq_nil_iff _).2 hall]
  · have hne : trimStart text ≠ [] := fun h => hblank (List.dropWhile_eq_nil_iff.1 h)
    have hstart : trimStart (before ++ (text ++ behind)) = trimStart text ++ behind := by
      rw [trimStart, List.dropWhile_append_of_pos hbefore, List.dropWhile_append]
      exact if_neg (mt List.isEmpty_iff.1 hne)
    have hend : trimEnd behind = [] := List.rdropWhile_eq_nil_iff.2 hbehind
    rw [trim, hstart, trimEnd_append, if_pos hend, trim]

/-- A trimmed text is part of the text. -/
theorem trim_infix (text : Text) : trim text <:+: text :=
  (List.rdropWhile_prefix isBlank _).isInfix.trans (List.dropWhile_suffix isBlank).isInfix

/-- A text without blanks has nothing to trim at its end. -/
theorem trimEnd_of_not_blank (h : ∀ c ∈ text, isBlank c = false) : trimEnd text = text := by
  refine List.rdropWhile_eq_self_iff.2 fun hne => ?_
  simp [h _ (List.getLast_mem hne)]

/-- A text without blanks has nothing to trim. -/
theorem trim_of_not_blank (h : ∀ c ∈ text, isBlank c = false) : trim text = text := by
  cases text with
  | nil => rfl
  | cons c rest =>
    rw [trim, (trimStart_cons_eq_self_iff c rest).2 (h c List.mem_cons_self),
      trimEnd_of_not_blank h]

/-- Behind a character that is not blank, only the end of a text is trimmed. -/
theorem trim_cons_of_not_blank (hc : isBlank c = false) (rest : Text) :
    trim (c :: rest) = c :: trimEnd rest := by
  have hsingle : trimEnd [c] = [c] := trimEnd_of_not_blank (by simpa using hc)
  rw [trim, (trimStart_cons_eq_self_iff c rest).2 hc]
  exact trimEnd_append_of_trimEnd_eq hsingle rest

/-- A text is a trimmed one with blanks on its two sides. -/
theorem exists_eq_trim_append (text : Text) :
    ∃ before behind : Text, (∀ c ∈ before, isBlank c = true) ∧ (∀ c ∈ behind, isBlank c = true) ∧
      text = before ++ (trim text ++ behind) := by
  refine ⟨text.takeWhile isBlank, (trimStart text).rtakeWhile isBlank,
    fun c hc => List.mem_takeWhile_imp hc, fun c hc => List.mem_rtakeWhile_imp hc, ?_⟩
  have hend : trim text ++ (trimStart text).rtakeWhile isBlank = trimStart text :=
    List.rdropWhile_append_rtakeWhile
  rw [hend, trimStart, List.takeWhile_append_dropWhile]

/-- No blank stands at either end of the text. -/
structure IsTight (text : Text) : Prop where
  first : ∀ c ∈ text.head?, isBlank c = false
  last : ∀ c ∈ text.getLast?, isBlank c = false

/-- The empty text has no blank at its ends. -/
theorem isTight_nil : IsTight [] := ⟨by simp, by simp⟩

/-- A trimmed text has no blank at its ends. -/
theorem isTight_trim (text : Text) : IsTight (trim text) := by
  constructor
  · intro c hc
    have hstart := trimStart_trim text
    obtain ⟨rest, htrim⟩ := List.head?_eq_some_iff.1 hc
    rw [htrim] at hstart
    exact (trimStart_cons_eq_self_iff c rest).1 hstart
  · intro c hc
    have hend : (trim text).rdropWhile isBlank = trim text := trimEnd_trim text
    obtain ⟨hne, rfl⟩ := List.mem_getLast?_eq_getLast hc
    simpa using List.rdropWhile_eq_self_iff.1 hend hne

/-- A text without blanks has none at its ends. -/
theorem isTight_of_not_blank (h : ∀ c ∈ text, isBlank c = false) : IsTight text :=
  ⟨fun c hc => h c (List.mem_of_mem_head? hc), fun c hc => h c (List.mem_of_mem_getLast? hc)⟩

/-- Whatever stands between two texts, only their outer ends count. -/
theorem IsTight.append_append {last : Text} (hfirst : IsTight first) (hlast : IsTight last)
    (hneFirst : first ≠ []) (hneLast : last ≠ []) (between : Text) :
    IsTight (first ++ (between ++ last)) := by
  constructor
  · rw [List.head?_append_of_ne_nil _ hneFirst]
    exact hfirst.first
  · rw [← List.append_assoc, List.getLast?_append_of_ne_nil _ hneLast]
    exact hlast.last

/-- A text between two characters that are not blank has no blank at its ends. -/
theorem isTight_cons_concat {d : Char} (hc : isBlank c = false) (hd : isBlank d = false)
    (text : Text) : IsTight (c :: (text ++ [d])) := by
  have hfirst : IsTight [c] := isTight_of_not_blank (by simpa using hc)
  have hlast : IsTight [d] := isTight_of_not_blank (by simpa using hd)
  exact hfirst.append_append hlast (by simp) (by simp) text

/-- Parts without blanks at their ends are joined to a text without blanks at its ends. -/
theorem isTight_join (separator : Text) {first : Text} {parts : List Text}
    (hfirst : first ≠ [] ∧ IsTight first) (hparts : ∀ part ∈ parts, part ≠ [] ∧ IsTight part) :
    join separator (first :: parts) ≠ [] ∧ IsTight (join separator (first :: parts)) := by
  induction parts generalizing first with
  | nil => simpa [join] using hfirst
  | cons second others ih =>
    obtain ⟨hsecond, hothers⟩ := List.forall_mem_cons.1 hparts
    obtain ⟨hne, htight⟩ := ih hsecond hothers
    rw [join_cons_cons]
    exact ⟨by simp [hfirst.1], hfirst.2.append_append htight hfirst.1 hne separator⟩

end ReefCards.Text
