import ReefCards.Proofs.Text.Lowercase
import ReefCards.Proofs.Text.Occurrence

/-!
# The words of a text in lowercase

A text and its words are put into lowercase with the same result, since no character of one word
counts for the letters of another. So a word occurs in a lowercase text exactly where it occurs in
the lowercase form of a single word. Main statements: `blank_induction`, `lowercase_infix_iff` and
`lowercase_infix_of_mem_words`.
-/

namespace ReefCards.Text

variable {text word : Text}

/-- A statement holds of every text if it holds of the texts without blanks, and passes from what
comes after the first blank to the whole. -/
theorem blank_induction {motive : Text → Prop}
    (unbroken : ∀ text, (∀ c ∈ text, isBlank c = false) → motive text)
    (blank : ∀ first c rest, (∀ d ∈ first, isBlank d = false) → isBlank c = true → motive rest →
      motive (first ++ c :: rest))
    (text : Text) : motive text := by
  induction hsize : text.length using Nat.strongRecOn generalizing text with
  | ind size ih =>
    subst hsize
    cases hfind : text.find? isBlank with
    | none =>
      refine unbroken text ?_
      intro c hc
      simpa using List.find?_eq_none.1 hfind c hc
    | some c =>
      obtain ⟨hc, first, rest, rfl, hfirst⟩ := List.find?_eq_some_iff_append.1 hfind
      refine blank first c rest (by simpa using hfirst) hc (ih rest.length ?_ rest rfl)
      rw [List.length_append, List.length_cons]
      omega

/-- A text without blanks is its only word, unless it is empty. -/
theorem words_of_not_blank (h : ∀ c ∈ text, isBlank c = false) (hne : text ≠ []) :
    words text = [text] := by
  have hsplit : text.splitOnP isBlank = [text] :=
    List.splitOnP_eq_singleton fun c hc => by simp [h c hc]
  rw [words, hsplit]
  simp [hne]

/-- A word of some text occurs, in lowercase, in another text exactly when it occurs in one of the
words of that text. -/
theorem lowercase_infix_iff {source : Text} (hword : word ∈ words source) (text : Text) :
    lowercase word <:+: lowercase text ↔
      ∃ other ∈ words text, lowercase word <:+: lowercase other := by
  have hne : lowercase word ≠ [] := mt lowercase_eq_nil_iff.1 (ne_nil_of_mem_words hword)
  have hblank : ∀ c ∈ lowercase word, isBlank c = false :=
    not_blank_of_mem_lowercase (not_blank_of_mem_words source word hword)
  have hunbroken (text : Text) (h : ∀ c ∈ text, isBlank c = false) :
      lowercase word <:+: lowercase text ↔
        ∃ other ∈ words text, lowercase word <:+: lowercase other := by
    by_cases hempty : text = []
    · subst hempty
      simpa [lowercase, lowercaseFrom, words] using hne
    · rw [words_of_not_blank h hempty]
      simp
  induction text using blank_induction with
  | unbroken text h => exact hunbroken text h
  | blank first c rest hfirst hc ih =>
    have hmem : c ∉ lowercase word := by
      intro hmem
      exact absurd hc (by simp [hblank c hmem])
    rw [lowercase_append_blank hc, words_append_blank hc]
    calc lowercase word <:+: lowercase first ++ c :: lowercase rest
        ↔ lowercase word <:+: lowercase first ∨ lowercase word <:+: lowercase rest :=
          infix_append_cons_iff hmem _ _
      _ ↔ (∃ other ∈ words first, lowercase word <:+: lowercase other) ∨
            ∃ other ∈ words rest, lowercase word <:+: lowercase other :=
          or_congr (hunbroken first hfirst) ih
      _ ↔ ∃ other ∈ words first ++ words rest, lowercase word <:+: lowercase other := by
          simp only [List.mem_append, or_and_right, exists_or]

/-- A word of a text occurs, in lowercase, in the lowercase text. -/
theorem lowercase_infix_of_mem_words (h : word ∈ words text) :
    lowercase word <:+: lowercase text :=
  (lowercase_infix_iff h text).2 ⟨word, h, List.infix_refl _⟩

/-- A text has each of its words still when it goes on, in lowercase as by itself, except perhaps
the last one. -/
theorem lowercase_infix_append_or_getLast? (h : word ∈ words text) (more : Text) :
    lowercase word <:+: lowercase (text ++ more) ∨ (words text).getLast? = some word := by
  induction text using blank_induction with
  | unbroken text hblank =>
    right
    have hne : text ≠ [] := by
      rintro rfl
      simp [words] at h
    rw [words_of_not_blank hblank hne] at h ⊢
    rw [List.mem_singleton.1 h]
    rfl
  | blank first c rest hfirst hc ih =>
    rw [words_append_blank hc] at h ⊢
    rw [List.append_assoc, List.cons_append, lowercase_append_blank hc]
    rcases List.mem_append.1 h with hword | hword
    · left
      exact (lowercase_infix_of_mem_words hword).trans (List.prefix_append _ _).isInfix
    · rcases ih hword with hinfix | hlast
      · left
        exact hinfix.trans ((List.suffix_cons c _).trans (List.suffix_append _ _)).isInfix
      · right
        rw [List.getLast?_append, hlast]
        rfl

end ReefCards.Text
