import ReefCards.Proofs.Text.Lowercase
import Mathlib.Data.List.TakeWhile

/-!
# Texts that go on

What is put behind a text can change its lowercase form in one place only: the last capital sigma
is final while nothing follows, and no longer is once a cased letter does. Main statements:
`lowercase_append` and `lowercase_prefix_append_iff`.
-/

namespace ReefCards.Text

variable {text more first rest before : Text} {c : Char}

/-- Whether the last capital sigma of a text is final by the text alone, and no longer is when the
text goes on: a cased letter stands before it, behind it stand only characters that are ignored for
case, and what follows begins with a cased letter. -/
def LosesFinalSigma (text more : Text) : Prop :=
  ∃ before ignored, text = before ++ 'Σ' :: ignored ∧
    (∀ c ∈ ignored, caseIgnorables.contains c = true) ∧
    beginsCased before.reverse = true ∧ beginsCased more = true

/-- What is ignored for case does not count for how a text begins. -/
theorem beginsCased_append_of_ignorable
    (h : ∀ c ∈ first, caseIgnorables.contains c = true) (rest : Text) :
    beginsCased (first ++ rest) = beginsCased rest := by
  rw [beginsCased, List.dropWhile_append_of_pos h, ← beginsCased]

/-- A text begins as its first part does, unless all of that is ignored for case. -/
theorem beginsCased_append_of_not_ignorable
    (h : ¬ ∀ c ∈ first, caseIgnorables.contains c = true) (rest : Text) :
    beginsCased (first ++ rest) = beginsCased first := by
  have hne : first.dropWhile caseIgnorables.contains ≠ [] := mt List.dropWhile_eq_nil_iff.1 h
  obtain ⟨c, others, hdrop⟩ := List.exists_cons_of_ne_nil hne
  rw [beginsCased, beginsCased, List.dropWhile_append, hdrop]
  rfl

/-- What follows counts for the small form of a character only if that is a capital sigma, final so
far, and nothing stands between the two but what is ignored for case. -/
theorem lowercaseChar_append
    (h : c = 'Σ' → (∀ d ∈ rest, caseIgnorables.contains d = true) →
      beginsCased before = true → beginsCased more = false) :
    lowercaseChar before c (rest ++ more) = lowercaseChar before c rest := by
  by_cases hc : c = 'Σ'
  · by_cases hrest : ∀ d ∈ rest, caseIgnorables.contains d = true
    · by_cases hbefore : beginsCased before = true
      · have hempty : beginsCased rest = false := by
          rw [← List.append_nil rest, beginsCased_append_of_ignorable hrest]
          rfl
        refine lowercaseChar_congr rfl ?_ c
        rw [beginsCased_append_of_ignorable hrest, h hc hrest hbefore, hempty]
      · simp [lowercaseChar, hc, hbefore]
    · exact lowercaseChar_congr rfl (beginsCased_append_of_not_ignorable hrest more) c
  · simp [lowercaseChar, hc]

/-- Where a text does not lose its final sigma, its lowercase form stays in front when it goes
on. -/
theorem lowercase_append (h : ¬ LosesFinalSigma text more) :
    lowercase (text ++ more) = lowercase text ++ lowercaseFrom text.reverse more := by
  -- By induction on the text with any characters already passed, which count for its first sigma.
  have hfrom (passed : Text)
      (hpassed : ∀ before ignored, text = before ++ 'Σ' :: ignored →
        (∀ c ∈ ignored, caseIgnorables.contains c = true) →
        beginsCased (before.reverse ++ passed) = true → beginsCased more = false) :
      lowercaseFrom passed (text ++ more) =
        lowercaseFrom passed text ++ lowercaseFrom (text.reverse ++ passed) more := by
    clear h
    induction text generalizing passed with
    | nil => rfl
    | cons c rest ih =>
      have hchar : lowercaseChar passed c (rest ++ more) = lowercaseChar passed c rest := by
        refine lowercaseChar_append ?_
        rintro rfl hrest hcased
        exact hpassed [] rest rfl hrest hcased
      have hrest : lowercaseFrom (c :: passed) (rest ++ more) =
          lowercaseFrom (c :: passed) rest ++
            lowercaseFrom (rest.reverse ++ c :: passed) more := by
        refine ih (c :: passed) ?_
        intro before ignored heq hignored hbefore
        refine hpassed (c :: before) ignored (by rw [heq, List.cons_append]) hignored ?_
        rwa [List.reverse_cons, List.append_assoc, List.singleton_append]
      rw [List.cons_append, lowercaseFrom, lowercaseFrom, hchar, hrest, List.append_assoc,
        List.reverse_cons, List.append_assoc, List.singleton_append]
  rw [lowercase, hfrom [] ?_, List.append_nil, ← lowercase]
  intro before ignored heq hignored hbefore
  rw [List.append_nil] at hbefore
  by_contra hmore
  exact h ⟨before, ignored, heq, hignored, hbefore, by simpa using hmore⟩

/-- The small forms of what stands before a capital sigma do not depend on what stands behind it. -/
theorem exists_lowercaseFrom_append_sigma (passed text : Text) :
    ∃ small, ∀ after, lowercaseFrom passed (text ++ 'Σ' :: after) =
      small ++ lowercaseFrom (text.reverse ++ passed) ('Σ' :: after) := by
  induction text generalizing passed with
  | nil => exact ⟨[], fun after => rfl⟩
  | cons c rest ih =>
    obtain ⟨small, hsmall⟩ := ih (c :: passed)
    refine ⟨lowercaseChar passed c (rest ++ ['Σ']) ++ small, ?_⟩
    intro after
    have hchar : lowercaseChar passed c (rest ++ 'Σ' :: after) =
        lowercaseChar passed c (rest ++ ['Σ']) := by
      rw [List.append_cons]
      refine lowercaseChar_append ?_
      intro _ hignored _
      have hsigma : caseIgnorables.contains 'Σ' = false := by decide +kernel
      exact absurd (hignored 'Σ' (List.mem_append_right _ List.mem_cons_self)) (by simp [hsigma])
    rw [List.cons_append, lowercaseFrom, hchar, hsmall after, List.append_assoc,
      List.reverse_cons, List.append_assoc, List.singleton_append]

/-- The lowercase form of a text stays in front when the text goes on exactly if the text does not
lose its final sigma by that. -/
theorem lowercase_prefix_append_iff (text more : Text) :
    lowercase text <+: lowercase (text ++ more) ↔ ¬ LosesFinalSigma text more := by
  constructor
  · rintro hprefix ⟨before, ignored, rfl, hignored, hbefore, hmore⟩
    obtain ⟨small, hsmall⟩ := exists_lowercaseFrom_append_sigma [] before
    rw [List.append_nil] at hsmall
    have hempty : beginsCased ignored = false := by
      rw [← List.append_nil ignored, beginsCased_append_of_ignorable hignored]
      rfl
    have hgoesOn : beginsCased (ignored ++ more) = true := by
      rw [beginsCased_append_of_ignorable hignored, hmore]
    -- Behind the same small forms stands a final sigma in one text and another one in the other.
    rw [List.append_assoc, List.cons_append, lowercase, lowercase, hsmall, hsmall,
      List.prefix_append_right_inj, lowercaseFrom, lowercaseFrom, lowercaseChar, lowercaseChar,
      if_pos rfl, if_pos rfl, hbefore, hempty, hgoesOn] at hprefix
    simp at hprefix
  · intro h
    rw [lowercase_append h]
    exact List.prefix_append _ _

/-- A sigma at the end of a word is final until the word goes on. -/
example : lowercase "ΟΣ" = "ος".toList ∧ lowercase "ΟΣΑ" = "οσα".toList := by decide +kernel

end ReefCards.Text
