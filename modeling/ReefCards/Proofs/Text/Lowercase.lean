import ReefCards.Proofs.Text.Blank
import ReefCards.Text.Lowercase
import Mathlib.Data.List.Basic

/-!
# Lowercase texts by parts

Whether a capital sigma is final depends on the characters around it, but never on what stands
beyond a blank: blanks are neither cased nor ignored for case. So a text may be put into lowercase
part by part. Main statements: `lowercase_append_blank`, `lowercase_join` and
`not_blank_of_mem_lowercase`.
-/

namespace ReefCards.Text

variable {c : Char} {text : Text}

/-- A blank is neither cased nor ignored for case, and has no small form. -/
theorem case_of_blank (hc : isBlank c = true) :
    casedLetters.contains c = false ∧ caseIgnorables.contains c = false ∧ smallLetter c = c := by
  have hall : blanks.all (fun d => !casedLetters.contains d && !caseIgnorables.contains d &&
      smallLetter d == d) = true := by decide +kernel
  have := List.all_eq_true.1 hall c (by simpa [isBlank] using hc)
  simpa [and_assoc] using this

/-- A blank stays as it is. -/
theorem lowercaseChar_of_blank (hc : isBlank c = true) (before after : Text) :
    lowercaseChar before c after = [c] := by
  have hsigma : c ≠ 'Σ' := by
    rintro rfl
    exact absurd hc (by decide)
  have hdot : c ≠ 'İ' := by
    rintro rfl
    exact absurd hc (by decide)
  rw [lowercaseChar, if_neg hsigma, if_neg hdot, (case_of_blank hc).2.2]

/-- What stands beyond a blank does not count for how a text begins. -/
theorem beginsCased_append_blank (hc : isBlank c = true) (first rest : Text) :
    beginsCased (first ++ c :: rest) = beginsCased first := by
  obtain ⟨hcased, hignorable, -⟩ := case_of_blank hc
  rw [beginsCased, beginsCased, List.dropWhile_append]
  cases hdrop : first.dropWhile caseIgnorables.contains with
  | nil => simp [hignorable, hcased]
  | cons d others => simp

/-- The small form of a character depends on no more than how the texts around it begin. -/
theorem lowercaseChar_congr {before after before' after' : Text}
    (hbefore : beginsCased before = beginsCased before')
    (hafter : beginsCased after = beginsCased after') (c : Char) :
    lowercaseChar before c after = lowercaseChar before' c after' := by
  rw [lowercaseChar, lowercaseChar, hbefore, hafter]

/-- What came before a blank does not count for the text after it. -/
theorem lowercaseFrom_append_blank (hc : isBlank c = true) (before beyond text : Text) :
    lowercaseFrom (before ++ c :: beyond) text = lowercaseFrom before text := by
  induction text generalizing before with
  | nil => rfl
  | cons d rest ih =>
    rw [lowercaseFrom, lowercaseFrom, ← List.cons_append, ih,
      lowercaseChar_congr (beginsCased_append_blank hc before beyond) rfl]

/-- A text is put into lowercase before a blank and after it, each part by itself. -/
theorem lowercase_append_blank (hc : isBlank c = true) (left right : Text) :
    lowercase (left ++ c :: right) = lowercase left ++ c :: lowercase right := by
  have hfrom (before : Text) : lowercaseFrom before (left ++ c :: right) =
      lowercaseFrom before left ++ c :: lowercase right := by
    induction left generalizing before with
    | nil =>
      rw [List.nil_append, lowercaseFrom, lowercaseFrom, lowercaseChar_of_blank hc,
        ← List.nil_append (c :: before), lowercaseFrom_append_blank hc]
      rfl
    | cons d rest ih =>
      rw [List.cons_append, lowercaseFrom, lowercaseFrom, ih, List.append_assoc,
        lowercaseChar_congr rfl (beginsCased_append_blank hc rest right)]
  exact hfrom []

/-- Parts joined by a blank are put into lowercase each by itself. -/
theorem lowercase_join (hc : isBlank c = true) (parts : List Text) :
    lowercase (join [c] parts) = join [c] (parts.map lowercase) := by
  induction parts with
  | nil => rfl
  | cons first rest ih =>
    cases rest with
    | nil => simp [join]
    | cons second others =>
      rw [join_cons_cons, List.singleton_append, lowercase_append_blank hc, ih]
      exact (join_cons_cons [c] _ _ _).symm

/-- A character made from a number has that number, or zero if there is no such character. -/
theorem toNat_ofNat_eq_or (n : Nat) : (Char.ofNat n).toNat = n ∨ (Char.ofNat n).toNat = 0 := by
  by_cases h : n.isValidChar
  · left
    rw [Char.ofNat, dif_pos h]
    rfl
  · right
    rw [Char.ofNat, dif_neg h]
    rfl

/-- No small form of a run is blank. -/
theorem CaseRun.not_blank_of_apply? {run : CaseRun} {small : Char} (hrun : run ∈ caseRuns)
    (h : run.apply? c = some small) : isBlank small = false := by
  have hall : caseRuns.all (fun run => blanks.all fun blank => decide (0 < blank.toNat ∧
      (blank.toNat < run.target ∨ run.target + (run.last - run.first) < blank.toNat))) = true := by
    decide +kernel
  unfold CaseRun.apply? at h
  dsimp only at h
  split at h
  · next hrange =>
    obtain rfl := Option.some.inj h
    by_contra hblank
    have hmem : Char.ofNat (run.target + (c.toNat - run.first)) ∈ blanks := by
      simpa [isBlank] using hblank
    have hbounds := List.all_eq_true.1 (List.all_eq_true.1 hall run hrun) _ hmem
    rw [decide_eq_true_eq] at hbounds
    have hnumber := toNat_ofNat_eq_or (run.target + (c.toNat - run.first))
    omega
  · simp at h

/-- The small form of a character that is not blank is not blank. -/
theorem not_blank_smallLetter (hc : isBlank c = false) : isBlank (smallLetter c) = false := by
  rw [smallLetter]
  split
  · next hascii =>
    have hall : ∀ n < 0x80, isBlank (Char.ofNat n).toLower = isBlank (Char.ofNat n) := by
      decide +kernel
    have hsame := hall c.toNat hascii
    rwa [Char.ofNat_toNat, hc] at hsame
  · cases hfound : caseRuns.findSome? fun run => run.apply? c with
    | none => exact hc
    | some small =>
      obtain ⟨run, hrun, happly⟩ := List.exists_of_findSome?_eq_some hfound
      exact CaseRun.not_blank_of_apply? hrun happly

/-- A character that is not blank has no blank in its small form. -/
theorem not_blank_of_mem_lowercaseChar (hc : isBlank c = false) (before after : Text) :
    ∀ d ∈ lowercaseChar before c after, isBlank d = false := by
  intro d hd
  rw [lowercaseChar] at hd
  split at hd
  · obtain rfl := List.mem_singleton.1 hd
    split <;> decide
  · split at hd
    · obtain rfl | rfl := List.mem_pair.1 hd
      · decide
      · decide
    · obtain rfl := List.mem_singleton.1 hd
      exact not_blank_smallLetter hc

/-- In lowercase a text without blanks has none. -/
theorem not_blank_of_mem_lowercase (h : ∀ c ∈ text, isBlank c = false) :
    ∀ c ∈ lowercase text, isBlank c = false := by
  have hfrom (before : Text) : ∀ d ∈ lowercaseFrom before text, isBlank d = false := by
    induction text generalizing before with
    | nil => simp [lowercaseFrom]
    | cons c rest ih =>
      obtain ⟨hc, hrest⟩ := List.forall_mem_cons.1 h
      rw [lowercaseFrom, List.forall_mem_append]
      exact ⟨not_blank_of_mem_lowercaseChar hc before rest, ih hrest (c :: before)⟩
  exact hfrom []

/-- Every character has a small form. -/
theorem lowercaseChar_ne_nil (before after : Text) (c : Char) :
    lowercaseChar before c after ≠ [] := by
  rw [lowercaseChar]
  split
  · simp
  · split <;> simp

/-- Only the empty text is empty in lowercase. -/
theorem lowercase_eq_nil_iff : lowercase text = [] ↔ text = [] := by
  cases text with
  | nil => exact ⟨fun _ => rfl, fun _ => rfl⟩
  | cons c rest => simp [lowercase, lowercaseFrom, lowercaseChar_ne_nil]

end ReefCards.Text
