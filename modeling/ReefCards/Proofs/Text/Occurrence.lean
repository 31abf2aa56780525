import ReefCards.Proofs.Text.Blank
import Mathlib.Data.List.Infix

/-!
# Words across a separator

A word without a certain character does not reach across it. Main statement: `infix_join_iff`, such
a word occurs in parts joined by that character exactly when it occurs in one of the parts.
-/

namespace ReefCards.Text

variable {word : Text} {separator : Char}

/-- A word without the separator stands at the start of a text exactly when it stands at the start
of what comes before the separator. -/
theorem prefix_append_cons_iff (h : separator ∉ word) (left right : Text) :
    word <+: left ++ separator :: right ↔ word <+: left := by
  constructor
  · intro hword
    rcases List.prefix_or_prefix_of_prefix hword (List.prefix_append left _) with
      hleft | ⟨tail, rfl⟩
    · exact hleft
    · -- The word goes beyond the left text only if the separator is its next character.
      rw [List.prefix_append_right_inj, List.prefix_cons_iff] at hword
      rcases hword with rfl | ⟨others, rfl, -⟩
      · rw [List.append_nil]
      · simp at h
  · exact fun hword => hword.trans (List.prefix_append left _)

/-- A word without the separator occurs around it exactly when it occurs on one of its sides. -/
theorem infix_append_cons_iff (h : separator ∉ word) (left right : Text) :
    word <:+: left ++ separator :: right ↔ word <:+: left ∨ word <:+: right := by
  induction left with
  | nil =>
    rw [List.nil_append, List.infix_cons_iff, List.infix_nil]
    refine or_congr_left ?_
    rw [← List.nil_append (separator :: right), prefix_append_cons_iff h, List.prefix_nil]
  | cons c rest ih =>
    rw [List.cons_append, List.infix_cons_iff, ih, ← List.cons_append, prefix_append_cons_iff h,
      List.infix_cons_iff, or_assoc]

/-- A word that is not empty and lacks the separator occurs in joined parts exactly when it occurs
in one of them. -/
theorem infix_join_iff (hword : word ≠ []) (h : separator ∉ word) (parts : List Text) :
    word <:+: join [separator] parts ↔ ∃ part ∈ parts, word <:+: part := by
  induction parts with
  | nil => simpa [join] using hword
  | cons first rest ih =>
    cases rest with
    | nil => simp [join]
    | cons second others =>
      rw [join_cons_cons, List.singleton_append, infix_append_cons_iff h, ih]
      exact (List.exists_mem_cons_iff _ _ _).symm

end ReefCards.Text
