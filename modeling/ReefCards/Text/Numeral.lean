import ReefCards.Text.Basic

/-!
# Natural numbers in text

Writing a natural number in decimal digits and reading one back within a limit. Main statement:
`natural?_decimal`, a written number below the limit reads back as itself.
-/

namespace ReefCards.Text

/-- The decimal digits of a number, without leading zeros. -/
def decimal (n : Nat) : Text := Nat.toDigits 10 n

/-- The number that one or more decimal digits stand for. -/
def digits? (text : Text) : Option Nat :=
  if text.isEmpty then none
  else if text.all Char.isDigit then some (Nat.ofDigitChars 10 text 0)
  else none

/-- The number below `limit` that the text stands for: decimal digits, which a plus sign may
precede. -/
def natural? (limit : Nat) (text : Text) : Option Nat :=
  let unsigned := match text with
    | '+' :: rest => rest
    | _ => text
  (digits? unsigned).filter (· < limit)

/-- The digits of a number read back as the number. -/
theorem digits?_decimal (n : Nat) : digits? (decimal n) = some n := by
  have hne : decimal n ≠ [] := Nat.toDigits_ne_nil
  have hall : (decimal n).all Char.isDigit = true := by
    rw [List.all_eq_true]
    intro c hc
    exact Nat.isDigit_of_mem_toDigits (by decide) (by decide) hc
  have hvalue : Nat.ofDigitChars 10 (decimal n) 0 = n :=
    Nat.ofDigitChars_toDigits (by decide) (by decide)
  simp [digits?, hall, hvalue, hne]

/-- A number below the limit is read back from its digits. -/
theorem natural?_decimal (limit n : Nat) (h : n < limit) :
    natural? limit (decimal n) = some n := by
  have hplus : ∀ rest, decimal n ≠ '+' :: rest := by
    intro rest heq
    have hc : ('+' : Char) ∈ Nat.toDigits 10 n := by
      rw [show Nat.toDigits 10 n = decimal n from rfl, heq]
      exact List.mem_cons_self
    exact absurd (Nat.isDigit_of_mem_toDigits (by decide) (by decide) hc) (by decide)
  unfold natural?
  split
  · next rest heq => exact absurd heq (hplus rest)
  · simp [digits?_decimal, h]

end ReefCards.Text
