import ReefCards.Text.Blank
import ReefCards.Text.Numeral
import Mathlib.Data.List.TakeWhile

/-!
# Texts that write numbers

`WritesNatural` says which texts stand for a number, without mention of how they are read. Main
statement: `natural?_eq_some_iff`, exactly these texts are read.
-/

namespace ReefCards.Text

variable {limit n : Nat} {c : Char} {text : Text}

/-- No blank is a digit. -/
theorem isDigit_of_blank (hblank : isBlank c = true) : c.isDigit = false := by
  have hall : blanks.all (fun d => !d.isDigit) = true := by decide
  simpa using List.all_eq_true.1 hall c (by simpa [isBlank] using hblank)

/-- Digits are no blanks. -/
theorem isBlank_of_isDigit (hdigit : c.isDigit = true) : isBlank c = false := by
  cases hblank : isBlank c with
  | false => rfl
  | true =>
    rw [isDigit_of_blank hblank] at hdigit
    cases hdigit

section Digits

variable {digits rest : Text}

/-- Digits are taken up to the first other character. -/
theorem takeWhile_isDigit_append (hdigits : ∀ c ∈ digits, c.isDigit = true)
    (hrest : ∀ c ∈ rest.head?, c.isDigit = false) :
    (digits ++ rest).takeWhile Char.isDigit = digits := by
  rw [List.takeWhile_append_of_pos hdigits]
  cases rest with
  | nil => simp
  | cons c rest => simp [hrest c rfl]

/-- What follows digits is left when they are taken. -/
theorem dropWhile_isDigit_append (hdigits : ∀ c ∈ digits, c.isDigit = true)
    (hrest : ∀ c ∈ rest.head?, c.isDigit = false) :
    (digits ++ rest).dropWhile Char.isDigit = rest := by
  rw [List.dropWhile_append_of_pos hdigits]
  cases rest with
  | nil => simp
  | cons c rest => simp [hrest c rfl]

/-- The decimal digits of a number are digits. -/
theorem isDigit_of_mem_decimal (h : c ∈ decimal n) : c.isDigit = true :=
  Nat.isDigit_of_mem_toDigits (by decide) (by decide) h

/-- A number has digits. -/
theorem decimal_ne_nil (n : Nat) : decimal n ≠ [] := Nat.toDigits_ne_nil

end Digits

/-- The text writes the number, which is below `limit`: one or more decimal digits, before which a
plus sign may stand. -/
def WritesNatural (limit : Nat) (text : Text) (n : Nat) : Prop :=
  ∃ plus digits : Text, text = plus ++ digits ∧ (plus = [] ∨ plus = ['+']) ∧ digits ≠ [] ∧
    (∀ c ∈ digits, c.isDigit = true) ∧ Nat.ofDigitChars 10 digits 0 = n ∧ n < limit

/-- One or more digits are read as the number that they stand for. -/
theorem digits?_eq_some_iff :
    digits? text = some n ↔
      text ≠ [] ∧ (∀ c ∈ text, c.isDigit = true) ∧ Nat.ofDigitChars 10 text 0 = n := by
  rw [digits?]
  split
  · next hempty => simp [List.isEmpty_iff.1 hempty]
  · next hempty =>
    have hne : text ≠ [] := mt List.isEmpty_iff.2 hempty
    split
    · next hall =>
      rw [Option.some.injEq]
      exact ⟨fun hvalue => ⟨hne, List.all_eq_true.1 hall, hvalue⟩, fun h => h.2.2⟩
    · next hall =>
      refine iff_of_false (Option.some_ne_none n).symm ?_
      rintro ⟨-, hdigits, -⟩
      exact hall (List.all_eq_true.2 hdigits)

/-- A text is read as a number below the limit exactly if it writes that number. -/
theorem natural?_eq_some_iff : natural? limit text = some n ↔ WritesNatural limit text n := by
  unfold natural?
  split
  · next rest =>
    rw [Option.filter_eq_some_iff, digits?_eq_some_iff, decide_eq_true_iff]
    constructor
    · rintro ⟨⟨hne, hdigits, hvalue⟩, hlimit⟩
      exact ⟨['+'], rest, rfl, .inr rfl, hne, hdigits, hvalue, hlimit⟩
    · rintro ⟨plus, digits, htext, rfl | rfl, hne, hdigits, hvalue, hlimit⟩
      · -- No plus sign is a digit.
        obtain rfl : '+' :: rest = digits := htext
        exact absurd (hdigits '+' List.mem_cons_self) (by decide)
      · obtain rfl : rest = digits := List.tail_eq_of_cons_eq htext
        exact ⟨⟨hne, hdigits, hvalue⟩, hlimit⟩
  · next hplus =>
    rw [Option.filter_eq_some_iff, digits?_eq_some_iff, decide_eq_true_iff]
    constructor
    · rintro ⟨⟨hne, hdigits, hvalue⟩, hlimit⟩
      exact ⟨[], text, rfl, .inl rfl, hne, hdigits, hvalue, hlimit⟩
    · rintro ⟨plus, digits, rfl, rfl | rfl, hne, hdigits, hvalue, hlimit⟩
      · exact ⟨⟨hne, hdigits, hvalue⟩, hlimit⟩
      · exact absurd rfl (hplus digits)

/-- A text that writes a number consists of digits, but for a plus sign. -/
theorem WritesNatural.isDigit_or_plus (h : WritesNatural limit text n) (hc : c ∈ text) :
    c.isDigit = true ∨ c = '+' := by
  obtain ⟨plus, digits, rfl, rfl | rfl, -, hdigits, -, -⟩ := h
  · exact .inl (hdigits c hc)
  · rcases List.mem_cons.1 hc with rfl | hc
    · exact .inr rfl
    · exact .inl (hdigits c hc)

/-- A text that writes a number is not empty. -/
theorem WritesNatural.ne_nil (h : WritesNatural limit text n) : text ≠ [] := by
  obtain ⟨plus, digits, rfl, -, hne, -, -, -⟩ := h
  exact List.append_ne_nil_of_right_ne_nil plus hne

end ReefCards.Text
