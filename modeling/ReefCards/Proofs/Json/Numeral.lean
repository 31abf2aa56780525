import ReefCards.Json.Numeral
import ReefCards.Proofs.Text.Numeral

/-!
# Numerals read back

A numeral that is written by the rules of JSON is read back as it was, whatever follows it, as long
as that does not carry the number on. The proof takes the parts of the numeral in the order in which
the reader does: sign, whole part, fraction, exponent. Main statements: `wellFormed_ofNat` and
`read?_toText_append`.
-/

namespace ReefCards.Json.Numeral

open Text (isDigit_of_mem_decimal takeWhile_isDigit_append dropWhile_isDigit_append)

/-- Whether a text that stands after a number leaves the number as it is: it begins with no digit,
no point and no letter of an exponent. -/
def Breaks (rest : Text) : Prop :=
  ∀ c ∈ rest.head?, c.isDigit = false ∧ c ≠ '.' ∧ c ≠ 'e' ∧ c ≠ 'E'

/-- The rules of a numeral: digits alone before and after the point, at least one of them before it,
and no zero before another digit there. -/
structure WellFormed (numeral : Numeral) : Prop where
  whole_ne_nil : numeral.whole ≠ []
  isDigit_whole : ∀ c ∈ numeral.whole, c.isDigit = true
  no_leading_zero : numeral.whole.head? = some '0' → numeral.whole.length = 1
  isDigit_fraction : ∀ c ∈ numeral.fraction, c.isDigit = true

/-- A digit is no sign. -/
theorem ne_sign_of_isDigit {c : Char} (h : c.isDigit = true) : c ≠ '+' ∧ c ≠ '-' := by
  constructor
  all_goals
    rintro rfl
    exact absurd h (by decide)

/-- Only the number zero begins with the digit zero. -/
theorem eq_zero_of_head?_decimal {n : Nat} (h : (Text.decimal n).head? = some '0') : n = 0 := by
  induction n using Nat.strongRecOn with
  | ind n ih =>
    by_cases hsmall : n < 10
    · rw [Text.decimal, Nat.toDigits_of_lt_base hsmall] at h
      have hall : ∀ m < 10, [Nat.digitChar m].head? = some '0' → m = 0 := by decide
      exact hall n hsmall h
    · have hlarge : 10 ≤ n := Nat.le_of_not_lt hsmall
      obtain ⟨first, others, hparts⟩ :=
        List.exists_cons_of_ne_nil (Nat.toDigits_ne_nil : Nat.toDigits 10 (n / 10) ≠ [])
      rw [Text.decimal, Nat.toDigits_of_base_le (by decide) hlarge, hparts] at h
      have hhead : (Text.decimal (n / 10)).head? = some '0' := by
        rw [Text.decimal, hparts]
        simpa using h
      have hzero : n / 10 = 0 := ih (n / 10) (by omega) hhead
      omega

/-- The numeral of a natural number is well formed. -/
theorem wellFormed_ofNat (n : Nat) : (ofNat n).WellFormed where
  whole_ne_nil := Nat.toDigits_ne_nil
  isDigit_whole _ h := isDigit_of_mem_decimal h
  no_leading_zero h := by
    rw [ofNat, eq_zero_of_head?_decimal h]
    decide
  isDigit_fraction := by simp [ofNat]

/-- The exponent of a numeral as it is written. -/
def exponentText (exponent : Option Int) : Text :=
  match exponent with
  | none => []
  | some power => 'e' :: (if power < 0 then ['-'] else []) ++ Text.decimal power.natAbs

/-- The fraction of a numeral as it is written. -/
def fractionText (fraction : Text) : Text := if fraction.isEmpty then [] else '.' :: fraction

/-- A numeral is written as its sign, its whole part, its fraction and its exponent. -/
theorem toText_eq (numeral : Numeral) :
    numeral.toText = (if numeral.negative then ['-'] else []) ++
      (numeral.whole ++ (fractionText numeral.fraction ++ exponentText numeral.exponent)) := by
  simp only [toText, List.append_assoc]
  rfl

/-- The exponent is read back. -/
theorem readExponent?_append (exponent : Option Int) {rest : Text} (hrest : Breaks rest) :
    readExponent? (exponentText exponent ++ rest) = some (exponent, rest) := by
  cases exponent with
  | none =>
    cases rest with
    | nil => rfl
    | cons c rest =>
      obtain ⟨-, -, hsmall, hcapital⟩ := hrest c rfl
      simp [exponentText, readExponent?, hsmall, hcapital]
  | some power =>
    have hdigits : ∀ c ∈ Text.decimal power.natAbs, c.isDigit = true :=
      fun c hc => isDigit_of_mem_decimal hc
    have hbreak : ∀ c ∈ rest.head?, c.isDigit = false := fun c hc => (hrest c hc).1
    have htake := takeWhile_isDigit_append hdigits hbreak
    have hdrop := dropWhile_isDigit_append hdigits hbreak
    by_cases hneg : power < 0
    · have htext : exponentText (some power) ++ rest =
          'e' :: '-' :: (Text.decimal power.natAbs ++ rest) := by simp [exponentText, hneg]
      have hread : readExponent? ('e' :: '-' :: (Text.decimal power.natAbs ++ rest)) =
          some (some (-(power.natAbs : Int)), rest) := by
        simp [readExponent?, signed, htake, hdrop, Text.digits?_decimal]
      have hpower : -(power.natAbs : Int) = power := by omega
      rw [htext, hread, hpower]
    · obtain ⟨first, others, hparts⟩ :
          ∃ first others, Text.decimal power.natAbs = first :: others :=
        List.exists_cons_of_ne_nil Nat.toDigits_ne_nil
      obtain ⟨hplus, hminus⟩ := ne_sign_of_isDigit (hdigits first (by simp [hparts]))
      have htext : exponentText (some power) ++ rest = 'e' :: first :: (others ++ rest) := by
        simp [exponentText, hneg, hparts]
      have hvalue : Text.digits? (first :: others) = some power.natAbs := by
        rw [← hparts, Text.digits?_decimal]
      rw [hparts, List.cons_append] at htake hdrop
      have hread : readExponent? ('e' :: first :: (others ++ rest)) =
          some (some (power.natAbs : Int), rest) := by
        simp [readExponent?, signed, hplus, hminus, htake, hdrop, hvalue]
      have hpower : (power.natAbs : Int) = power := by omega
      rw [htext, hread, hpower]

/-- After the fraction no digit follows, and neither does a point after the whole part of a numeral
without fraction. -/
theorem head?_exponentText_append (exponent : Option Int) {rest : Text} (hrest : Breaks rest) :
    ∀ c ∈ (exponentText exponent ++ rest).head?, c.isDigit = false ∧ c ≠ '.' := by
  intro c hc
  cases exponent with
  | none => exact ⟨(hrest c hc).1, (hrest c hc).2.1⟩
  | some power =>
    obtain rfl : 'e' = c := by simpa [exponentText] using hc
    decide

/-- The fraction is read back. -/
theorem readFraction?_append {fraction : Text} (h : ∀ c ∈ fraction, c.isDigit = true)
    (exponent : Option Int) {rest : Text} (hrest : Breaks rest) :
    readFraction? (fractionText fraction ++ (exponentText exponent ++ rest)) =
      some (fraction, exponentText exponent ++ rest) := by
  have hhead := head?_exponentText_append exponent hrest
  generalize exponentText exponent ++ rest = after at hhead ⊢
  cases hfraction : fraction with
  | nil =>
    cases after with
    | nil => rfl
    | cons c after => simp [fractionText, readFraction?, (hhead c rfl).2]
  | cons first others =>
    rw [← hfraction]
    have hne : fraction.isEmpty = false := by rw [hfraction]; rfl
    have hbreak : ∀ c ∈ after.head?, c.isDigit = false := fun c hc => (hhead c hc).1
    simp only [fractionText, hne, readFraction?, Bool.false_eq_true, if_false, List.cons_append,
      takeWhile_isDigit_append h hbreak, dropWhile_isDigit_append h hbreak]

/-- The whole part is read back, up to the first character that is no digit. -/
theorem WellFormed.readWhole?_append {numeral : Numeral} (h : numeral.WellFormed) {after : Text}
    (hafter : ∀ c ∈ after.head?, c.isDigit = false) :
    readWhole? (numeral.whole ++ after) = some (numeral.whole, after) := by
  have hempty : numeral.whole.isEmpty = false := by simpa using h.whole_ne_nil
  have hzero : ¬(numeral.whole.head? = some '0' ∧ 1 < numeral.whole.length) :=
    fun ⟨hhead, hlength⟩ => by
      rw [h.no_leading_zero hhead] at hlength
      exact absurd hlength (by decide)
  simp only [readWhole?, takeWhile_isDigit_append h.isDigit_whole hafter,
    dropWhile_isDigit_append h.isDigit_whole hafter]
  simpa [hempty] using hzero

/-- The sign is read back. -/
theorem WellFormed.signed_append {numeral : Numeral} (h : numeral.WellFormed) (after : Text) :
    signed ((if numeral.negative then ['-'] else []) ++ (numeral.whole ++ after)) =
      (numeral.negative, numeral.whole ++ after) := by
  cases hsign : numeral.negative with
  | true => rfl
  | false =>
    obtain ⟨first, others, hparts⟩ := List.exists_cons_of_ne_nil h.whole_ne_nil
    have hminus : first ≠ '-' :=
      (ne_sign_of_isDigit (h.isDigit_whole first (by simp [hparts]))).2
    simp [hparts, signed, hminus]

/-- A numeral is read back from its text when the text after it does not carry it on. -/
theorem read?_toText_append {numeral : Numeral} (h : numeral.WellFormed) {rest : Text}
    (hrest : Breaks rest) : read? (numeral.toText ++ rest) = some (numeral, rest) := by
  have hafter : ∀ c ∈ (fractionText numeral.fraction ++
      (exponentText numeral.exponent ++ rest)).head?, c.isDigit = false := by
    cases hfraction : numeral.fraction with
    | nil => exact fun c hc => (head?_exponentText_append numeral.exponent hrest c hc).1
    | cons first others => simp [fractionText]
  have htext : numeral.toText ++ rest = (if numeral.negative then ['-'] else []) ++
      (numeral.whole ++ (fractionText numeral.fraction ++
        (exponentText numeral.exponent ++ rest))) := by
    rw [toText_eq]
    simp only [List.append_assoc]
  rw [htext, read?, h.signed_append]
  simp [h.readWhole?_append hafter, readFraction?_append h.isDigit_fraction numeral.exponent hrest,
    readExponent?_append numeral.exponent hrest]

end ReefCards.Json.Numeral
