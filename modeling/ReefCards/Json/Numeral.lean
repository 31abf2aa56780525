import ReefCards.Text.Numeral

/-!
# Numbers in JSON

A JSON number is kept as it is written, because what it stands for depends on who reads it: a count
must be a plain natural number, a length may be any number that is not too large. Main statement:
`natural?_ofNat`, a written natural number is read as itself.
-/

namespace ReefCards.Json

/-- A number as it is written: the digits before the point, those after it, and the exponent. -/
structure Numeral where
  negative : Bool := false
  whole : Text
  fraction : Text := []
  exponent : Option Int := none
  deriving DecidableEq, Repr

namespace Numeral

/-- The numeral of a natural number. -/
def ofNat (n : Nat) : Numeral := { whole := Text.decimal n }

/-- The natural number below `limit` that the numeral is: no sign, no point and no exponent. -/
def natural? (limit : Nat) (numeral : Numeral) : Option Nat :=
  if numeral.negative || !numeral.fraction.isEmpty || numeral.exponent.isSome then none
  else (Text.digits? numeral.whole).filter (· < limit)

/-- A natural number below the limit is read back from its numeral. -/
theorem natural?_ofNat (limit n : Nat) (h : n < limit) : natural? limit (ofNat n) = some n := by
  simp [natural?, ofNat, Text.digits?_decimal, h]

/-- The text of a numeral. -/
def toText (numeral : Numeral) : Text :=
  (if numeral.negative then ['-'] else []) ++ numeral.whole ++
    (if numeral.fraction.isEmpty then [] else '.' :: numeral.fraction) ++
    match numeral.exponent with
    | none => []
    | some power =>
      'e' :: (if power < 0 then ['-'] else []) ++ Text.decimal power.natAbs

/-- Appends the digits to a number for as long as it stays below `2 ^ 64`, and gives the number
with the digits that were left. -/
def significand (start : Nat) : Text → Nat × Text
  | [] => (start, [])
  | digit :: rest =>
    let next := start * 10 + (digit.toNat - '0'.toNat)
    if next < UInt64.size then significand next rest else (start, digit :: rest)

/-- Multiplies by a power of ten, in steps of at most `10 ^ 308`. A result beyond the largest
floating-point number is refused, and one too small for any becomes zero. -/
def scale? (number : Float) (power : Int) : Option Float :=
  if power.natAbs ≤ 308 then
    if 0 ≤ power then
      let product := number * Float.ofScientific 1 false power.natAbs
      if product.isInf then none else some product
    else some (number / Float.ofScientific 1 false power.natAbs)
  else if number == 0 then some number
  else if 0 ≤ power then none
  else scale? (number / 1e308) (power + 308)
termination_by power.natAbs

/-- The floating-point number of a numeral, unless it is too large. Up to 64 bits of the digits
count: each further digit before the point is a factor of ten, and after the point it is dropped. -/
def float? (numeral : Numeral) : Option Float :=
  let (whole, wholeLeft) := significand 0 numeral.whole
  let (digits, fractionLeft) := significand whole numeral.fraction
  let places := numeral.fraction.length - fractionLeft.length
  let power : Int := (wholeLeft.length : Int) - (places : Int) + numeral.exponent.getD 0
  (scale? (UInt64.ofNat digits).toFloat power).map fun number =>
    if numeral.negative then -number else number

/-- Splits off a sign. -/
def signed (text : Text) : Bool × Text :=
  match text with
  | '-' :: rest => (true, rest)
  | _ => (false, text)

/-- The exponent at the start of the text, if the letter that announces one stands there; `none`
when no digit follows that letter. -/
def readExponent? (text : Text) : Option (Option Int × Text) :=
  match text with
  | c :: rest =>
    if c = 'e' ∨ c = 'E' then
      let (negative, unsigned) := match rest with
        | '+' :: rest => (false, rest)
        | _ => signed rest
      (Text.digits? (unsigned.takeWhile Char.isDigit)).map fun value =>
        (some (if negative then -(value : Int) else value), unsigned.dropWhile Char.isDigit)
    else some (none, text)
  | [] => some (none, text)

/-- The digits after a decimal point at the start of the text; `none` when a point has none. -/
def readFraction? (text : Text) : Option (Text × Text) :=
  match text with
  | '.' :: rest =>
    let digits := rest.takeWhile Char.isDigit
    if digits.isEmpty then none else some (digits, rest.dropWhile Char.isDigit)
  | _ => some ([], text)

/-- The digits before a decimal point: at least one, and no zero before another digit. -/
def readWhole? (text : Text) : Option (Text × Text) :=
  let digits := text.takeWhile Char.isDigit
  if digits.isEmpty || (digits.head? = some '0' && 1 < digits.length) then none
  else some (digits, text.dropWhile Char.isDigit)

/-- The numeral at the start of the text, and the text after it. -/
def read? (text : Text) : Option (Numeral × Text) := do
  let (negative, unsigned) := signed text
  let (whole, afterWhole) ← readWhole? unsigned
  let (fraction, afterFraction) ← readFraction? afterWhole
  let (exponent, rest) ← readExponent? afterFraction
  pure ({ negative, whole, fraction, exponent }, rest)

/-- Dropping leading characters makes no text longer. -/
theorem length_dropWhile_le (p : Char → Bool) (text : Text) :
    (text.dropWhile p).length ≤ text.length :=
  (List.dropWhile_sublist p).length_le

/-- The text after a sign is not longer. -/
theorem length_signed_le (text : Text) : (signed text).2.length ≤ text.length := by
  unfold signed
  split <;> simp

/-- The text after an exponent is not longer. -/
theorem length_le_of_readExponent? (text : Text) (result : Option Int × Text)
    (h : readExponent? text = some result) : result.2.length ≤ text.length := by
  unfold readExponent? at h
  split at h
  · next c rest =>
    split at h
    · obtain ⟨value, -, rfl⟩ := Option.map_eq_some_iff.1 h
      refine Nat.le_trans (length_dropWhile_le _ _) ?_
      split
      · simp only [List.length_cons]
        omega
      · exact Nat.le_trans (length_signed_le _) (by simp)
    · obtain rfl := Option.some.inj h
      exact Nat.le_refl _
  · obtain rfl := Option.some.inj h
    exact Nat.le_refl _

/-- The text after a fraction is not longer. -/
theorem length_le_of_readFraction? (text : Text) (result : Text × Text)
    (h : readFraction? text = some result) : result.2.length ≤ text.length := by
  unfold readFraction? at h
  split at h
  · next rest =>
    dsimp only at h
    split at h
    · simp at h
    · obtain rfl := Option.some.inj h
      exact Nat.le_trans (length_dropWhile_le _ rest) (by simp)
  · obtain rfl := Option.some.inj h
    exact Nat.le_refl _

/-- The text after the whole part is shorter. -/
theorem length_lt_of_readWhole? (text : Text) (result : Text × Text)
    (h : readWhole? text = some result) : result.2.length < text.length := by
  unfold readWhole? at h
  dsimp only at h
  split at h
  · simp at h
  · next hdigits =>
    obtain rfl := Option.some.inj h
    have hpos : (text.takeWhile Char.isDigit).length ≠ 0 := by
      intro hzero
      simp [List.length_eq_zero_iff.1 hzero] at hdigits
    have hparts := congrArg List.length
      (List.takeWhile_append_dropWhile (p := Char.isDigit) (l := text))
    rw [List.length_append] at hparts
    show (text.dropWhile Char.isDigit).length < text.length
    omega

/-- The text after a numeral is shorter. -/
theorem length_lt_of_read? (text : Text) (result : Numeral × Text)
    (h : read? text = some result) : result.2.length < text.length := by
  simp only [read?, Option.bind_eq_bind, Option.bind_eq_some_iff, Option.pure_def,
    Option.some.injEq] at h
  obtain ⟨whole, hwhole, fraction, hfraction, exponent, hexponent, rfl⟩ := h
  have hsign := length_signed_le text
  have h₁ := length_lt_of_readWhole? _ _ hwhole
  have h₂ := length_le_of_readFraction? _ _ hfraction
  have h₃ := length_le_of_readExponent? _ _ hexponent
  show exponent.2.length < text.length
  omega

end Numeral
end ReefCards.Json
