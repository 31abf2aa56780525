import ReefCards.Text.Numeral

/-!
# Shortest decimals

The decimal text of a binary floating-point number: the fewest digits that still read back as the
same number, the nearest such digits if there are several, and the larger ones of an exact tie. It
is always positional, and a whole number has no decimal point.
-/

namespace ReefCards.Decimal

/-- A positive floating-point number as an exact fraction, with the bounds between which every
decimal reads back as it. The bounds themselves do so when `closed` holds. -/
structure Span where
  low : Nat
  value : Nat
  high : Nat
  denominator : Nat
  closed : Bool

/-- The span of `significand · 2 ^ exponent`. The number below lies half as far away as the number
above when `narrow` holds. -/
def Span.ofBinary (significand : Nat) (exponent : Int) (narrow : Bool) : Span :=
  let quarter := exponent - 2
  let scale := Nat.pow 2 quarter.toNat
  { low := (4 * significand - if narrow then 1 else 2) * scale
    value := 4 * significand * scale
    high := (4 * significand + 2) * scale
    denominator := Nat.pow 2 (-quarter).toNat
    closed := significand % 2 = 0 }

/-- Whether `n / d` reads back as the number of the span, where `d` is its denominator. -/
def Span.holds (span : Span) (n : Nat) : Bool :=
  if span.closed then span.low ≤ n && n ≤ span.high else span.low < n && n < span.high

/-- The span with all its fractions multiplied by a whole number. -/
def Span.scale (span : Span) (factor : Nat) : Span :=
  { span with
    low := span.low * factor
    value := span.value * factor
    high := span.high * factor }

/-- The factor of the multiple of `unit` that lies within the span and is nearest to its value; of
two equally near ones the larger. Only the two multiples next to the value can be nearest. -/
def Span.nearestMultiple? (span : Span) (unit : Nat) : Option Nat :=
  let step := unit * span.denominator
  let below := span.value / step
  let rest := span.value % step
  match span.holds (below * step), span.holds ((below + 1) * step) with
  | true, true => some (if 2 * rest < step then below else below + 1)
  | true, false => some below
  | false, true => some (below + 1)
  | false, false => none

/-- The multiple of `10 ^ place` by which the span's number can be written, if there is one. -/
def Span.onGrid? (span : Span) (place : Int) : Option Nat :=
  (span.scale (Nat.pow 10 (-place).toNat)).nearestMultiple? (Nat.pow 10 place.toNat)

/-- The grids tried below the one above the number's whole part: enough for every number. -/
def gridLimit : Nat := 400

/-- The digits and the place of the last digit that write the span's number in the fewest digits:
the coarsest grid that has a multiple within the span. -/
def Span.shortest (span : Span) : Nat × Int :=
  let top := (Text.decimal (span.value / span.denominator)).length
  ((List.range gridLimit).findSome? fun (down : Nat) =>
    let place : Int := (top : Int) - (down : Int)
    (span.onGrid? place).map fun digits => (digits, place)).getD (0, 0)

/-- `digits · 10 ^ place` in positional notation. -/
def positional (digits : Nat) (place : Int) : Text :=
  if 0 ≤ place then Text.decimal (digits * Nat.pow 10 place.toNat)
  else
    let places := (-place).toNat
    let unit := Nat.pow 10 places
    let fraction := Text.decimal (digits % unit)
    Text.decimal (digits / unit) ++ '.' ::
      (List.replicate (places - fraction.length) '0' ++ fraction)

/-- The shortest decimal text of a floating-point number. -/
def text (number : Float) : Text :=
  let bits : Nat := number.toBits.toNat
  let leading : Nat := Nat.pow 2 52
  let fraction : Nat := bits % leading
  let raised : Nat := bits / leading % Nat.pow 2 11
  let sign : Text := if bits / Nat.pow 2 63 = 0 then [] else ['-']
  if raised = 2047 then
    if fraction = 0 then sign ++ "inf".toList else "NaN".toList
  else if raised = 0 ∧ fraction = 0 then sign ++ ['0']
  else
    let span :=
      if raised = 0 then Span.ofBinary fraction (-1074 : Int) false
      else Span.ofBinary (fraction + leading) ((raised : Int) - 1075) (fraction = 0 && 1 < raised)
    let (digits, place) := span.shortest
    sign ++ positional digits place

end ReefCards.Decimal
