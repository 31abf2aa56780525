import ReefCards.Text.Basic

/-!
# Styled output

Terminal styles as escape codes. A styled text is the code that switches the style on, the text and
the code that ends every style; where the text itself ends every style, the style is switched on
again. Without colours a text is printed as it is. Main statement: `apply_eq`, a text without codes
stands unchanged between those of its style.
-/

namespace ReefCards.Text

/-- The colours that the output uses. -/
inductive Colour where
  | red
  | green
  | yellow
  | magenta
  | cyan
  deriving DecidableEq, Repr

/-- The number of the colour among the terminal's codes. -/
def Colour.code : Colour → Text
  | .red => "31"
  | .green => "32"
  | .yellow => "33"
  | .magenta => "35"
  | .cyan => "36"

/-- How a text is to look. -/
structure Style where
  bold : Bool := false
  dimmed : Bool := false
  italic : Bool := false
  colour : Option Colour := none
  deriving DecidableEq, Repr

namespace Style

/-- The numbers of the style's codes, effects before colour. -/
def codes (style : Style) : List Text :=
  (if style.bold then ["1".toList] else []) ++ (if style.dimmed then ["2".toList] else []) ++
    (if style.italic then ["3".toList] else []) ++ (style.colour.map Colour.code).toList

/-- The escape code that switches the style on. -/
def start (style : Style) : Text := '\x1b' :: '[' :: join ";" style.codes ++ ['m']

/-- The escape code that ends every style. -/
def finish : Text := "\x1b[0m"

/-- Writes `again` after each code in the text that ends every style. -/
def restart (again : Text) : Text → Text
  | '\x1b' :: '[' :: '0' :: 'm' :: rest => finish ++ again ++ restart again rest
  | c :: rest => c :: restart again rest
  | [] => []

/-- The text in this style, provided that colours are on, where `fit` brings what stands between the
codes to its size. -/
def applyFitted (style : Style) (colours : Bool) (fit : Text → Text) (text : Text) : Text :=
  if colours then style.start ++ fit (restart style.start text) ++ finish else fit text

/-- The text in this style, provided that colours are on. -/
def apply (style : Style) (colours : Bool) (text : Text) : Text :=
  style.applyFitted colours id text

/-- A text without escape characters ends no style. -/
theorem restart_eq_self (again : Text) {text : Text} (h : '\x1b' ∉ text) :
    restart again text = text := by
  induction text with
  | nil => rw [restart]
  | cons c rest ih =>
    obtain ⟨hc, hrest⟩ := not_or.1 (mt List.mem_cons.2 h)
    rw [restart, ih hrest]
    rintro _ rfl
    exact absurd rfl hc

/-- A text without escape characters is printed between the codes of its style. -/
theorem apply_eq (style : Style) (colours : Bool) {text : Text} (h : '\x1b' ∉ text) :
    style.apply colours text =
      (if colours then style.start else []) ++ text ++ (if colours then finish else []) := by
  cases colours
  · simp [apply, applyFitted]
  · simp [apply, applyFitted, restart_eq_self _ h]

end Style

/-- The text with spaces before it up to the given number of characters. -/
def padStart (size : Nat) (text : Text) : Text :=
  List.replicate (size - text.length) ' ' ++ text

/-- The text with spaces after it up to the given number of characters. -/
def padEnd (size : Nat) (text : Text) : Text :=
  text ++ List.replicate (size - text.length) ' '

end ReefCards.Text
