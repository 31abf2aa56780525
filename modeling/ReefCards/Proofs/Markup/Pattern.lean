import Mathlib.Computability.Language
import ReefCards.Proofs.Markup.Shape

/-!
# Patterns of shapes

What a shape of some kind may be written as, as a regular language over characters: the plain words,
the digits before the icon for points, the bracketed name, and the row of names with plus signs
between them. Main statement: `Kind.mem_pattern_iff`, the texts of a pattern are the spellings of
shapes of its kind.
-/

namespace ReefCards.Shape

open scoped Computability
open Text (isBlank)

/-- The texts of a single character from a class. -/
def oneOf (p : Char → Bool) : Language Char := {word | ∃ c, p c = true ∧ word = [c]}

/-- The texts that are put together from one or more texts of a language. -/
def oneOrMore (words : Language Char) : Language Char := words * words∗

/-- A name in brackets. -/
def iconPattern : Language Char := {['[']} * oneOrMore (oneOf isNameChar) * {[']']}

/-- A plus sign with any blanks on its two sides, and a name in brackets. -/
def joinedPattern : Language Char :=
  (oneOf isBlank)∗ * {['+']} * (oneOf isBlank)∗ * iconPattern

/-- The texts that a shape of some kind may be written as. -/
def Kind.pattern : Kind → Language Char
  | .row => iconPattern * oneOrMore joinedPattern
  | .points => oneOrMore (oneOf Char.isDigit) * (1 + {[' ']}) * {bracketed Vocabulary.wave}
  | .plain => oneOrMore (oneOf isPlainChar)
  | .icon => iconPattern

variable {source : Text}

/-- The texts of any number of characters from a class. -/
theorem mem_kstar_oneOf {p : Char → Bool} : source ∈ (oneOf p)∗ ↔ ∀ c ∈ source, p c = true := by
  rw [Language.mem_kstar]
  constructor
  · rintro ⟨parts, rfl, hparts⟩ c hc
    obtain ⟨part, hpart, hc⟩ := List.mem_flatten.1 hc
    obtain ⟨d, hd, rfl⟩ := hparts part hpart
    rwa [List.mem_singleton.1 hc]
  · intro h
    refine ⟨source.map fun c => [c], (List.flatMap_singleton' source).symm, fun part hpart => ?_⟩
    obtain ⟨c, hc, rfl⟩ := List.mem_map.1 hpart
    exact ⟨c, h c hc, rfl⟩

/-- The texts of one or more characters from a class. -/
theorem mem_oneOrMore_oneOf {p : Char → Bool} :
    source ∈ oneOrMore (oneOf p) ↔ source ≠ [] ∧ ∀ c ∈ source, p c = true := by
  rw [oneOrMore, Language.mem_mul]
  constructor
  · rintro ⟨-, ⟨c, hc, rfl⟩, others, hothers, rfl⟩
    exact ⟨by simp, List.forall_mem_cons.2 ⟨hc, mem_kstar_oneOf.1 hothers⟩⟩
  · rintro ⟨hne, hall⟩
    obtain ⟨c, others, rfl⟩ := List.exists_cons_of_ne_nil hne
    obtain ⟨hc, hothers⟩ := List.forall_mem_cons.1 hall
    exact ⟨[c], ⟨c, hc, rfl⟩, others, mem_kstar_oneOf.2 hothers, rfl⟩

/-- A text alone is a language of one text. -/
theorem mem_single {word : Text} : source ∈ ({word} : Language Char) ↔ source = word := Iff.rfl

/-- The pattern of an icon is a name in brackets. -/
theorem mem_iconPattern : source ∈ iconPattern ↔ ∃ name, IsName name ∧ source = bracketed name := by
  simp only [iconPattern, Language.mem_mul, mem_single, mem_oneOrMore_oneOf]
  constructor
  · rintro ⟨-, ⟨-, rfl, name, hname, rfl⟩, -, rfl, rfl⟩
    exact ⟨name, hname, rfl⟩
  · rintro ⟨name, hname, rfl⟩
    exact ⟨'[' :: name, ⟨['['], rfl, name, hname, rfl⟩, [']'], rfl, rfl⟩

/-- What joins a name is a plus sign with blanks on its two sides, and the name in brackets. -/
theorem mem_joinedPattern :
    source ∈ joinedPattern ↔ ∃ before behind name : Text, (∀ c ∈ before, isBlank c = true) ∧
      (∀ c ∈ behind, isBlank c = true) ∧ IsName name ∧
      source = before ++ '+' :: (behind ++ bracketed name) := by
  simp only [joinedPattern, Language.mem_mul, mem_single, mem_kstar_oneOf, mem_iconPattern]
  constructor
  · rintro ⟨-, ⟨-, ⟨before, hbefore, -, rfl, rfl⟩, behind, hbehind, rfl⟩, -,
      ⟨name, hname, rfl⟩, rfl⟩
    exact ⟨before, behind, name, hbefore, hbehind, hname, by simp⟩
  · rintro ⟨before, behind, name, hbefore, hbehind, hname, rfl⟩
    exact ⟨before ++ ['+'] ++ behind, ⟨before ++ ['+'], ⟨before, hbefore, ['+'], rfl, rfl⟩, behind,
      hbehind, rfl⟩, bracketed name, ⟨name, hname, rfl⟩, by simp⟩

/-- Joined names are any number of names, each joined. -/
theorem mem_kstar_joinedPattern : source ∈ joinedPattern∗ ↔ ∃ names, Joined names source := by
  constructor
  · rw [Language.mem_kstar]
    rintro ⟨parts, rfl, hparts⟩
    induction parts with
    | nil => exact ⟨[], .nil⟩
    | cons part others ih =>
      obtain ⟨hpart, hothers⟩ := List.forall_mem_cons.1 hparts
      obtain ⟨before, behind, name, hbefore, hbehind, hname, rfl⟩ := mem_joinedPattern.1 hpart
      obtain ⟨names, hnames⟩ := ih hothers
      refine ⟨name :: names, ?_⟩
      simpa using Joined.cons hbefore hbehind hname hnames
  · rintro ⟨names, hjoined⟩
    induction hjoined with
    | nil => exact Language.nil_mem_kstar _
    | @cons before behind name source names hbefore hbehind hname hrest ih =>
      rw [← Language.one_add_self_mul_kstar_eq_kstar]
      refine .inr (Language.mem_mul.2 ⟨_, mem_joinedPattern.2
        ⟨before, behind, name, hbefore, hbehind, hname, rfl⟩, source, ih, by simp⟩)

/-- One or more joined names. -/
theorem mem_oneOrMore_joinedPattern :
    source ∈ oneOrMore joinedPattern ↔ ∃ names, names ≠ [] ∧ Joined names source := by
  rw [oneOrMore, Language.mem_mul]
  constructor
  · rintro ⟨part, hpart, others, hothers, rfl⟩
    obtain ⟨before, behind, name, hbefore, hbehind, hname, rfl⟩ := mem_joinedPattern.1 hpart
    obtain ⟨names, hnames⟩ := mem_kstar_joinedPattern.1 hothers
    refine ⟨name :: names, by simp, ?_⟩
    simpa using Joined.cons hbefore hbehind hname hnames
  · rintro ⟨names, hnames, hjoined⟩
    cases hjoined with
    | nil => exact absurd rfl hnames
    | @cons before behind name others names hbefore hbehind hname hothers =>
      exact ⟨_, mem_joinedPattern.2 ⟨before, behind, name, hbefore, hbehind, hname, rfl⟩, others,
        mem_kstar_joinedPattern.2 ⟨names, hothers⟩, by simp⟩

/-- A pattern says which texts a shape of some kind is spelled by. -/
theorem Kind.mem_pattern_iff (kind : Kind) (source : Text) :
    source ∈ kind.pattern ↔ ∃ shape : Shape, shape.kind = kind ∧ shape.Spells source := by
  cases kind with
  | row =>
    simp only [pattern, Language.mem_mul, mem_iconPattern, mem_oneOrMore_joinedPattern]
    constructor
    · rintro ⟨-, ⟨name, hname, rfl⟩, joined, ⟨names, hnames, hjoined⟩, rfl⟩
      exact ⟨.row (name :: names), rfl, .row hname hnames hjoined⟩
    · rintro ⟨shape, hkind, hspells⟩
      cases hspells with
      | @row name joined names hname hnames hjoined =>
        exact ⟨_, ⟨name, hname, rfl⟩, joined, ⟨names, hnames, hjoined⟩, rfl⟩
      | points | plain | icon => cases hkind
  | points =>
    simp only [pattern, Language.mem_mul, mem_oneOrMore_oneOf, mem_single, Language.mem_add,
      Language.mem_one]
    constructor
    · rintro ⟨-, ⟨digits, ⟨hdigits, hall⟩, space, hspace, rfl⟩, -, rfl, rfl⟩
      exact ⟨.points digits, rfl, by simpa using Spells.points hdigits hall hspace⟩
    · rintro ⟨shape, hkind, hspells⟩
      cases hspells with
      | @points digits space hdigits hall hspace =>
        exact ⟨_, ⟨digits, ⟨hdigits, hall⟩, space, hspace, rfl⟩, _, rfl, by simp⟩
      | row | plain | icon => cases hkind
  | plain =>
    rw [pattern, mem_oneOrMore_oneOf]
    constructor
    · rintro ⟨hsource, hall⟩
      exact ⟨.plain, rfl, .plain hsource hall⟩
    · rintro ⟨shape, hkind, hspells⟩
      cases hspells with
      | plain hsource hall => exact ⟨hsource, hall⟩
      | row | points | icon => cases hkind
  | icon =>
    rw [pattern, mem_iconPattern]
    constructor
    · rintro ⟨name, hname, rfl⟩
      exact ⟨.icon name, rfl, .icon hname⟩
    · rintro ⟨shape, hkind, hspells⟩
      cases hspells with
      | @icon name hname => exact ⟨name, hname, rfl⟩
      | row | points | plain => cases hkind

end ReefCards.Shape
