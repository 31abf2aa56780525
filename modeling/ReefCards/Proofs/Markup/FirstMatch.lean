import ReefCards.Proofs.Markup.Grouped
import ReefCards.Proofs.Markup.Pattern

/-!
# First and longest matches

The shape at the start of a text is of the first kind whose pattern fits there, and it takes the
longest beginning of the text that follows the pattern. The kinds have a reader each: it reads back
every spelling of the kind, whatever comes next, and leaves no more than that. Main statements:
`Spells.exists_read?_append`, `read?_eq_some_iff` and `read?_eq_none_iff`.
-/

namespace ReefCards.Shape

/-- Whether a text begins with what a shape of some kind may be written as. -/
def Kind.Matches (kind : Kind) (text : Text) : Prop := ∃ source ∈ kind.pattern, source <+: text

/-- What is taken at the start of a text: the kind is the first whose pattern fits there, and the
source is the longest beginning of the text that follows the pattern. -/
structure IsFirstMatch (rows : Bool) (text : Text) (kind : Kind) (source : Text) : Prop where
  mem : source ∈ kind.pattern
  begins : source <+: text
  longest : ∀ other ∈ kind.pattern, other <+: text → other.length ≤ source.length
  first : ∃ before after, Kind.order rows = before ++ kind :: after ∧
    ∀ earlier ∈ before, ¬ earlier.Matches text

variable {rows : Bool} {kind : Kind} {text rest source : Text} {shape : Shape}

/-- A row is read back together with all names that are joined behind it. -/
theorem row?_joined_append {name : Text} {names : List Text} (hname : IsName name)
    (hnames : names ≠ []) (hjoined : Joined names source) (rest : Text) :
    row? (bracketed name ++ source ++ rest) =
      some (name :: (names ++ (joinedNames rest).1), (joinedNames rest).2) := by
  obtain ⟨first, others, rfl⟩ := List.exists_cons_of_ne_nil hnames
  rw [List.append_assoc, row?, icon?_bracketed_append hname]
  simp only [joinedNames_joined_append hjoined, List.cons_append]

/-- Points are read back, whatever comes next. -/
theorem points?_append {digits space : Text} (hdigits : digits ≠ [])
    (hall : ∀ c ∈ digits, c.isDigit = true) (hspace : space = [] ∨ space = [' ']) (rest : Text) :
    points? (digits ++ (space ++ bracketed Vocabulary.wave) ++ rest) = some (digits, rest) := by
  have hstop : ∀ c ∈ (space ++ bracketed Vocabulary.wave ++ rest).head?, c.isDigit = false := by
    rcases hspace with rfl | rfl <;> rintro c ⟨⟩ <;> rfl
  have hskip : skipSpace (space ++ bracketed Vocabulary.wave ++ rest) =
      bracketed Vocabulary.wave ++ rest := by
    rcases hspace with rfl | rfl <;> rfl
  rw [List.append_assoc, points?_digits_append hdigits hall hstop, hskip]
  simp [Text.after?]

/-- Plain words are read back together with all plain characters behind them. -/
theorem plain?_append (hsource : source ≠ []) (hall : ∀ c ∈ source, isPlainChar c = true)
    (rest : Text) : plain? (source ++ rest) = some (rest.dropWhile isPlainChar) := by
  obtain ⟨first, others, rfl⟩ := List.exists_cons_of_ne_nil hsource
  obtain ⟨hfirst, hothers⟩ := List.forall_mem_cons.1 hall
  rw [List.cons_append, plain?, if_pos hfirst, List.dropWhile_append_of_pos hothers]

/-- A spelling is read back as its shape where nothing comes next. -/
theorem Spells.read?_self (h : shape.Spells source) :
    shape.kind.read? source = some (shape, []) := by
  cases h with
  | row hname hnames hjoined =>
    have hread := row?_joined_append hname hnames hjoined []
    have hend : joinedNames [] = ([], []) := joinedNames_of_eq_none rfl
    rw [List.append_nil, hend, List.append_nil] at hread
    simp only [kind, Kind.read?, hread, Option.map_some]
  | points hdigits hall hspace =>
    have hread := points?_append hdigits hall hspace []
    rw [List.append_nil] at hread
    simp only [kind, Kind.read?, hread, Option.map_some]
  | plain hsource hall =>
    have hread := plain?_append hsource hall []
    rw [List.append_nil] at hread
    simp only [kind, Kind.read?, hread, Option.map_some, List.dropWhile_nil]
  | icon hname =>
    have hread := icon?_bracketed_append hname []
    rw [List.append_nil] at hread
    simp only [kind, Kind.read?, hread, Option.map_some]

/-- Where a text begins with a spelling, a shape of the kind is read that leaves no more than what
comes after the spelling. -/
theorem Spells.exists_read?_append (h : shape.Spells source) (rest : Text) :
    ∃ found after, shape.kind.read? (source ++ rest) = some (found, after) ∧
      after.length ≤ rest.length := by
  cases h with
  | @row name joined names hname hnames hjoined =>
    refine ⟨.row (name :: (names ++ (joinedNames rest).1)), (joinedNames rest).2, ?_,
      length_joinedNames_le rest⟩
    rw [kind, Kind.read?, row?_joined_append hname hnames hjoined]
    rfl
  | @points digits space hdigits hall hspace =>
    refine ⟨.points digits, rest, ?_, Nat.le_refl _⟩
    rw [kind, Kind.read?, points?_append hdigits hall hspace]
    rfl
  | plain hsource hall =>
    refine ⟨.plain, rest.dropWhile isPlainChar, ?_, (List.dropWhile_sublist _).length_le⟩
    rw [kind, Kind.read?, plain?_append hsource hall]
    rfl
  | @icon name hname =>
    refine ⟨.icon name, rest, ?_, Nat.le_refl _⟩
    rw [kind, Kind.read?, icon?_bracketed_append hname]
    rfl

namespace Kind

/-- A kind has a reader that finds a shape exactly where its pattern fits. -/
theorem matches_iff (kind : Kind) (text : Text) :
    kind.Matches text ↔ ∃ found, kind.read? text = some found := by
  constructor
  · rintro ⟨source, hsource, rest, rfl⟩
    obtain ⟨shape, rfl, hspells⟩ := (mem_pattern_iff kind source).1 hsource
    obtain ⟨found, after, hread, -⟩ := hspells.exists_read?_append rest
    exact ⟨(found, after), hread⟩
  · rintro ⟨⟨shape, rest⟩, hread⟩
    obtain ⟨hkind, source, rfl, hspells⟩ := spells_of_read? hread
    exact ⟨source, (mem_pattern_iff kind source).2 ⟨shape, hkind, hspells⟩,
      List.prefix_append source rest⟩

/-- A kind has a reader that finds nothing exactly where its pattern does not fit. -/
theorem read?_eq_none_iff (kind : Kind) (text : Text) :
    kind.read? text = none ↔ ¬ kind.Matches text := by
  rw [matches_iff, ← Option.isSome_iff_exists, Option.not_isSome_iff_eq_none]

/-- A reader takes the longest beginning of the text that follows the pattern of its kind. -/
theorem length_le_of_read? (h : kind.read? (source ++ rest) = some (shape, rest)) {other : Text}
    (hother : other ∈ kind.pattern) (hbegins : other <+: source ++ rest) :
    other.length ≤ source.length := by
  obtain ⟨tail, htail⟩ := hbegins
  obtain ⟨named, rfl, hspells⟩ := (mem_pattern_iff kind other).1 hother
  obtain ⟨found, after, hread, hle⟩ := hspells.exists_read?_append tail
  rw [htail] at hread
  obtain ⟨-, rfl⟩ := Prod.mk.inj (Option.some.inj (h.symm.trans hread))
  have hlength := congrArg List.length htail
  rw [List.length_append, List.length_append] at hlength
  omega

/-- The longest beginning of a text that follows a pattern is read as the shape that it spells. -/
theorem read?_of_longest (hspells : shape.Spells source)
    (hlongest : ∀ other ∈ shape.kind.pattern, other <+: source ++ rest →
      other.length ≤ source.length) :
    shape.kind.read? (source ++ rest) = some (shape, rest) := by
  obtain ⟨found, after, hread, hle⟩ := hspells.exists_read?_append rest
  obtain ⟨hkind, taken, heq, htaken⟩ := spells_of_read? hread
  have hshort : taken.length ≤ source.length :=
    hlongest taken ((mem_pattern_iff _ taken).2 ⟨found, hkind, htaken⟩) ⟨after, heq.symm⟩
  have hlength := congrArg List.length heq
  rw [List.length_append, List.length_append] at hlength
  obtain ⟨rfl, rfl⟩ := List.append_inj heq (by omega)
  -- Both shapes are what the spelling alone is read as.
  have hsame := htaken.read?_self
  rw [hkind, hspells.read?_self] at hsame
  obtain rfl := (Prod.mk.inj (Option.some.inj hsame)).1
  exact hread

end Kind

/-- A shape is read exactly if the text begins with a spelling of it that is the longest match of
the first kind that matches there. -/
theorem read?_eq_some_iff :
    read? rows text = some (shape, rest) ↔
      ∃ source, text = source ++ rest ∧ shape.Spells source ∧
        IsFirstMatch rows text shape.kind source := by
  rw [read?_eq_findSome?, List.findSome?_eq_some_iff]
  constructor
  · rintro ⟨before, kind, after, horder, hread, hbefore⟩
    obtain ⟨rfl, source, rfl, hspells⟩ := Kind.spells_of_read? hread
    refine ⟨source, rfl, hspells, ?_⟩
    exact {
      mem := (Kind.mem_pattern_iff _ source).2 ⟨shape, rfl, hspells⟩
      begins := List.prefix_append source rest
      longest := fun other hother hbegins => Kind.length_le_of_read? hread hother hbegins
      first := ⟨before, after, horder, fun earlier hearlier =>
        (Kind.read?_eq_none_iff earlier _).1 (hbefore earlier hearlier)⟩ }
  · rintro ⟨source, rfl, hspells, hmatch⟩
    obtain ⟨before, after, horder, hbefore⟩ := hmatch.first
    refine ⟨before, shape.kind, after, horder, Kind.read?_of_longest hspells hmatch.longest, ?_⟩
    exact fun earlier hearlier => (Kind.read?_eq_none_iff earlier _).2 (hbefore earlier hearlier)

/-- A row begins with an icon. -/
theorem Kind.Matches.icon_of_row (h : Kind.Matches .row text) : Kind.Matches .icon text := by
  obtain ⟨source, hsource, hbegins⟩ := h
  obtain ⟨first, hfirst, others, -, rfl⟩ := Language.mem_mul.1 hsource
  exact ⟨first, hfirst, (List.prefix_append first others).trans hbegins⟩

/-- All kinds but rows are always tried. -/
theorem Kind.mem_order (rows : Bool) (hkind : kind ≠ .row) : kind ∈ Kind.order rows := by
  cases kind with
  | row => exact absurd rfl hkind
  | points | plain | icon => cases rows <;> decide

/-- No shape is read exactly if no kind matches, and where rows are not tried, none of them does
either. -/
theorem read?_eq_none_iff : read? rows text = none ↔ ∀ kind : Kind, ¬ kind.Matches text := by
  rw [read?_eq_findSome?, List.findSome?_eq_none_iff]
  simp only [Kind.read?_eq_none_iff]
  refine ⟨fun h kind => ?_, fun h kind _ => h kind⟩
  cases kind with
  | row => exact mt Kind.Matches.icon_of_row (h .icon (Kind.mem_order rows (by decide)))
  | points | plain | icon => exact h _ (Kind.mem_order rows (by decide))

end ReefCards.Shape
