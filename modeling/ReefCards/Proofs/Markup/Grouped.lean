import ReefCards.Proofs.Markup.WellFormed

/-!
# Joined icons are grouped

A row takes as many joined names as it can, so behind an icon or a row no further name is joined.
Seen from the segments: what stands between two icons with a plus sign as text between them can only
be blanks and the sign, and then the row would have taken the second icon as well. Main statement:
`joined_icons_grouped`.
-/

namespace ReefCards

open Text (isBlank)

variable {rows : Bool} {c : Char} {rest source text : Text} {segment : Segment}
  {tail : List Segment}

namespace Shape

variable {name : Text} {names : List Text}

/-- Blanks before a joined name go unnoticed. -/
theorem joined?_blanks_append {blanks : Text} (hblanks : ∀ c ∈ blanks, isBlank c = true)
    (rest : Text) : joined? (blanks ++ rest) = joined? rest := by
  rw [joined?, joined?, List.dropWhile_append_of_pos hblanks]

/-- A name is joined by a plus sign with any blanks on its two sides. -/
theorem joined?_append {before behind : Text} (hbefore : ∀ c ∈ before, isBlank c = true)
    (hbehind : ∀ c ∈ behind, isBlank c = true) (hname : IsName name) (rest : Text) :
    joined? (before ++ '+' :: (behind ++ (bracketed name ++ rest))) = some (name, rest) := by
  have hplus : isBlank '+' = false := by decide
  have hopen : isBlank '[' = false := by decide
  have hstart : (bracketed name ++ rest).dropWhile isBlank = bracketed name ++ rest := by
    rw [bracketed_append, List.dropWhile_cons_of_neg (by simp [hopen])]
  rw [joined?_blanks_append hbefore, joined?, List.dropWhile_cons_of_neg (by simp [hplus])]
  simp only [List.dropWhile_append_of_pos hbehind, hstart, icon?_bracketed_append hname]

/-- The first of the joined names and then the others. -/
theorem joinedNames_of_joined? (h : joined? text = some (name, rest)) :
    joinedNames text = (name :: (joinedNames rest).1, (joinedNames rest).2) := by
  rw [joinedNames]
  split
  · next hnone => exact absurd (h.symm.trans hnone) (by simp)
  · next heq =>
    obtain ⟨rfl, rfl⟩ := Prod.mk.inj (Option.some.inj (h.symm.trans heq))
    rfl

/-- Where no name is joined, there are no joined names. -/
theorem joinedNames_of_eq_none (h : joined? text = none) : joinedNames text = ([], text) := by
  rw [joinedNames]
  split
  · rfl
  · next heq => exact absurd (h.symm.trans heq) (by simp)

/-- Joined names are read first, and then those that are joined behind them. -/
theorem joinedNames_joined_append (h : Joined names source) (rest : Text) :
    joinedNames (source ++ rest) = (names ++ (joinedNames rest).1, (joinedNames rest).2) := by
  induction h with
  | nil => rfl
  | @cons before behind name source names hbefore hbehind hname hjoined ih =>
    have hread := joined?_append hbefore hbehind hname (source ++ rest)
    simp only [List.append_assoc, List.cons_append]
    rw [joinedNames_of_joined? hread, ih]

/-- All joined names are read, up to where none is joined any more. -/
theorem joinedNames_append (h : Joined names source) (hrest : joined? rest = none) :
    joinedNames (source ++ rest) = (names, rest) := by
  rw [joinedNames_joined_append h, joinedNames_of_eq_none hrest, List.append_nil]

/-- Behind joined names no further name is joined. -/
theorem joined?_joinedNames (text : Text) : joined? (joinedNames text).2 = none := by
  fun_induction joinedNames text with
  | case1 text h => exact h
  | case2 text name rest h names after hnames ih =>
    rw [hnames] at ih
    exact ih

/-- Behind a row no further name is joined. -/
theorem joined?_eq_none_of_row? (h : row? text = some (names, rest)) : joined? rest = none := by
  unfold row? at h
  split at h
  · next name inner hicon =>
    have hmax := joined?_joinedNames inner
    split at h
    · simp at h
    · next others after hne hread =>
      obtain ⟨-, rfl⟩ := Prod.mk.inj (Option.some.inj h)
      rwa [hread] at hmax
  · simp at h

/-- Behind a name that begins no row, no name is joined. -/
theorem joined?_eq_none_of_icon? (hicon : icon? text = some (name, rest))
    (hrow : row? text = none) : joined? rest = none := by
  rw [Option.eq_none_iff_forall_ne_some]
  rintro ⟨next, after⟩ hjoined
  simp [row?, hicon, joinedNames_of_joined? hjoined] at hrow

/-- A name with others joined to it is read as a row of all of them. -/
theorem read?_true_row (hname : IsName name) (hnames : names ≠ []) (hjoined : Joined names source)
    (hrest : joined? rest = none) :
    read? true (bracketed name ++ source ++ rest) = some (.row (name :: names), rest) := by
  obtain ⟨first, others, rfl⟩ := List.exists_cons_of_ne_nil hnames
  have hrow : row? (bracketed name ++ (source ++ rest)) = some (name :: first :: others, rest) := by
    rw [row?, icon?_bracketed_append hname]
    simp only [joinedNames_append hjoined hrest]
  simp [read?, hrow]

end Shape

/-- Whether a segment is made of icons: a row, or an icon by itself. -/
def Segment.IsIcons : Segment → Prop
  | .atom single => single.IsIcon
  | .row _ => True

/-- Words are no icons. -/
theorem Segment.not_isIcons_text (words : Text) : ¬ (Segment.atom (.text words)).IsIcons := id

/-- Behind a shape that says an icon or a row, no name is joined. -/
theorem Shape.joined?_eq_none_of_isIcons {shape : Shape}
    (hread : read? true (source ++ rest) = some (shape, rest)) (hspells : shape.Spells source)
    (hsegment : Fragment.segment? ⟨some shape, source⟩ = some segment)
    (hicons : segment.IsIcons) : joined? rest = none := by
  simp only [read?, Option.orElse_eq_orElse, Option.orElse_eq_or, Option.or_eq_some_iff,
    Option.map_eq_some_iff, Option.map_eq_none_iff, if_true] at hread
  rcases hread with ⟨⟨names, after⟩, hrow, heq⟩ | ⟨hrow, ⟨⟨digits, after⟩, -, heq⟩ |
    ⟨-, ⟨after, -, heq⟩ | ⟨-, ⟨name, after⟩, hicon, heq⟩⟩⟩ <;>
    obtain ⟨rfl, rfl⟩ := Prod.mk.inj heq
  · exact joined?_eq_none_of_row? hrow
  · obtain rfl := Option.some.inj hsegment
    cases hspells with
    | points hdigits => exact absurd hicons hdigits
  · obtain ⟨-, rfl⟩ := Segment.ofWords?_eq_some_iff.1 hsegment
    exact absurd hicons (Segment.not_isIcons_text _)
  · exact joined?_eq_none_of_icon? hicon (by simpa using hrow)

/-- A stray blank adds nothing to the segments of the text after it. -/
theorem parseWith_stray_blank (hread : Shape.read? rows (c :: rest) = none)
    (hblank : isBlank c = true) : parseWith rows (c :: rest) = parseWith rows rest := by
  rw [parseWith, Fragment.scan_cons hread, filterMap_segment?_pushStray hblank, ← parseWith]

/-- A stray character that is not blank begins words, and behind these come segments of the text
after it. -/
theorem exists_parseWith_stray (hread : Shape.read? rows (c :: rest) = none)
    (hblank : isBlank c = false) :
    ∃ words tail, parseWith rows (c :: rest) = .atom (.text (c :: words)) :: tail ∧
      tail <:+ parseWith rows rest := by
  have hwords (source : Text) : Fragment.segment? ⟨none, c :: source⟩ =
      some (.atom (.text (c :: Text.trimEnd source))) := by
    exact Segment.ofWords?_eq_some_iff.2 (by simp [Text.trim_cons_of_not_blank hblank])
  rw [parseWith, parseWith, Fragment.scan_cons hread]
  rcases Fragment.scan rows rest with _ | ⟨⟨_ | shape, source⟩, others⟩
  · exact ⟨_, [], List.filterMap_cons_some (hwords []), List.nil_suffix⟩
  · refine ⟨_, _, List.filterMap_cons_some (hwords source), ?_⟩
    exact (List.suffix_cons _ others).filterMap _
  · exact ⟨_, _, List.filterMap_cons_some (hwords []), List.suffix_refl _⟩

/-- How the first segment of a text comes about where no blanks stand before it: from a shape, with
the segments of the rest behind it, or from stray characters. -/
inductive FirstSegment (rows : Bool) : Text → Segment → List Segment → Prop where
  | shape {shape : Shape} {source rest : Text} {segment : Segment}
      (hread : Shape.read? rows (source ++ rest) = some (shape, rest))
      (hspells : shape.Spells source)
      (hsegment : Fragment.segment? ⟨some shape, source⟩ = some segment) :
      FirstSegment rows (source ++ rest) segment (parseWith rows rest)
  | stray {c : Char} {rest words : Text} {tail : List Segment}
      (hread : Shape.read? rows (c :: rest) = none) :
      FirstSegment rows (c :: rest) (.atom (.text (c :: words))) tail

/-- Only blanks stand before what the first segment of a text comes from. -/
theorem exists_firstSegment (h : parseWith rows text = segment :: tail) :
    ∃ blanks inner : Text, (∀ c ∈ blanks, isBlank c = true) ∧ text = blanks ++ inner ∧
      FirstSegment rows inner segment tail := by
  induction text using Fragment.scan_induction rows with
  | nil => simp [parseWith] at h
  | shape shape source rest hread hspells ih =>
    rw [parseWith_append hread] at h
    cases hsegment : Fragment.segment? ⟨some shape, source⟩ with
    | some first =>
      rw [hsegment, Option.toList_some, List.singleton_append] at h
      obtain ⟨rfl, rfl⟩ := List.cons.inj h
      exact ⟨[], _, by simp, rfl, .shape hread hspells hsegment⟩
    | none =>
      -- Among the shapes only blank plain words say nothing.
      have hblank : ∀ c ∈ source, isBlank c = true := by
        cases hspells with
        | plain => exact Segment.ofWords?_eq_none_iff.1 hsegment
        | row | points | icon => simp [Fragment.segment?] at hsegment
      rw [hsegment] at h
      obtain ⟨blanks, inner, hblanks, rfl, hfirst⟩ := ih h
      exact ⟨source ++ blanks, inner, List.forall_mem_append.2 ⟨hblank, hblanks⟩, by simp, hfirst⟩
  | stray c rest hread ih =>
    cases hblank : isBlank c with
    | true =>
      rw [parseWith_stray_blank hread hblank] at h
      obtain ⟨blanks, inner, hblanks, rfl, hfirst⟩ := ih h
      exact ⟨c :: blanks, inner, List.forall_mem_cons.2 ⟨hblank, hblanks⟩, rfl, hfirst⟩
    | false =>
      obtain ⟨words, others, hwords, -⟩ := exists_parseWith_stray hread hblank
      obtain ⟨rfl, rfl⟩ := List.cons.inj (hwords.symm.trans h)
      exact ⟨[], _, by simp, rfl, .stray hread⟩

/-- A text that says an icon or a row first begins with a bracketed name, behind blanks. -/
theorem exists_name_of_parseWith_eq_cons (h : parseWith rows text = segment :: tail)
    (hicons : segment.IsIcons) :
    ∃ blanks name after : Text, (∀ c ∈ blanks, isBlank c = true) ∧ Shape.IsName name ∧
      text = blanks ++ (bracketed name ++ after) := by
  obtain ⟨blanks, inner, hblanks, rfl, hfirst⟩ := exists_firstSegment h
  cases hfirst with
  | stray => exact absurd hicons (Segment.not_isIcons_text _)
  | shape hread hspells hsegment =>
    cases hspells with
    | row hname => exact ⟨blanks, _, _, hblanks, hname, by rw [List.append_assoc]⟩
    | points hdigits =>
      obtain rfl := Option.some.inj hsegment
      exact absurd hicons hdigits
    | plain =>
      obtain ⟨-, rfl⟩ := Segment.ofWords?_eq_some_iff.1 hsegment
      exact absurd hicons (Segment.not_isIcons_text _)
    | icon hname => exact ⟨blanks, _, _, hblanks, hname, rfl⟩

/-- A shape that says words is plain, and says what is left of its source without the blanks at the
ends. -/
theorem Shape.Spells.trim_eq_of_segment? {shape : Shape} {words : Text} (h : shape.Spells source)
    (hsegment : Fragment.segment? ⟨some shape, source⟩ = some (.atom (.text words))) :
    Text.trim source = words := by
  cases h with
  | plain =>
    obtain ⟨-, hwords⟩ := Segment.ofWords?_eq_some_iff.1 hsegment
    exact (Atom.text.inj (Segment.atom.inj hwords)).symm
  | row | points => simp [Fragment.segment?] at hsegment
  | icon =>
    simp only [Fragment.segment?, Atom.ofName] at hsegment
    split at hsegment <;> simp at hsegment

/-- Where a text says a plus sign and then an icon or a row, a name is joined. -/
theorem joined?_ne_none_of_parseWith_eq_cons
    (h : parseWith rows text = .atom (.text ['+']) :: segment :: tail) (hicons : segment.IsIcons) :
    Shape.joined? text ≠ none := by
  obtain ⟨blanks, inner, hblanks, rfl, hfirst⟩ := exists_firstSegment h
  rw [Shape.joined?_blanks_append hblanks]
  generalize hsecond : segment :: tail = others at hfirst
  generalize hplus : Segment.atom (.text ['+']) = first at hfirst
  cases hfirst with
  | stray hread =>
    obtain ⟨rfl, -⟩ := List.cons.inj (Atom.text.inj (Segment.atom.inj hplus))
    exact absurd (Shape.read?_cons_eq_none_iff.1 hread).1 (by decide)
  | @shape shape source rest _ hread hspells hsegment =>
    subst hplus
    -- All that stands between the sign and the next name is blank.
    obtain ⟨before, behind, hbefore, hbehind, hsource⟩ := Text.exists_eq_trim_append source
    obtain ⟨spaces, name, after, hspaces, hname, rfl⟩ :=
      exists_name_of_parseWith_eq_cons hsecond.symm hicons
    have hjoined := Shape.joined?_append hbefore (List.forall_mem_append.2 ⟨hbehind, hspaces⟩) hname
      after
    have hsplit : source ++ (spaces ++ (bracketed name ++ after)) =
        before ++ '+' :: (behind ++ spaces ++ (bracketed name ++ after)) := by
      rw [hsource, hspells.trim_eq_of_segment? hsegment]
      simp
    rw [hsplit, hjoined]
    simp

/-- No icon or row stands right before a plus sign and another icon or row. -/
theorem not_infix_parse {left right : Segment} (hleft : left.IsIcons) (hright : right.IsIcons)
    (text : Text) : ¬ [left, .atom (.text ['+']), right] <:+: parse text := by
  induction text using Fragment.scan_induction true with
  | nil => simp [parse, parseWith]
  | shape shape source rest hread hspells ih =>
    rw [parse, parseWith_append hread]
    cases hsegment : Fragment.segment? ⟨some shape, source⟩ with
    | none => exact ih
    | some first =>
      rw [Option.toList_some, List.singleton_append, List.infix_cons_iff, not_or]
      refine ⟨fun hprefix => ?_, ih⟩
      obtain ⟨rfl, others, hrest⟩ := List.cons_prefix_cons.1 hprefix
      have hnone := Shape.joined?_eq_none_of_isIcons hread hspells hsegment hleft
      exact joined?_ne_none_of_parseWith_eq_cons hrest.symm hright hnone
  | stray c rest hread ih =>
    cases hblank : isBlank c with
    | true =>
      rw [parse, parseWith_stray_blank hread hblank]
      exact ih
    | false =>
      obtain ⟨words, others, hwords, hsuffix⟩ := exists_parseWith_stray hread hblank
      rw [parse, hwords, List.infix_cons_iff, not_or]
      refine ⟨fun hprefix => ?_, fun hlater => ih (hlater.trans hsuffix.isInfix)⟩
      obtain ⟨rfl, -⟩ := List.cons_prefix_cons.1 hprefix
      exact Segment.not_isIcons_text _ hleft

/-- Icons that are joined are grouped: no icon or row stands right before a plus sign and another
icon or row, and a text that begins with a name and others joined to it says a row of all of
them. -/
theorem joined_icons_grouped (text : Text) :
    (¬ ∃ left right : Segment, left.IsIcons ∧ right.IsIcons ∧
      [left, .atom (.text ['+']), right] <:+: parse text) ∧
      ∀ name names source rest, text = bracketed name ++ source ++ rest → Shape.IsName name →
        names ≠ [] → Shape.Joined names source → Shape.joined? rest = none →
        parse text = .row ((name :: names).map Atom.ofName) :: parse rest := by
  constructor
  · rintro ⟨left, right, hleft, hright, hinfix⟩
    exact not_infix_parse hleft hright text hinfix
  · rintro name names source rest rfl hname hnames hjoined hrest
    rw [parse, parseWith_append (Shape.read?_true_row hname hnames hjoined hrest)]
    rfl

/-- Points with a label are no icon by themselves, so a row does not begin with them. -/
example :
    parse "2 [Wave] + [Egg]+[Wave]" =
      [.atom (.points "2"), .atom (.text ['+']), .row [.icon "Egg", .points []]] := by
  decide +kernel

end ReefCards
