import ReefCards.Markup.Render
import ReefCards.Proofs.Markup.IconNames
import ReefCards.Proofs.Markup.WellFormed

/-!
# What is shown of markup

An ability on one line shows all that its text says: read apart from blanks, it is the text with
every bracketed name replaced by what is shown for the icon. Digits, plus signs and marks come
through where they stood, also where a row is read again or a piece stands close to its neighbour.
Main statements: `flatMap_content_parseWith` and `renderSegments_parse`.
-/

namespace ReefCards

open Text (isBlank withoutBlanks)

variable {vocabulary : Vocabulary} {rows : Bool} {c : Char} {rest source text name : Text}

/-- The text with what is shown for an icon in place of each bracketed name, from left to right. -/
def withGlyphs (vocabulary : Vocabulary) (text : Text) : Text :=
  match text with
  | [] => []
  | c :: rest =>
    match _h : Shape.icon? (c :: rest) with
    | some (name, after) => vocabulary.display name ++ withGlyphs vocabulary after
    | none => c :: withGlyphs vocabulary rest
termination_by text.length
decreasing_by
  · exact Shape.length_lt_of_icon? _ _ _h
  · simp

/-- Nothing is shown for the empty text. -/
@[simp]
theorem withGlyphs_nil : withGlyphs vocabulary [] = [] := by rw [withGlyphs]

/-- A bracketed name at the start of a text is replaced. -/
theorem withGlyphs_bracketed_append (hname : Shape.IsName name) (rest : Text) :
    withGlyphs vocabulary (bracketed name ++ rest) =
      vocabulary.display name ++ withGlyphs vocabulary rest := by
  have hicon := Shape.icon?_bracketed_append hname rest
  rw [bracketed_append] at hicon ⊢
  rw [withGlyphs]
  split
  · next heq =>
    obtain ⟨rfl, rfl⟩ := Prod.mk.inj (Option.some.inj (hicon.symm.trans heq))
    rfl
  · next heq => exact absurd (hicon.symm.trans heq) (by simp)

/-- A character that begins no bracketed name stays. -/
theorem withGlyphs_cons (h : Shape.icon? (c :: rest) = none) :
    withGlyphs vocabulary (c :: rest) = c :: withGlyphs vocabulary rest := by
  rw [withGlyphs]
  split
  · next heq => exact absurd (h.symm.trans heq) (by simp)
  · rfl

/-- A text without opening brackets stays. -/
theorem withGlyphs_append_of_not_mem (h : '[' ∉ source) (rest : Text) :
    withGlyphs vocabulary (source ++ rest) = source ++ withGlyphs vocabulary rest := by
  induction source with
  | nil => rfl
  | cons c others ih =>
    obtain ⟨hc, hothers⟩ := not_or.1 (mt List.mem_cons.2 h)
    rw [List.cons_append, withGlyphs_cons (Shape.icon?_cons_of_ne (Ne.symm hc) _), ih hothers,
      List.cons_append]

/-- What is shown for the atom of a name is what is shown for the icon. -/
@[simp]
theorem Atom.render_ofName (vocabulary : Vocabulary) (name : Text) :
    (Atom.ofName name).render vocabulary = vocabulary.display name := by
  unfold Atom.ofName
  split
  · next h =>
    subst h
    rfl
  · rfl

/-- What is shown for a segment, apart from blanks. -/
def Segment.content (vocabulary : Vocabulary) (segment : Segment) : Text :=
  withoutBlanks (segment.render vocabulary)

/-- Words are shown with all that is not blank. -/
theorem Segment.flatMap_content_ofWords? (source : Text) :
    (ofWords? source).toList.flatMap (content vocabulary) = withoutBlanks source := by
  cases h : ofWords? source with
  | none => exact ((Text.withoutBlanks_eq_nil_iff source).2 (ofWords?_eq_none_iff.1 h)).symm
  | some segment =>
    obtain ⟨-, rfl⟩ := ofWords?_eq_some_iff.1 h
    rw [Option.toList_some, List.flatMap_singleton]
    exact Text.withoutBlanks_trim source

namespace Shape

/-- Joined names are replaced behind their plus signs. -/
theorem Joined.withoutBlanks_withGlyphs_append {names : List Text} (h : Joined names source)
    (rest : Text) :
    withoutBlanks (withGlyphs vocabulary (source ++ rest)) =
      (names.flatMap fun name =>
        withoutBlanks rowJoiner ++ withoutBlanks (vocabulary.display name)) ++
        withoutBlanks (withGlyphs vocabulary rest) := by
  induction h with
  | nil => rfl
  | @cons before behind name source names hbefore hbehind hname hrest ih =>
    have hplus : '[' ∉ before ++ '+' :: behind := by
      simp [open_not_mem_of_blank hbefore, open_not_mem_of_blank hbehind]
    have hjoiner : withoutBlanks (before ++ '+' :: behind) = withoutBlanks rowJoiner := by
      rw [Text.withoutBlanks_append, Text.withoutBlanks_cons (by decide),
        (Text.withoutBlanks_eq_nil_iff _).2 hbefore, (Text.withoutBlanks_eq_nil_iff _).2 hbehind]
      decide
    calc withoutBlanks (withGlyphs vocabulary
          (before ++ '+' :: (behind ++ (bracketed name ++ source)) ++ rest))
        = withoutBlanks (withGlyphs vocabulary
            (before ++ '+' :: behind ++ (bracketed name ++ (source ++ rest)))) := by
          simp only [List.append_assoc, List.cons_append]
      _ = withoutBlanks rowJoiner ++ (withoutBlanks (vocabulary.display name) ++
            withoutBlanks (withGlyphs vocabulary (source ++ rest))) := by
          rw [withGlyphs_append_of_not_mem hplus, withGlyphs_bracketed_append hname,
            Text.withoutBlanks_append, hjoiner, Text.withoutBlanks_append]
      _ = _ := by
          rw [ih, List.flatMap_cons]
          simp only [List.append_assoc]

/-- A spelling of a shape is shown as the text with its names replaced. -/
theorem Spells.withoutBlanks_withGlyphs_append {shape : Shape} (h : shape.Spells source)
    (rest : Text) :
    withoutBlanks (withGlyphs vocabulary (source ++ rest)) =
      (Fragment.segment? ⟨some shape, source⟩).toList.flatMap (Segment.content vocabulary) ++
        withoutBlanks (withGlyphs vocabulary rest) := by
  cases h with
  | @row name source names hname hnames hjoined =>
    have hcontent : Segment.content vocabulary (.row ((name :: names).map Atom.ofName)) =
        withoutBlanks (vocabulary.display name) ++
          names.flatMap fun name =>
            withoutBlanks rowJoiner ++ withoutBlanks (vocabulary.display name) := by
      have hicons : ((name :: names).map Atom.ofName).map (Atom.render vocabulary) =
          vocabulary.display name :: names.map vocabulary.display := by simp [Function.comp_def]
      rw [Segment.content, Segment.render, hicons, Text.join_cons, Text.withoutBlanks_append,
        Text.withoutBlanks_flatMap, List.flatMap_map]
      simp only [Text.withoutBlanks_append]
    rw [List.append_assoc, withGlyphs_bracketed_append hname, Text.withoutBlanks_append,
      hjoined.withoutBlanks_withGlyphs_append, Fragment.segment?, Option.toList_some,
      List.flatMap_singleton, hcontent, List.append_assoc]
  | @points digits space hdigits hall hspace =>
    have hplain := open_not_mem_of_plain (isPlainChar_of_mem_digits hall hspace)
    have hblank : withoutBlanks space = withoutBlanks [' '] := by
      rcases hspace with rfl | rfl <;> rfl
    have hcontent : Segment.content vocabulary (.atom (.points digits)) =
        withoutBlanks digits ++
          (withoutBlanks [' '] ++ withoutBlanks (vocabulary.display Vocabulary.wave)) := by
      rw [Segment.content, Segment.render, Atom.render, if_neg (by simpa using hdigits),
        Text.withoutBlanks_append, ← List.singleton_append, Text.withoutBlanks_append]
    rw [← List.append_assoc digits, List.append_assoc, withGlyphs_append_of_not_mem hplain,
      withGlyphs_bracketed_append isName_wave, Fragment.segment?, Option.toList_some,
      List.flatMap_singleton, hcontent]
    simp only [Text.withoutBlanks_append, hblank, List.append_assoc]
  | plain hsource hall =>
    rw [withGlyphs_append_of_not_mem (open_not_mem_of_plain hall), Text.withoutBlanks_append]
    exact congrArg (· ++ _) (Segment.flatMap_content_ofWords? _).symm
  | icon hname =>
    rw [withGlyphs_bracketed_append hname, Text.withoutBlanks_append]
    simp [Fragment.segment?, Segment.content, Segment.render]

end Shape

/-- A stray character is shown before the fragments after it, unless it is blank. -/
theorem Fragment.flatMap_content_pushStray (c : Char) (fragments : List Fragment) :
    ((pushStray c fragments).filterMap segment?).flatMap (Segment.content vocabulary) =
      withoutBlanks [c] ++
        (fragments.filterMap segment?).flatMap (Segment.content vocabulary) := by
  have hstray (source : Text) : (segment? ⟨none, source⟩).toList.flatMap
      (Segment.content vocabulary) = withoutBlanks source :=
    Segment.flatMap_content_ofWords? source
  simp only [List.filterMap_eq_flatMap_toList, List.flatMap_assoc]
  rcases fragments with _ | ⟨⟨_ | shape, source⟩, others⟩
  · simp only [pushStray, List.flatMap_cons, hstray, List.flatMap_nil]
  · simp only [pushStray, List.flatMap_cons, hstray]
    rw [← List.singleton_append (l := source), Text.withoutBlanks_append, List.append_assoc]
  · simp only [pushStray, List.flatMap_cons, hstray]

/-- The segments of a text show it with its bracketed names replaced, apart from blanks. -/
theorem flatMap_content_parseWith (vocabulary : Vocabulary) (rows : Bool) (text : Text) :
    (parseWith rows text).flatMap (Segment.content vocabulary) =
      withoutBlanks (withGlyphs vocabulary text) := by
  induction text using Fragment.scan_induction rows with
  | nil => simp [parseWith, withoutBlanks]
  | shape shape source rest hread hspells ih =>
    rw [parseWith_append hread, List.flatMap_append, ih, hspells.withoutBlanks_withGlyphs_append]
  | stray c rest hread ih =>
    rw [parseWith, Fragment.scan_cons hread, Fragment.flatMap_content_pushStray, ← parseWith, ih,
      withGlyphs_cons (Shape.read?_cons_eq_none_iff.1 hread).2, ← Text.withoutBlanks_append,
      List.singleton_append]

section Line

variable {line piece : Text} {pieces : List Text}

/-- A piece comes behind the line and at most a space, but for the first piece, which begins the
line. -/
theorem exists_appendPiece_eq (line piece : Text) :
    ∃ gap : Text, withoutBlanks gap = [] ∧ (line = [] → gap = []) ∧
      appendPiece line piece = line ++ (gap ++ piece) := by
  unfold appendPiece
  split
  · exact ⟨[], rfl, fun _ => rfl, rfl⟩
  · next hgap => exact ⟨[' '], by decide, fun hline => by simp [hline] at hgap, rfl⟩

/-- Pieces are put on a line with all that is not blank. -/
theorem withoutBlanks_foldl_appendPiece (line : Text) (pieces : List Text) :
    withoutBlanks (pieces.foldl appendPiece line) =
      withoutBlanks line ++ pieces.flatMap withoutBlanks := by
  induction pieces generalizing line with
  | nil => simp
  | cons piece others ih =>
    obtain ⟨gap, hgap, -, heq⟩ := exists_appendPiece_eq line piece
    rw [List.foldl_cons, ih, heq, Text.withoutBlanks_append, Text.withoutBlanks_append, hgap,
      List.flatMap_cons, List.nil_append, List.append_assoc]

/-- A line of pieces without blanks at their ends has none at its ends. -/
theorem isTight_foldl_appendPiece (hline : line.IsTight)
    (hpieces : ∀ piece ∈ pieces, piece ≠ [] ∧ piece.IsTight) :
    (pieces.foldl appendPiece line).IsTight := by
  induction pieces generalizing line with
  | nil => exact hline
  | cons piece others ih =>
    obtain ⟨⟨hne, hpiece⟩, hothers⟩ := List.forall_mem_cons.1 hpieces
    obtain ⟨gap, -, hfirst, heq⟩ := exists_appendPiece_eq line piece
    refine ih ?_ hothers
    rw [heq]
    by_cases hempty : line = []
    · simpa [hempty, hfirst hempty] using hpiece
    · exact hline.append_append hpiece hempty hne gap

end Line

/-- What is shown for an icon has no blanks at its ends, whatever the name. -/
theorem isTight_display (vocabulary : Vocabulary) (name : Text) :
    vocabulary.display name ≠ [] ∧ (vocabulary.display name).IsTight := by
  by_cases hmem : name ∈ vocabulary
  · rw [Vocabulary.display_of_mem hmem]
    by_cases hwave : name = Vocabulary.wave
    · have hglyph : isBlank '≋' = false := by decide
      rw [if_pos hwave]
      exact ⟨by simp, Text.isTight_of_not_blank (by simpa using hglyph)⟩
    · rw [if_neg hwave]
      exact ⟨by simp, Text.isTight_cons_concat (by decide) (by decide) name⟩
  · rw [Vocabulary.display_of_not_mem hmem]
    exact ⟨by simp, Text.isTight_cons_concat (by decide) (by decide) ('?' :: name)⟩

/-- What is shown for a well-formed atom has no blanks at its ends. -/
theorem Atom.WellFormed.isTight_render {single : Atom} (h : single.WellFormed) :
    single.render vocabulary ≠ [] ∧ (single.render vocabulary).IsTight := by
  cases h with
  | text hne htight => exact ⟨hne, htight⟩
  | icon => exact isTight_display vocabulary _
  | @points label hdigits =>
    obtain ⟨hne, htight⟩ := isTight_display vocabulary Vocabulary.wave
    rw [Atom.render]
    split
    · exact ⟨hne, htight⟩
    · next hlabel =>
      rw [List.isEmpty_iff] at hlabel
      have hblank : label.IsTight :=
        Text.isTight_of_not_blank fun c hc => Text.isBlank_of_isDigit (hdigits c hc)
      exact ⟨by simp, hblank.append_append htight hlabel hne [' ']⟩

/-- What is shown for a well-formed segment has no blanks at its ends. -/
theorem Segment.WellFormed.isTight_render {segment : Segment} (h : segment.WellFormed) :
    segment.render vocabulary ≠ [] ∧ (segment.render vocabulary).IsTight := by
  cases h with
  | atom h => exact h.isTight_render
  | @row icons hsize hicons =>
    obtain ⟨first, others, rfl⟩ : ∃ first others, icons = first :: others :=
      List.exists_cons_of_length_pos (by omega)
    have hrender : ∀ icon ∈ first :: others, icon.render vocabulary ≠ [] ∧
        (icon.render vocabulary).IsTight := fun icon hicon => (hicons icon hicon).2.isTight_render
    obtain ⟨hfirst, hothers⟩ := List.forall_mem_cons.1 hrender
    exact Text.isTight_join rowJoiner hfirst (by simpa using hothers)

/-- Markup is shown with all its content: what is shown for a text has no blanks at its ends, and
differs in nothing but blanks from the text with every bracketed name replaced by what is shown for
the icon. -/
theorem renderSegments_parse (vocabulary : Vocabulary) (text : Text) :
    (renderSegments vocabulary (parse text)).IsTight ∧
      withoutBlanks (renderSegments vocabulary (parse text)) =
        withoutBlanks (withGlyphs vocabulary text) := by
  constructor
  · refine isTight_foldl_appendPiece Text.isTight_nil fun piece hpiece => ?_
    obtain ⟨segment, hsegment, rfl⟩ := List.mem_map.1 hpiece
    exact (wellFormed_of_mem_parseWith hsegment).isTight_render
  · rw [renderSegments, withoutBlanks_foldl_appendPiece, List.flatMap_map,
      ← flatMap_content_parseWith vocabulary true text]
    rfl

/-- Only spaces between the pieces are new, and an unknown icon stays visible by its name. -/
example :
    let vocabulary := Vocabulary.ofNames ["Egg", Vocabulary.wave]
    let text : Text := "Lay 1[Egg]+[Sun] ([Egg]),2[Wave]!"
    renderSegments vocabulary (parse text) = "Lay 1 ‹Egg› + [?Sun] (‹Egg›), 2 ≋!".toList ∧
      withGlyphs vocabulary text = "Lay 1‹Egg›+[?Sun] (‹Egg›),2≋!".toList := by
  decide +kernel

end ReefCards
