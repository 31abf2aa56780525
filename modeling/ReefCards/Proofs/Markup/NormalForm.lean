import ReefCards.Proofs.Markup.Spaced

/-!
# The normal form of markup

Whatever a text is, it is written back in parts with single spaces between them: bracketed names,
plain words and stray text. Read again, a part may be taken for something else, since the spaces let
words run together and digits or rows come apart, but it is written as it stands. So markup that was
written once is in normal form. Main statements: `exists_parts_spacedMarkup`, `spacedMarkup_spaced`
and `toMarkup_parse_normal`.
-/

namespace ReefCards

variable {rows : Bool} {source text part : Text} {parts : List Text}

/-- The parts in which markup is written: bracketed names, and plain or stray text without blanks at
its ends. -/
inductive IsPart : Text → Prop where
  | icon {name : Text} (hname : Shape.IsName name) : IsPart (bracketed name)
  | plain {source : Text} (hne : source ≠ []) (htrim : Text.trim source = source)
      (hall : ∀ c ∈ source, Shape.isPlainChar c = true) : IsPart source
  | stray {source : Text} (hne : source ≠ []) (htrim : Text.trim source = source)
      (hstray : IsStray source) : IsPart source

/-- A part is not empty. -/
theorem IsPart.ne_nil (h : IsPart part) : part ≠ [] := by
  cases h with
  | icon => simp [bracketed]
  | plain hne => exact hne
  | stray hne => exact hne

/-- A part has no blanks at its start. -/
theorem IsPart.trimStart_eq (h : IsPart part) : Text.trimStart part = part := by
  cases h with
  | icon => exact (Text.trimStart_cons_eq_self_iff _ _).2 (by decide)
  | plain hne htrim => rw [← htrim, Text.trimStart_trim]
  | stray hne htrim => rw [← htrim, Text.trimStart_trim]

/-- A plus sign is a part. -/
theorem isPart_plus : IsPart ['+'] :=
  .plain (by decide) (by decide) (List.all_eq_true.1 (by decide))

/-- Words are written as a single part, or as none. -/
theorem exists_parts_spacedWords (h : Text.trim source ≠ [] → IsPart (Text.trim source)) :
    ∃ parts, (∀ part ∈ parts, IsPart part) ∧ spacedWords source = Text.spaced parts := by
  rw [spacedWords_eq]
  split
  · exact ⟨[], by simp, rfl⟩
  · next hne => exact ⟨[Text.trim source], by simpa using h hne, by simp⟩

/-- What a fragment says is written in parts. -/
theorem Fragment.exists_parts {fragment : Fragment} (hmem : fragment ∈ scan rows text) :
    ∃ parts, (∀ part ∈ parts, IsPart part) ∧
      Text.spaced (fragment.segment?.toList.map Segment.toMarkup) = Text.spaced parts := by
  obtain ⟨_ | shape, source⟩ := fragment
  · refine exists_parts_spacedWords fun hne => ?_
    have hstray : IsStray source := isStray_of_mem_scan hmem rfl
    exact .stray hne (Text.trim_trim source) (hstray.part (Text.trim_infix source))
  · cases Fragment.spells_of_mem_scan hmem rfl with
    | @row name joined names hname hnames hjoined =>
      refine ⟨(Segment.row (.ofName name :: names.map Atom.ofName)).ungrouped.map Segment.toMarkup,
        ?_, ?_⟩
      · intro part hpart
        rw [Segment.ungrouped_row_cons] at hpart
        simp only [List.map_cons, List.mem_cons, List.mem_map, List.mem_flatMap] at hpart
        rcases hpart with rfl | ⟨segment, ⟨icon, ⟨other, hother, rfl⟩, rfl | rfl | hnil⟩, rfl⟩
        · simpa [Segment.toMarkup] using .icon hname
        · exact isPart_plus
        · simpa [Segment.toMarkup] using .icon (hjoined.isName other hother)
        · simp at hnil
      · rw [Segment.spaced_ungrouped (by simp)]
        simp [segment?]
    | @points digits space hdigits hall hspace =>
      have htrim : Text.trim digits = digits :=
        Text.trim_of_not_blank fun c hc => Text.isBlank_of_isDigit (hall c hc)
      have hpart : IsPart digits :=
        .plain hdigits htrim fun c hc => Shape.isPlainChar_of_isDigit (hall c hc)
      refine ⟨[digits, bracketed Vocabulary.wave], ?_, ?_⟩
      · simpa using ⟨hpart, .icon Shape.isName_wave⟩
      · simp [segment?, Segment.toMarkup, Atom.toMarkup, hdigits]
    | plain hsource hall =>
      refine exists_parts_spacedWords fun hne => ?_
      exact .plain hne (Text.trim_trim source) fun c hc => hall c ((Text.trim_infix _).subset hc)
    | @icon name hname =>
      exact ⟨[bracketed name], by simpa using .icon hname, by simp [segment?, Segment.toMarkup]⟩

/-- Every text is written in parts, each behind a space. -/
theorem exists_parts_spacedMarkup (rows : Bool) (text : Text) :
    ∃ parts, (∀ part ∈ parts, IsPart part) ∧ spacedMarkup rows text = Text.spaced parts := by
  have hall : ∀ fragment ∈ Fragment.scan rows text, ∃ parts, (∀ part ∈ parts, IsPart part) ∧
      Text.spaced (fragment.segment?.toList.map Segment.toMarkup) = Text.spaced parts :=
    fun fragment hmem => Fragment.exists_parts hmem
  rw [spacedMarkup, parseWith]
  generalize Fragment.scan rows text = fragments at hall ⊢
  induction fragments with
  | nil => exact ⟨[], by simp, rfl⟩
  | cons fragment others ih =>
    obtain ⟨⟨parts, hparts, hwritten⟩, hothers⟩ := List.forall_mem_cons.1 hall
    obtain ⟨more, hmore, hmoreWritten⟩ := ih hothers
    have hsplit : (fragment :: others).filterMap Fragment.segment? =
        fragment.segment?.toList ++ others.filterMap Fragment.segment? := by
      rw [List.filterMap_cons]
      cases fragment.segment? <;> rfl
    refine ⟨parts ++ more, List.forall_mem_append.2 ⟨hparts, hmore⟩, ?_⟩
    rw [hsplit, List.map_append, Text.spaced_append, Text.spaced_append, hwritten, hmoreWritten]

/-- The plain start of parts behind spaces is written as it stands, but for the blanks at its
end. -/
theorem spacedWords_takeWhile_spaced (h : ∀ part ∈ parts, IsPart part) :
    spacedWords ((Text.spaced parts).takeWhile Shape.isPlainChar) =
      Text.trimEnd ((Text.spaced parts).takeWhile Shape.isPlainChar) := by
  cases parts with
  | nil => rfl
  | cons part others =>
    have hpart := h part List.mem_cons_self
    have hstart := Text.trimStart_append hpart.ne_nil hpart.trimStart_eq (Text.spaced others)
    rw [Text.spaced_cons, List.takeWhile_cons_of_pos (by decide)]
    exact spacedWords_space (Text.trimStart_of_prefix hstart (List.takeWhile_prefix _))

/-- A plain part behind a space is written as it stands, before what follows. -/
theorem spacedWords_plain_append (hne : part ≠ []) (htrim : Text.trim part = part)
    (rest : Text) :
    spacedWords (' ' :: (part ++ rest)) = ' ' :: (part ++ Text.trimEnd rest) := by
  have hstart : Text.trimStart part = part := by rw [← htrim, Text.trimStart_trim]
  have hend : Text.trimEnd part = part := by rw [← htrim, Text.trimEnd_trim]
  have hspace : Text.trimEnd (' ' :: part) = ' ' :: part := by
    rw [← List.singleton_append (l := part), Text.trimEnd_append, hend, if_neg hne]
  rw [spacedWords_space (Text.trimStart_append hne hstart rest), ← List.cons_append,
    Text.trimEnd_append_of_trimEnd_eq hspace, List.cons_append]

/-- Parts behind spaces are written as they stand. -/
theorem spacedMarkup_spaced (h : ∀ part ∈ parts, IsPart part) :
    spacedMarkup false (Text.spaced parts) = Text.spaced parts := by
  induction parts with
  | nil => simp [spacedMarkup, parseWith]
  | cons part others ih =>
    obtain ⟨hpart, hothers⟩ := List.forall_mem_cons.1 h
    rw [Text.spaced_cons]
    cases hpart with
    | icon hname => rw [spacedMarkup_space, spacedMarkup_bracketed_append hname, ih hothers]
    | stray hne htrim hstray =>
      rw [spacedMarkup_space, spacedMarkup_stray_append hstray (Text.spaced_eq_nil_or others),
        ih hothers, spacedWords_eq, htrim, if_neg hne, List.cons_append]
    | plain hne htrim hall =>
      -- The part is read as one with the plain start of what follows, which is written behind it as
      -- it would be by itself.
      have hspace : Shape.isPlainChar ' ' = true := by decide
      have hfollowing := ih hothers
      rw [spacedMarkup_span, spacedWords_takeWhile_spaced hothers] at hfollowing
      rw [spacedMarkup_span, List.takeWhile_cons_of_pos hspace, List.dropWhile_cons_of_pos hspace,
        List.takeWhile_append_of_pos hall, List.dropWhile_append_of_pos hall,
        spacedWords_plain_append hne htrim, List.cons_append, List.append_assoc, hfollowing]

/-- Parts with spaces between them are written back as they stand. -/
theorem toMarkup_parse_tail_spaced (h : ∀ part ∈ parts, IsPart part) :
    toMarkup (parse (Text.spaced parts).tail) = (Text.spaced parts).tail := by
  rw [parse, toMarkup_parseWith, spacedMarkup_true]
  cases parts with
  | nil => simp [spacedMarkup, parseWith]
  | cons part others =>
    have hwritten := spacedMarkup_spaced h
    rw [Text.spaced_cons, spacedMarkup_space] at hwritten
    rw [Text.spaced_cons, List.tail_cons, hwritten, List.tail_cons]

/-- Markup that was written back once is in normal form: it is written back unchanged, and so it is
read as the same segments from then on, whether or not these are the segments of the first text. -/
theorem toMarkup_parse_normal (text : Text) :
    let normal := toMarkup (parse text)
    toMarkup (parse normal) = normal ∧ parse (toMarkup (parse normal)) = parse normal := by
  intro normal
  have hnormal : toMarkup (parse normal) = normal := by
    obtain ⟨parts, hparts, heq⟩ := exists_parts_spacedMarkup true text
    have htext : normal = (Text.spaced parts).tail := by
      rw [← heq]
      exact toMarkup_parseWith true text
    rw [htext, toMarkup_parse_tail_spaced hparts]
  exact ⟨hnormal, by rw [hnormal]⟩

/-- The segments of the first text may differ from those of its normal form: digits behind an icon
are points only as long as no space stands before them. -/
example :
    parse "[Egg]2[Wave]" = [.atom (.icon "Egg"), .atom (.points "2")] ∧
      parse (toMarkup (parse "[Egg]2[Wave]")) =
        [.atom (.icon "Egg"), .atom (.text "2"), .atom (.points [])] := by
  decide +kernel

end ReefCards
