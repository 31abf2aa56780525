import ReefCards.Proofs.Markup.Stray
import ReefCards.Proofs.Markup.Ungrouped
import ReefCards.Proofs.Markup.WrittenBack
import ReefCards.Proofs.Text.Trim

/-!
# Markup written behind spaces

When the segments of a text are written each behind a space, it shows neither whether rows count nor
whether digits are read together with the icon for points behind them: the result goes by plain
words, icons and stray text alone. Main statements: `spacedMarkup_true`, `spacedMarkup_span`,
`spacedMarkup_bracketed_append` and `spacedMarkup_stray_append`.
-/

namespace ReefCards

open Text (isBlank)

variable {rows : Bool} {c : Char} {rest source text : Text}

namespace Text

/-- The parts one after the other, each behind a space. -/
def spaced (parts : List Text) : Text := parts.flatMap (' ' :: ·)

/-- No parts make the empty text. -/
@[simp]
theorem spaced_nil : spaced [] = [] := rfl

/-- The first part behind a space comes before the others behind spaces. -/
@[simp]
theorem spaced_cons (part : Text) (parts : List Text) :
    spaced (part :: parts) = ' ' :: (part ++ spaced parts) := rfl

/-- Parts behind spaces may be put together one group after the other. -/
theorem spaced_append (first last : List Text) :
    spaced (first ++ last) = spaced first ++ spaced last := List.flatMap_append

/-- Parts behind spaces are nothing, or begin with a space. -/
theorem spaced_eq_nil_or (parts : List Text) :
    spaced parts = [] ∨ ∃ tail, spaced parts = ' ' :: tail := by
  cases parts with
  | nil => exact .inl rfl
  | cons part others => exact .inr ⟨_, rfl⟩

/-- Parts joined by spaces are the parts behind spaces, without the first space. -/
theorem join_space (parts : List Text) : join " " parts = (spaced parts).tail := by
  cases parts with
  | nil => rfl
  | cons first rest =>
    rw [join_cons, spaced_cons, List.tail_cons]
    rfl

end Text

/-- The markup of the segments of a text, each behind a space. -/
def spacedMarkup (rows : Bool) (text : Text) : Text :=
  Text.spaced ((parseWith rows text).map Segment.toMarkup)

/-- A text written back is its segments behind spaces, without the first space. -/
theorem toMarkup_parseWith (rows : Bool) (text : Text) :
    toMarkup (parseWith rows text) = (spacedMarkup rows text).tail := Text.join_space _

/-- A row that is read holds icons. -/
theorem ne_nil_of_row_mem_parseWith {icons : List Atom} (h : .row icons ∈ parseWith rows text) :
    icons ≠ [] := by
  have hwords (source : Text) : Segment.ofWords? source ≠ some (.row icons) := by
    unfold Segment.ofWords?
    dsimp only
    split <;> simp
  obtain ⟨⟨_ | shape, source⟩, hmem, hsegment⟩ := List.mem_filterMap.1 h
  · exact absurd hsegment (hwords source)
  · cases Fragment.spells_of_mem_scan hmem rfl with
    | row hname hnames hjoined =>
      obtain rfl := Segment.row.inj (Option.some.inj hsegment)
      simp
    | plain hsource hall => exact absurd hsegment (hwords source)
    | points | icon => simp [Fragment.segment?] at hsegment

/-- A segment is written like the segments that it is ungrouped to, each behind a space. -/
theorem Segment.spaced_ungrouped {segment : Segment} (h : segment ≠ .row []) :
    Text.spaced (segment.ungrouped.map toMarkup) = ' ' :: segment.toMarkup := by
  rcases segment with single | (_ | ⟨icon, icons⟩)
  · simp [ungrouped]
  · exact absurd rfl h
  · rw [ungrouped_row_cons, toMarkup, List.map_cons, List.map_cons, Text.join_cons,
      List.flatMap_map, Text.spaced_cons, List.map_flatMap, Text.spaced, List.flatMap_assoc]
    simp [toMarkup, Atom.toMarkup, rowJoiner]

/-- Whether rows count makes no difference to how a text is written. -/
theorem spacedMarkup_true (text : Text) : spacedMarkup true text = spacedMarkup false text := by
  have hungrouped : (parseWith true text).flatMap Segment.ungrouped = parseWith false text :=
    Fragment.flatMap_ungrouped_foldr_pushStray text []
  rw [spacedMarkup, spacedMarkup, ← hungrouped, List.map_flatMap, Text.spaced, Text.spaced,
    List.flatMap_assoc, List.flatMap_map]
  refine List.flatMap_congr fun segment hsegment => (Segment.spaced_ungrouped ?_).symm
  rintro rfl
  exact ne_nil_of_row_mem_parseWith hsegment rfl

/-- What plain or stray text is written as: its words behind a space, if it has any. -/
def spacedWords (source : Text) : Text :=
  Text.spaced ((Segment.ofWords? source).toList.map Segment.toMarkup)

/-- The words of a text are the text without the blanks at its ends, if anything is left. -/
theorem spacedWords_eq (source : Text) :
    spacedWords source = if Text.trim source = [] then [] else ' ' :: Text.trim source := by
  unfold spacedWords Segment.ofWords?
  dsimp only
  by_cases h : Text.trim source = []
  · simp [h]
  · simp [h, Segment.toMarkup, Atom.toMarkup]

/-- A blank before words is not written. -/
theorem spacedWords_cons_blank (hc : isBlank c = true) (source : Text) :
    spacedWords (c :: source) = spacedWords source := by
  rw [spacedWords, Segment.ofWords?_cons_blank hc, ← spacedWords]

/-- Words behind a single space are written as they stand, but for the blanks at their end. -/
theorem spacedWords_space (h : Text.trimStart source = source) :
    spacedWords (' ' :: source) = Text.trimEnd (' ' :: source) := by
  have htrim : Text.trim source = Text.trimEnd source := by rw [Text.trim, h]
  rw [spacedWords_cons_blank (by decide), spacedWords_eq, htrim]
  exact (Text.trimEnd_append [' '] source).symm

namespace Shape

/-- The name of the icon for points is a name. -/
theorem isName_wave : IsName Vocabulary.wave :=
  ⟨by decide, List.all_eq_true.1 (by decide)⟩

/-- Digits and one space at most behind them are plain. -/
theorem isPlainChar_of_mem_digits {digits space : Text} (hall : ∀ c ∈ digits, c.isDigit = true)
    (hspace : space = [] ∨ space = [' ']) : ∀ c ∈ digits ++ space, isPlainChar c = true := by
  intro c hc
  rcases List.mem_append.1 hc with hc | hc
  · exact isPlainChar_of_isDigit (hall c hc)
  · rcases hspace with rfl | rfl
    · simp at hc
    · obtain rfl := List.mem_singleton.1 hc
      decide

end Shape

/-- Digits and one space at most behind them are trimmed to the digits. -/
theorem trim_digits {digits space : Text} (hdigits : digits ≠ [])
    (hall : ∀ c ∈ digits, c.isDigit = true) (hspace : space = [] ∨ space = [' ']) :
    Text.trim (digits ++ space) = digits := by
  have hblank : ∀ c ∈ digits, isBlank c = false :=
    fun c hc => Text.isBlank_of_isDigit (hall c hc)
  have hstart : Text.trimStart digits = digits := by
    obtain ⟨first, others, rfl⟩ := List.exists_cons_of_ne_nil hdigits
    exact (Text.trimStart_cons_eq_self_iff _ _).2 (hblank first List.mem_cons_self)
  have hend : Text.trimEnd space = [] := by rcases hspace with rfl | rfl <;> rfl
  rw [Text.trim, Text.trimStart_append hdigits hstart, Text.trimEnd_append, if_pos hend,
    Text.trimEnd_of_not_blank hblank]

/-- Digits and one space at most behind them are written as the digits. -/
theorem spacedWords_digits {digits space : Text} (hdigits : digits ≠ [])
    (hall : ∀ c ∈ digits, c.isDigit = true) (hspace : space = [] ∨ space = [' ']) :
    spacedWords (digits ++ space) = ' ' :: digits := by
  rw [spacedWords_eq, trim_digits hdigits hall hspace, if_neg hdigits]

/-- A bracketed name is written as it is. -/
theorem spacedMarkup_bracketed_append {name : Text} (hname : Shape.IsName name) (rest : Text) :
    spacedMarkup false (bracketed name ++ rest) =
      ' ' :: (bracketed name ++ spacedMarkup false rest) := by
  rw [spacedMarkup, parseWith_false_bracketed_append hname, List.map_cons, Text.spaced_cons,
    Segment.toMarkup, Atom.toMarkup_ofName]
  rfl

/-- Points with digits are written as the digits and the icon for points. -/
theorem spacedMarkup_points_append {digits : Text}
    (hread : Shape.read? false (source ++ rest) = some (.points digits, rest))
    (hdigits : digits ≠ []) :
    spacedMarkup false (source ++ rest) =
      ' ' :: (digits ++ ' ' :: (bracketed Vocabulary.wave ++ spacedMarkup false rest)) := by
  rw [spacedMarkup, parseWith_append hread]
  simp [Fragment.segment?, Segment.toMarkup, Atom.toMarkup, hdigits, spacedMarkup]

/-- The plain start of a text is written as words before the rest, also where it is read as digits
together with the icon for points behind it. -/
theorem spacedMarkup_span (text : Text) :
    spacedMarkup false text =
      spacedWords (text.takeWhile Shape.isPlainChar) ++
        spacedMarkup false (text.dropWhile Shape.isPlainChar) := by
  cases hpoints : Shape.points? text with
  | some found =>
    obtain ⟨digits, rest⟩ := found
    have hread : Shape.read? false text = some (.points digits, rest) := by
      simp [Shape.read?, hpoints]
    obtain ⟨source, rfl, hspells⟩ := Shape.spells_of_points? hpoints
    cases hspells with
    | @points _ space hdigits hall hspace =>
      have hsplit : digits ++ (space ++ bracketed Vocabulary.wave) ++ rest =
          (digits ++ space) ++ '[' :: (Vocabulary.wave ++ ']' :: rest) := by simp [bracketed]
      have hplain := Shape.isPlainChar_of_mem_digits hall hspace
      obtain ⟨htake, hdrop⟩ := Shape.span_isPlainChar_append_open (digits ++ space)
        (Vocabulary.wave ++ ']' :: rest)
      rw [List.takeWhile_eq_self_iff.2 hplain] at htake
      rw [List.dropWhile_eq_nil_iff.2 hplain, List.nil_append] at hdrop
      rw [spacedMarkup_points_append hread hdigits, hsplit, htake, hdrop,
        spacedWords_digits hdigits hall hspace, ← bracketed_append,
        spacedMarkup_bracketed_append Shape.isName_wave]
      rfl
  | none =>
    cases text with
    | nil => rfl
    | cons c rest =>
      by_cases hplain : Shape.isPlainChar c = true
      · rw [spacedMarkup, parseWith_plain hplain hpoints, List.map_append, Text.spaced_append,
          ← spacedMarkup, List.takeWhile_cons_of_pos hplain, List.dropWhile_cons_of_pos hplain]
        rfl
      · rw [List.takeWhile_cons_of_neg hplain, List.dropWhile_cons_of_neg hplain]
        rfl

/-- A space before a text makes no difference to how it is written. -/
theorem spacedMarkup_space (text : Text) :
    spacedMarkup false (' ' :: text) = spacedMarkup false text := by
  have hspace : Shape.isPlainChar ' ' = true := by decide
  rw [spacedMarkup_span, List.takeWhile_cons_of_pos hspace, List.dropWhile_cons_of_pos hspace,
    spacedWords_cons_blank (by decide), ← spacedMarkup_span]

/-- Stray text at the end or before a space is written as its words. -/
theorem spacedMarkup_stray_append (h : IsStray source)
    (hrest : rest = [] ∨ ∃ tail, rest = ' ' :: tail) :
    spacedMarkup false (source ++ rest) = spacedWords source ++ spacedMarkup false rest := by
  have hbegins : ¬ Fragment.BeginsStray (Fragment.scan false rest) := by
    rcases hrest with rfl | ⟨tail, rfl⟩
    · simp [Fragment.BeginsStray]
    · refine Fragment.not_beginsStray_scan fun hnone => ?_
      exact absurd (Shape.read?_cons_eq_none_iff.1 hnone).1 (by decide)
  rw [spacedMarkup, parseWith, Fragment.scan_stray_append h hrest,
    Fragment.filterMap_segment?_foldr_pushStray source hbegins, List.map_append, Text.spaced_append]
  rfl

end ReefCards
