import ReefCards.Text.Blank

/-!
# Texts without their blanks

What is left of a text when its blank characters are removed. Trimming a text, taking its words and
writing parts with blanks between them make no difference to that. Main statements:
`withoutBlanks_trim`, `flatten_words` and `withoutBlanks_join`.
-/

namespace ReefCards.Text

/-- The characters of a text that are not blank. -/
def withoutBlanks (text : Text) : Text := text.filter fun c => !isBlank c

/-- Blanks are removed from each of two texts. -/
@[simp]
theorem withoutBlanks_append (first second : Text) :
    withoutBlanks (first ++ second) = withoutBlanks first ++ withoutBlanks second :=
  List.filter_append first second

/-- Blanks are removed from each of the texts that come one after the other. -/
theorem withoutBlanks_flatMap {α : Type} (items : List α) (f : α → Text) :
    withoutBlanks (items.flatMap f) = items.flatMap fun item => withoutBlanks (f item) :=
  List.filter_flatMap

/-- A character that is not blank stays. -/
theorem withoutBlanks_cons {c : Char} (hc : isBlank c = false) (rest : Text) :
    withoutBlanks (c :: rest) = c :: withoutBlanks rest := by
  simp [withoutBlanks, hc]

/-- Nothing is left of a text exactly when all of it is blank. -/
theorem withoutBlanks_eq_nil_iff (text : Text) :
    withoutBlanks text = [] ↔ ∀ c ∈ text, isBlank c = true := by
  simp [withoutBlanks]

/-- The blanks at the start of a text are removed with the others. -/
theorem withoutBlanks_dropWhile (text : Text) :
    withoutBlanks (text.dropWhile isBlank) = withoutBlanks text := by
  have hblank : ∀ c ∈ text.takeWhile isBlank, isBlank c = true :=
    fun c hc => List.all_eq_true.1 List.all_takeWhile c hc
  calc withoutBlanks (text.dropWhile isBlank)
      = withoutBlanks (text.takeWhile isBlank) ++ withoutBlanks (text.dropWhile isBlank) := by
        rw [(withoutBlanks_eq_nil_iff _).2 hblank, List.nil_append]
    _ = withoutBlanks text := by
        rw [← withoutBlanks_append, List.takeWhile_append_dropWhile]

/-- The blanks at the ends of a text are removed with the others. -/
@[simp]
theorem withoutBlanks_trim (text : Text) : withoutBlanks (trim text) = withoutBlanks text := by
  have hreverse (text : Text) : withoutBlanks text.reverse = (withoutBlanks text).reverse :=
    List.filter_reverse
  rw [trim, trimEnd, trimStart, hreverse, withoutBlanks_dropWhile, hreverse, List.reverse_reverse,
    withoutBlanks_dropWhile]

/-- The words of a text hold all its characters that are not blank, in their order. -/
theorem flatten_words (text : Text) : (words text).flatten = withoutBlanks text := by
  have hsplit : (text.splitOnP isBlank).flatten = withoutBlanks text := by
    induction text with
    | nil => simp [List.splitOnP_nil, withoutBlanks]
    | cons c rest ih =>
      rw [List.splitOnP_cons_eq_if_modifyHead]
      by_cases hc : isBlank c = true
      · rw [if_pos hc, List.flatten_cons, ih]
        simp [withoutBlanks, hc]
      · obtain ⟨first, others, hparts⟩ :=
          List.exists_cons_of_ne_nil (List.splitOnP_ne_nil isBlank rest)
        rw [if_neg hc, hparts, List.modifyHead_cons, List.flatten_cons,
          withoutBlanks_cons (by simpa using hc), ← ih, hparts, List.flatten_cons,
          List.cons_append]
  rw [words, ← hsplit]
  exact List.flatten_filter_not_isEmpty

/-- A word is not empty. -/
theorem ne_nil_of_mem_words {text word : Text} (h : word ∈ words text) : word ≠ [] := by
  simpa using (List.mem_filter.1 h).2

/-- Two texts with a blank between them have the words of the first and then those of the second. -/
theorem words_append_blank {c : Char} (hc : isBlank c = true) (left right : Text) :
    words (left ++ c :: right) = words left ++ words right := by
  rw [words, List.splitOnP_append_cons left right hc, List.filter_append, ← words, ← words]

/-- A text has no words exactly when all of it is blank. -/
theorem words_eq_nil_iff (text : Text) : words text = [] ↔ ∀ c ∈ text, isBlank c = true := by
  rw [← withoutBlanks_eq_nil_iff, ← flatten_words, List.flatten_eq_nil_iff]
  constructor
  · intro h
    simp [h]
  · intro h
    rw [List.eq_nil_iff_forall_not_mem]
    exact fun word hword => ne_nil_of_mem_words hword (h word hword)

/-- The first of several parts stands before a separator and the others joined. -/
theorem join_cons_cons (separator first second : Text) (rest : List Text) :
    join separator (first :: second :: rest) =
      first ++ (separator ++ join separator (second :: rest)) := by
  rw [join, List.intercalate_cons_cons, ← join, List.append_assoc]

/-- The first of several parts is followed by the others, each after a separator. -/
theorem join_cons (separator first : Text) (rest : List Text) :
    join separator (first :: rest) = first ++ rest.flatMap (separator ++ ·) := by
  induction rest generalizing first with
  | nil => simp [join]
  | cons second rest ih => rw [join_cons_cons, ih, List.flatMap_cons, List.append_assoc]

/-- Blanks are removed from the parts and from the separator between them. -/
theorem withoutBlanks_join (separator : Text) (parts : List Text) :
    withoutBlanks (join separator parts) =
      join (withoutBlanks separator) (parts.map withoutBlanks) := by
  cases parts with
  | nil => rfl
  | cons first rest =>
    rw [List.map_cons, join_cons, join_cons, withoutBlanks_append, withoutBlanks_flatMap,
      List.flatMap_map]
    simp only [withoutBlanks_append]

/-- Parts with nothing between them follow one another. -/
theorem join_nil (parts : List Text) : join [] parts = parts.flatten := by
  cases parts with
  | nil => rfl
  | cons first rest => simp [join_cons, List.flatMap_id']

end ReefCards.Text
