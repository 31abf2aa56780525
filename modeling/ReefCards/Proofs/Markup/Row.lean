import ReefCards.Markup.Parse
import ReefCards.Proofs.Markup.Shape
import ReefCards.Proofs.Text.Numeral

/-!
# Rows read without rows

What a row is read as when rows do not count as shapes: its icons, with a plus sign as text between
any two. Blanks around the plus signs make no difference, whichever blanks they are, because no
digits come after them. Main statements: `parseWith_false_row`, and `filter_parseWith_of_mem_scan`,
by which the icons of a row are what is left of its source once the plus signs are dropped.
-/

namespace ReefCards

open Text (isBlank)

variable {rows : Bool} {c : Char} {rest source name : Text}

namespace Shape

/-- An opening bracket is no plain character. -/
theorem isPlainChar_open : isPlainChar '[' = false := by decide

/-- Plain words end before an opening bracket at the latest. -/
theorem span_isPlainChar_append_open (first tail : Text) :
    (first ++ '[' :: tail).takeWhile isPlainChar = first.takeWhile isPlainChar ∧
      (first ++ '[' :: tail).dropWhile isPlainChar =
        first.dropWhile isPlainChar ++ '[' :: tail := by
  induction first with
  | nil => simp [isPlainChar_open]
  | cons c rest ih => by_cases hc : isPlainChar c = true <;> simp [hc, ih]

/-- Among the blanks only the space is plain. -/
theorem isPlainChar_of_blank (hblank : isBlank c = true) (hc : c ≠ ' ') :
    isPlainChar c = false := by
  have hall : Text.blanks.all (fun d => d == ' ' || !isPlainChar d) = true := by decide
  have := List.all_eq_true.1 hall c (by simpa [isBlank] using hblank)
  simpa [hc] using this

/-- No blank is an opening bracket. -/
theorem ne_open_of_blank (hblank : isBlank c = true) : c ≠ '[' := by
  rintro rfl
  exact absurd hblank (by decide)

/-- No icon begins with another character than an opening bracket. -/
theorem icon?_cons_of_ne (hc : c ≠ '[') (rest : Text) : icon? (c :: rest) = none := by
  unfold icon?
  split
  · next heq => exact absurd (List.cons.inj heq).1 hc
  · rfl

/-- No row begins with another character than an opening bracket. -/
theorem row?_cons_of_ne (hc : c ≠ '[') (rest : Text) : row? (c :: rest) = none := by
  rw [row?, icon?_cons_of_ne hc]

/-- No points begin with another character than a digit. -/
theorem points?_cons_of_not_digit (hc : c.isDigit = false) (rest : Text) :
    points? (c :: rest) = none := by
  simp [points?, hc]

/-- Digits begin points exactly if the icon for points comes next, perhaps after a space. -/
theorem points?_digits_append {digits : Text} (hdigits : digits ≠ [])
    (hall : ∀ c ∈ digits, c.isDigit = true) (hrest : ∀ c ∈ rest.head?, c.isDigit = false) :
    points? (digits ++ rest) =
      (Text.after? (bracketed Vocabulary.wave) (skipSpace rest)).map fun after =>
        (digits, after) := by
  simp only [points?, Text.takeWhile_isDigit_append hall hrest,
    Text.dropWhile_isDigit_append hall hrest]
  exact if_neg (mt List.isEmpty_iff.1 hdigits)

/-- A digit is a plain character. -/
theorem isPlainChar_of_isDigit (hdigit : c.isDigit = true) : isPlainChar c = true := by
  simp [isPlainChar, Char.isAlphanum, hdigit]

/-- A plain character begins plain words where it begins no points. -/
theorem read?_plain (hplain : isPlainChar c = true) (hpoints : points? (c :: rest) = none) :
    read? rows (c :: rest) = some (.plain, rest.dropWhile isPlainChar) := by
  have hc : c ≠ '[' := by
    rintro rfl
    exact absurd hplain (by decide)
  cases rows <;> simp [read?, row?_cons_of_ne hc, hpoints, plain?, hplain]

/-- No shape begins with a character that is neither plain nor the start of an icon. -/
theorem read?_cons_eq_none_iff :
    read? rows (c :: rest) = none ↔ isPlainChar c = false ∧ icon? (c :: rest) = none := by
  have hplain : plain? (c :: rest) = none ↔ isPlainChar c = false := by simp [plain?]
  simp only [read?, Option.orElse_eq_orElse, Option.orElse_eq_or, Option.or_eq_none_iff,
    Option.map_eq_none_iff, hplain]
  constructor
  · rintro ⟨-, -, hchar, hicon⟩
    exact ⟨hchar, hicon⟩
  · -- A row begins with an icon and points with a plain character.
    rintro ⟨hchar, hicon⟩
    have hrow : row? (c :: rest) = none := by rw [row?, hicon]
    have hdigit : c.isDigit = false := by
      by_contra hdigit
      simp [isPlainChar_of_isDigit (by simpa using hdigit)] at hchar
    refine ⟨?_, points?_cons_of_not_digit hdigit rest, hchar, hicon⟩
    rw [hrow, ite_self]

/-- A blank that is no space begins no shape. -/
theorem read?_blank (hblank : isBlank c = true) (hc : c ≠ ' ') (rest : Text) :
    read? rows (c :: rest) = none :=
  read?_cons_eq_none_iff.2
    ⟨isPlainChar_of_blank hblank hc, icon?_cons_of_ne (ne_open_of_blank hblank) rest⟩

/-- Where rows do not count, a bracketed name is an icon. -/
theorem read?_false_bracketed_append (hname : IsName name) (rest : Text) :
    read? false (bracketed name ++ rest) = some (.icon name, rest) := by
  have hpoints : points? (bracketed name ++ rest) = none := points?_cons_of_not_digit rfl _
  have hplain : plain? (bracketed name ++ rest) = none := by
    simp [bracketed, plain?, isPlainChar_open]
  simp [read?, hpoints, hplain, icon?_bracketed_append hname]

end Shape

/-- A blank before words is trimmed. -/
theorem Segment.ofWords?_cons_blank (hblank : isBlank c = true) (source : Text) :
    ofWords? (c :: source) = ofWords? source := by
  simp [ofWords?, Text.trim, Text.trimStart, hblank]

/-- The segments of a text that begins with a shape. -/
theorem parseWith_append {shape : Shape}
    (h : Shape.read? rows (source ++ rest) = some (shape, rest)) :
    parseWith rows (source ++ rest) =
      (Fragment.segment? ⟨some shape, source⟩).toList ++ parseWith rows rest := by
  rw [parseWith, Fragment.scan_append h, List.filterMap_cons]
  cases Fragment.segment? ⟨some shape, source⟩ <;> rfl

/-- The segments of a text that begins with plain words. -/
theorem parseWith_plain (hplain : Shape.isPlainChar c = true)
    (hpoints : Shape.points? (c :: rest) = none) :
    parseWith rows (c :: rest) =
      (Segment.ofWords? (c :: rest.takeWhile Shape.isPlainChar)).toList ++
        parseWith rows (rest.dropWhile Shape.isPlainChar) := by
  have hread : Shape.read? rows (c :: rest) = _ := Shape.read?_plain hplain hpoints
  have hsplit : c :: rest = (c :: rest.takeWhile Shape.isPlainChar) ++
      rest.dropWhile Shape.isPlainChar := by
    rw [List.cons_append, List.takeWhile_append_dropWhile]
  rw [hsplit] at hread ⊢
  exact parseWith_append hread

/-- A stray blank before fragments adds no segment to theirs. -/
theorem filterMap_segment?_pushStray (hblank : isBlank c = true) (fragments : List Fragment) :
    (Fragment.pushStray c fragments).filterMap Fragment.segment? =
      fragments.filterMap Fragment.segment? := by
  have hstray (source : Text) : Fragment.segment? ⟨none, c :: source⟩ = Segment.ofWords? source :=
    Segment.ofWords?_cons_blank hblank source
  rcases fragments with _ | ⟨⟨_ | shape, source⟩, rest⟩
  · exact List.filterMap_cons_none (hstray [])
  · rw [Fragment.pushStray, List.filterMap_cons, hstray, List.filterMap_cons]
    rfl
  · exact List.filterMap_cons_none (hstray [])

/-- A blank before anything but digits goes unnoticed. -/
theorem parseWith_cons_blank (hblank : isBlank c = true)
    (hdigit : ∀ d tail, rest = d :: tail → d.isDigit = false) :
    parseWith rows (c :: rest) = parseWith rows rest := by
  -- A space joins the plain words after it, and any other blank is stray.
  by_cases hc : c = ' '
  · subst hc
    rw [parseWith_plain (by decide) (Shape.points?_cons_of_not_digit (by decide) rest),
      Segment.ofWords?_cons_blank hblank]
    cases rest with
    | nil => rfl
    | cons d tail =>
      by_cases hplain : Shape.isPlainChar d = true
      · have hpoints := Shape.points?_cons_of_not_digit (hdigit d tail rfl) tail
        rw [parseWith_plain hplain hpoints, List.takeWhile_cons_of_pos hplain,
          List.dropWhile_cons_of_pos hplain]
      · rw [List.takeWhile_cons_of_neg hplain, List.dropWhile_cons_of_neg hplain]
        rfl
  · rw [parseWith, Fragment.scan_cons (Shape.read?_blank hblank hc rest),
      filterMap_segment?_pushStray hblank, ← parseWith]

/-- Blanks before anything but digits go unnoticed. -/
theorem parseWith_blanks_append {blanks : Text} (hblanks : ∀ d ∈ blanks, isBlank d = true)
    (hdigit : ∀ d tail, rest = d :: tail → d.isDigit = false) :
    parseWith rows (blanks ++ rest) = parseWith rows rest := by
  induction blanks with
  | nil => rfl
  | cons c others ih =>
    have hothers : ∀ d ∈ others, isBlank d = true :=
      fun d hd => hblanks d (List.mem_cons_of_mem _ hd)
    rw [List.cons_append, parseWith_cons_blank (hblanks c List.mem_cons_self), ih hothers]
    intro d tail heq
    cases others with
    | nil => exact hdigit d tail heq
    | cons e more =>
      obtain rfl := (List.cons.inj heq).1
      exact Text.isDigit_of_blank (hothers e List.mem_cons_self)

/-- A plus sign with blanks after it says no more than the sign. -/
theorem Segment.ofWords?_plus (hblanks : ∀ d ∈ source, isBlank d = true) :
    ofWords? ('+' :: source) = some (.atom (.text ['+'])) := by
  have htrim : Text.trim ('+' :: source) = ['+'] := by
    have hreverse : ∀ d ∈ source.reverse, isBlank d = true :=
      fun d hd => hblanks d (List.mem_reverse.1 hd)
    have hplus : isBlank '+' = false := by decide
    rw [Text.trim, Text.trimStart, List.dropWhile_cons_of_neg (by simp [hplus]), Text.trimEnd,
      List.reverse_cons, List.dropWhile_append_of_pos hreverse]
    simp [hplus]
  simp [ofWords?, htrim]

/-- A plus sign and blanks before an opening bracket make a text of their own. -/
theorem parseWith_plus_blanks {blanks : Text} (hblanks : ∀ d ∈ blanks, isBlank d = true)
    (tail : Text) :
    parseWith rows ('+' :: (blanks ++ '[' :: tail)) =
      .atom (.text ['+']) :: parseWith rows ('[' :: tail) := by
  have hopen : ∀ d rest, '[' :: tail = d :: rest → d.isDigit = false := by
    intro d rest heq
    obtain rfl := (List.cons.inj heq).1
    decide
  -- The plain words after the sign are the spaces that come first among the blanks.
  obtain ⟨hspaces, hothers⟩ := Shape.span_isPlainChar_append_open blanks tail
  rw [parseWith_plain (by decide) (Shape.points?_cons_of_not_digit (by decide) _), hspaces, hothers,
    Segment.ofWords?_plus fun d hd => hblanks d (List.takeWhile_sublist _ |>.subset hd),
    parseWith_blanks_append (fun d hd => hblanks d (List.dropWhile_sublist _ |>.subset hd)) hopen]
  rfl

/-- Where rows do not count, a bracketed name is read as its icon. -/
theorem parseWith_false_bracketed_append (hname : Shape.IsName name) (rest : Text) :
    parseWith false (bracketed name ++ rest) =
      .atom (.ofName name) :: parseWith false rest := by
  rw [parseWith_append (Shape.read?_false_bracketed_append hname rest)]
  rfl

/-- Where rows do not count, joined names are read as their icons, each after a plus sign. -/
theorem parseWith_false_joined {names : List Text} (h : Shape.Joined names source) (rest : Text) :
    parseWith false (source ++ rest) =
      (names.flatMap fun name => [.atom (.text ['+']), .atom (.ofName name)]) ++
        parseWith false rest := by
  induction h with
  | nil => rfl
  | @cons before behind name source names hbefore hbehind hname hrest ih =>
    have hplus : ∀ d tail, '+' :: (behind ++ (bracketed name ++ (source ++ rest))) = d :: tail →
        d.isDigit = false := by
      intro d tail heq
      obtain rfl := (List.cons.inj heq).1
      decide
    simp only [List.append_assoc, List.cons_append]
    rw [parseWith_blanks_append hbefore hplus, bracketed_append,
      parseWith_plus_blanks hbehind, ← bracketed_append, parseWith_false_bracketed_append hname, ih,
      List.flatMap_cons]
    rfl

/-- Where rows do not count, a row is read as its icons with plus signs between them, and what comes
after it as if nothing came before. -/
theorem parseWith_false_row {names : List Text} (h : Shape.Spells (.row (name :: names)) source)
    (rest : Text) :
    parseWith false (source ++ rest) =
      .atom (.ofName name) ::
        ((names.flatMap fun name => [.atom (.text ['+']), .atom (.ofName name)]) ++
          parseWith false rest) := by
  cases h with
  | row hname hnames hjoined =>
    rw [List.append_assoc, parseWith_false_bracketed_append hname,
      parseWith_false_joined hjoined]

/-- The icons of a row are what its source is read as without rows, less the plus signs. -/
theorem filter_parseWith_false_row {names : List Text} (h : Shape.Spells (.row names) source) :
    (parseWith false source).filter (fun segment => segment != .atom (.text ['+'])) =
      names.map fun name => .atom (.ofName name) := by
  have hicon (name : Text) : (Segment.atom (.ofName name) != .atom (.text ['+'])) = true := by
    unfold Atom.ofName
    split <;> simp
  obtain ⟨name, others, rfl⟩ : ∃ name others, names = name :: others := by
    cases h
    exact ⟨_, _, rfl⟩
  have hread := parseWith_false_row h []
  have hnil : parseWith false [] = [] := by simp [parseWith]
  rw [List.append_nil, hnil, List.append_nil] at hread
  rw [hread, List.filter_cons, if_pos (hicon name), List.map_cons, List.filter_flatMap,
    List.map_eq_flatMap]
  simp [hicon]

/-- Each row that a scan finds has the icons that its source is read as without rows. -/
theorem filter_parseWith_of_mem_scan {text : Text} {fragment : Fragment} {names : List Text}
    (hmem : fragment ∈ Fragment.scan rows text) (hrow : fragment.shape = some (.row names)) :
    (parseWith false fragment.source).filter (fun segment => segment != .atom (.text ['+'])) =
      names.map fun name => .atom (.ofName name) :=
  filter_parseWith_false_row (Fragment.spells_of_mem_scan hmem hrow)

end ReefCards
