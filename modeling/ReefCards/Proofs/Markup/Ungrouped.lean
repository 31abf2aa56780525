import ReefCards.Proofs.Markup.Row

/-!
# Rows are layout

Whether rows count makes no difference but for the grouping: the two scans of a text begin a shape
at the same places, and what stands before a shape is the same stray text in both. Main statement:
`parseWith_false_eq_ungrouped`, the segments without rows are those with rows where each row is
replaced by its icons with plus signs between them.
-/

namespace ReefCards

variable {rows : Bool} {rest source : Text}

/-- The segments that stand for a segment where icons are not grouped: the icons of a row one by one
with a plus sign as text between any two, and any other segment by itself. -/
def Segment.ungrouped : Segment → List Segment
  | .atom single => [.atom single]
  | .row icons => (icons.map Segment.atom).intersperse (.atom (.text ['+']))

/-- A row ungrouped is its first icon, and each further icon after a plus sign. -/
theorem Segment.ungrouped_row_cons (icon : Atom) (icons : List Atom) :
    ungrouped (.row (icon :: icons)) =
      .atom icon :: icons.flatMap fun icon => [.atom (.text ['+']), .atom icon] := by
  induction icons generalizing icon with
  | nil => rfl
  | cons next others ih =>
    rw [ungrouped, List.map_cons, List.map_cons, List.intersperse_cons_cons, ← List.map_cons,
      ← ungrouped, ih, List.flatMap_cons]
    rfl

/-- Words stay as they are when rows are ungrouped. -/
theorem Segment.flatMap_ungrouped_ofWords? (source : Text) :
    (ofWords? source).toList.flatMap ungrouped = (ofWords? source).toList := by
  unfold ofWords?
  dsimp only
  split <;> rfl

/-- A shape that is no row is read where rows do not count, too. -/
theorem Shape.read?_false_of_ne_row {shape : Shape} (hshape : ∀ names, shape ≠ .row names)
    (h : read? true source = some (shape, rest)) : read? false source = some (shape, rest) := by
  simp only [read?, Option.orElse_eq_orElse, Option.orElse_eq_or, Option.or_eq_some_iff,
    Option.map_eq_some_iff] at h ⊢
  rcases h with ⟨found, -, heq⟩ | ⟨-, h⟩
  · exact absurd (Prod.mk.inj heq).1.symm (hshape found.1)
  · exact .inr ⟨rfl, h⟩

/-- A shape begins where rows count exactly if one does where they do not. -/
theorem Shape.read?_true_eq_none_iff (text : Text) :
    read? true text = none ↔ read? false text = none := by
  cases text with
  | nil => exact ⟨fun _ => rfl, fun _ => rfl⟩
  | cons c rest => rw [read?_cons_eq_none_iff, read?_cons_eq_none_iff]

/-- Where rows do not count, a shape says what it stands for where they do, with rows ungrouped. -/
theorem parseWith_false_append {shape : Shape}
    (h : Shape.read? true (source ++ rest) = some (shape, rest)) (hspells : shape.Spells source) :
    parseWith false (source ++ rest) =
      (Fragment.segment? ⟨some shape, source⟩).toList.flatMap Segment.ungrouped ++
        parseWith false rest := by
  have hsingle (hshape : ∀ names, shape ≠ .row names) :
      parseWith false (source ++ rest) =
        (Fragment.segment? ⟨some shape, source⟩).toList ++ parseWith false rest :=
    parseWith_append (Shape.read?_false_of_ne_row hshape h)
  cases hspells with
  | @row name joined names hname hnames hjoined =>
    rw [parseWith_false_row (.row hname hnames hjoined) rest]
    simp only [Fragment.segment?, Option.toList_some, List.flatMap_singleton, List.map_cons,
      Segment.ungrouped_row_cons, List.flatMap_map, List.cons_append]
  | points => exact hsingle (by simp)
  | plain =>
    rw [hsingle (by simp)]
    exact congrArg (· ++ _) (Segment.flatMap_ungrouped_ofWords? _).symm
  | icon => exact hsingle (by simp)

namespace Fragment

/-- Whether fragments begin with a stray one. -/
def BeginsStray (fragments : List Fragment) : Prop :=
  ∃ source rest, fragments = ⟨none, source⟩ :: rest

/-- Fragments do not begin with a stray one where a shape begins. -/
theorem not_beginsStray_scan {text : Text} (h : Shape.read? rows text ≠ none) :
    ¬ BeginsStray (scan rows text) := by
  obtain ⟨⟨shape, rest⟩, hread⟩ := Option.ne_none_iff_exists'.1 h
  obtain ⟨source, rfl, -⟩ := Shape.spells_of_read? hread
  rw [scan_append hread]
  rintro ⟨stray, others, heq⟩
  exact absurd (congrArg Fragment.shape (List.cons.inj heq).1) (by simp)

/-- Stray characters before other fragments than stray ones make a fragment of their own. -/
theorem foldr_pushStray {run : Text} {fragments : List Fragment} (hrun : run ≠ [])
    (h : ¬ BeginsStray fragments) : run.foldr pushStray fragments = ⟨none, run⟩ :: fragments := by
  induction run with
  | nil => exact absurd rfl hrun
  | cons c run ih =>
    cases run with
    | nil =>
      rcases fragments with _ | ⟨⟨_ | shape, source⟩, rest⟩
      · rfl
      · exact absurd ⟨source, rest, rfl⟩ h
      · rfl
    | cons d more => rw [List.foldr_cons, ih (by simp), pushStray]

/-- Stray characters before other fragments than stray ones say what they say as words. -/
theorem filterMap_segment?_foldr_pushStray (run : Text) {fragments : List Fragment}
    (h : ¬ BeginsStray fragments) :
    (run.foldr pushStray fragments).filterMap segment? =
      (Segment.ofWords? run).toList ++ fragments.filterMap segment? := by
  cases run with
  | nil => rfl
  | cons c others =>
    have hwords : segment? ⟨none, c :: others⟩ = Segment.ofWords? (c :: others) := rfl
    rw [foldr_pushStray (by simp) h, List.filterMap_cons, hwords]
    cases Segment.ofWords? (c :: others) <;> rfl

/-- Behind any stray characters, a text says the same with rows and without, once its rows are
ungrouped. -/
theorem flatMap_ungrouped_foldr_pushStray (text run : Text) :
    ((run.foldr pushStray (scan true text)).filterMap segment?).flatMap Segment.ungrouped =
      (run.foldr pushStray (scan false text)).filterMap segment? := by
  -- The stray characters before the text are taken along because a run of them ends only where the
  -- next shape begins, which is at the same place in both readings.
  induction text using scan_induction true generalizing run with
  | nil =>
    have hnil : ¬ BeginsStray [] := by simp [BeginsStray]
    rw [scan_nil, scan_nil, filterMap_segment?_foldr_pushStray run hnil, List.filterMap_nil,
      List.append_nil, Segment.flatMap_ungrouped_ofWords?]
  | shape shape source rest hread hspells ih =>
    have hbegins : Shape.read? true (source ++ rest) ≠ none := by simp [hread]
    have hrest : (parseWith true rest).flatMap Segment.ungrouped = parseWith false rest := ih []
    rw [filterMap_segment?_foldr_pushStray run (not_beginsStray_scan hbegins),
      filterMap_segment?_foldr_pushStray run
        (not_beginsStray_scan (mt (Shape.read?_true_eq_none_iff _).2 hbegins)),
      ← parseWith, ← parseWith, parseWith_append hread, parseWith_false_append hread hspells,
      List.flatMap_append, List.flatMap_append, hrest, Segment.flatMap_ungrouped_ofWords?]
  | stray c rest hread ih =>
    have hgrown := ih (run ++ [c])
    rw [List.foldr_append, List.foldr_append] at hgrown
    rw [scan_cons hread, scan_cons ((Shape.read?_true_eq_none_iff _).1 hread)]
    exact hgrown

end Fragment

/-- Rows are layout only: read without rows, a text says what it says with rows once each row is
replaced by its icons with a plus sign as text between any two. -/
theorem parseWith_false_eq_ungrouped (text : Text) :
    parseWith false text = (parseWith true text).flatMap Segment.ungrouped :=
  (Fragment.flatMap_ungrouped_foldr_pushStray text []).symm

end ReefCards
