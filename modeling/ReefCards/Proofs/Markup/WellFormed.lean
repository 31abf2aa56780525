import ReefCards.Proofs.Markup.Stray
import ReefCards.Proofs.Markup.Ungrouped
import ReefCards.Proofs.Text.Trim

/-!
# Well-formed segments

What the segments of any markup text look like, however its brackets, blanks and digits are placed:
words have no blanks at their ends, names and labels hold only the characters allowed in them, and a
row has two icons or more. The rows are exactly what their part of the text says when it is read
without rows and the plus signs are dropped. Main statement: `wellFormed_parse`.
-/

namespace ReefCards

variable {rows : Bool} {source text : Text}

/-- Whether an atom is an icon by itself: an icon, or the icon for points without a label. -/
def Atom.IsIcon : Atom → Prop
  | .text _ => False
  | .icon _ => True
  | .points label => label = []

/-- What an atom may hold. -/
inductive Atom.WellFormed : Atom → Prop where
  | text {words : Text} (hne : words ≠ []) (htight : words.IsTight) : WellFormed (.text words)
  | icon {name : Text} (hname : Shape.IsName name) (hwave : name ≠ Vocabulary.wave) :
      WellFormed (.icon name)
  | points {label : Text} (hdigits : ∀ c ∈ label, c.isDigit = true) : WellFormed (.points label)

/-- What a segment may hold. -/
inductive Segment.WellFormed : Segment → Prop where
  | atom {single : Atom} (h : single.WellFormed) : WellFormed (.atom single)
  | row {icons : List Atom} (hsize : 2 ≤ icons.length)
      (hicons : ∀ icon ∈ icons, icon.IsIcon ∧ icon.WellFormed) : WellFormed (.row icons)

/-- The atom of a name is an icon by itself, and well formed. -/
theorem Atom.wellFormed_ofName {name : Text} (hname : Shape.IsName name) :
    (ofName name).IsIcon ∧ (ofName name).WellFormed := by
  unfold ofName
  split
  · exact ⟨rfl, .points (by simp)⟩
  · next hwave => exact ⟨trivial, .icon hname hwave⟩

/-- The segment of words is their text without the blanks at its ends. -/
theorem Segment.ofWords?_eq_some_iff {segment : Segment} :
    ofWords? source = some segment ↔
      Text.trim source ≠ [] ∧ segment = .atom (.text (Text.trim source)) := by
  unfold ofWords?
  dsimp only
  split
  · next hempty => simp [List.isEmpty_iff.1 hempty]
  · next hne =>
    rw [List.isEmpty_iff] at hne
    exact ⟨fun h => ⟨hne, (Option.some.inj h).symm⟩, fun h => congrArg some h.2.symm⟩

/-- Only blanks say nothing as words. -/
theorem Segment.ofWords?_eq_none_iff :
    ofWords? source = none ↔ ∀ c ∈ source, Text.isBlank c = true := by
  rw [← Text.trim_eq_nil_iff, Option.eq_none_iff_forall_ne_some]
  simp [ofWords?_eq_some_iff]

/-- The segment of words is well formed. -/
theorem Segment.wellFormed_of_ofWords? {segment : Segment} (h : ofWords? source = some segment) :
    segment.WellFormed := by
  obtain ⟨hne, rfl⟩ := ofWords?_eq_some_iff.1 h
  exact .atom (.text hne (Text.isTight_trim source))

/-- The segment of a shape is well formed. -/
theorem Shape.Spells.wellFormed {shape : Shape} (h : shape.Spells source) {segment : Segment}
    (hsegment : Fragment.segment? ⟨some shape, source⟩ = some segment) : segment.WellFormed := by
  cases h with
  | @row name source names hname hnames hjoined =>
    obtain rfl := Option.some.inj hsegment
    refine .row ?_ ?_
    · have : 0 < names.length := List.length_pos_of_ne_nil hnames
      simp only [List.length_map, List.length_cons]
      omega
    · intro icon hicon
      obtain ⟨other, hother, rfl⟩ := List.mem_map.1 hicon
      rcases List.mem_cons.1 hother with rfl | hother
      · exact Atom.wellFormed_ofName hname
      · exact Atom.wellFormed_ofName (hjoined.isName other hother)
  | points hdigits hall =>
    obtain rfl := Option.some.inj hsegment
    exact .atom (.points hall)
  | plain => exact Segment.wellFormed_of_ofWords? hsegment
  | icon hname =>
    obtain rfl := Option.some.inj hsegment
    exact .atom (Atom.wellFormed_ofName hname).2

/-- Every segment of a text is well formed. -/
theorem wellFormed_of_mem_parseWith {segment : Segment} (h : segment ∈ parseWith rows text) :
    segment.WellFormed := by
  obtain ⟨⟨_ | shape, source⟩, hmem, hsegment⟩ := List.mem_filterMap.1 h
  · exact Segment.wellFormed_of_ofWords? hsegment
  · exact (Fragment.spells_of_mem_scan hmem rfl).wellFormed hsegment

/-- A segment ungrouped is no row. -/
theorem Segment.row_not_mem_ungrouped (segment : Segment) (icons : List Atom) :
    .row icons ∉ segment.ungrouped := by
  rcases segment with single | (_ | ⟨icon, others⟩)
  · simp [ungrouped]
  · simp [ungrouped]
  · simp [ungrouped_row_cons]

/-- Where rows do not count, no row is read. -/
theorem row_not_mem_parseWith_false (text : Text) (icons : List Atom) :
    .row icons ∉ parseWith false text := by
  have hungrouped : (parseWith true text).flatMap Segment.ungrouped = parseWith false text :=
    Fragment.flatMap_ungrouped_foldr_pushStray text []
  rw [← hungrouped, List.mem_flatMap]
  rintro ⟨segment, -, hmem⟩
  exact segment.row_not_mem_ungrouped icons hmem

namespace Fragment

/-- Only a row is said by a fragment as a row, with the icons of its names. -/
theorem exists_names_of_segment? {fragment : Fragment} {icons : List Atom}
    (h : fragment.segment? = some (.row icons)) :
    ∃ names, fragment.shape = some (.row names) ∧ icons = names.map Atom.ofName := by
  have hwords (source : Text) : Segment.ofWords? source ≠ some (.row icons) := by
    simp [Segment.ofWords?_eq_some_iff]
  obtain ⟨_ | shape, source⟩ := fragment
  · exact absurd h (hwords source)
  · cases shape with
    | row names => exact ⟨names, rfl, (Segment.row.inj (Option.some.inj h)).symm⟩
    | plain => exact absurd h (hwords source)
    | points | icon => simp [segment?] at h

/-- A fragment is a part of the text. -/
theorem source_infix_of_mem_scan {fragment : Fragment} (h : fragment ∈ scan rows text) :
    fragment.source <:+: text := by
  rw [← flatMap_source_scan rows text, List.flatMap_def]
  exact List.infix_of_mem_flatten (List.mem_map_of_mem h)

end Fragment

/-- A row is what its own fragment of the text says without rows, once the plus signs are
dropped. -/
theorem exists_fragment_of_row_mem {icons : List Atom} (h : .row icons ∈ parseWith rows text) :
    ∃ fragment ∈ Fragment.scan rows text, fragment.source <:+: text ∧
      fragment.segment? = some (.row icons) ∧
      (parseWith false fragment.source).filter (fun segment => segment != .atom (.text ['+'])) =
        icons.map Segment.atom := by
  obtain ⟨fragment, hmem, hsegment⟩ := List.mem_filterMap.1 h
  obtain ⟨names, hshape, rfl⟩ := Fragment.exists_names_of_segment? hsegment
  refine ⟨fragment, hmem, Fragment.source_infix_of_mem_scan hmem, hsegment, ?_⟩
  rw [filter_parseWith_of_mem_scan hmem hshape, List.map_map]
  rfl

/-- All that markup says is well formed. Each of its rows is said by a fragment of the text, and
holds what the source of that fragment says without rows, less the plus signs; where rows do not
count there are none. -/
theorem wellFormed_parse (text : Text) :
    (∀ segment ∈ parse text, segment.WellFormed) ∧
      (∀ icons, .row icons ∈ parse text → ∃ fragment ∈ Fragment.scan true text,
        fragment.source <:+: text ∧ fragment.segment? = some (.row icons) ∧
          (parseWith false fragment.source).filter
            (fun segment => segment != .atom (.text ['+'])) = icons.map Segment.atom) ∧
      ∀ icons, .row icons ∉ parseWith false text :=
  ⟨fun _ => wellFormed_of_mem_parseWith, fun _ => exists_fragment_of_row_mem,
    row_not_mem_parseWith_false text⟩

end ReefCards
