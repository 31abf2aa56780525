import ReefCards.Markup.Parse
import ReefCards.Proofs.Markup.Shape
import ReefCards.Proofs.Text.Blank

/-!
# Markup written back

The segments of a markup text, written as markup again, differ from the text in nothing but blanks.
The argument goes by fragments: the fragments of a text hold all its characters, and each segment
is written with the characters of its fragment. Main statement: `withoutBlanks_toMarkup_parseWith`.
-/

namespace ReefCards

open Text (withoutBlanks)

/-- The atom of a name is written as the name in brackets, be it the icon for points or another. -/
@[simp]
theorem Atom.toMarkup_ofName (name : Text) : (Atom.ofName name).toMarkup = bracketed name := by
  unfold Atom.ofName
  split
  · next h =>
    subst h
    rfl
  · rfl

namespace Shape

/-- The plus signs and names of a joined text are all that is left of it without blanks. -/
theorem Joined.withoutBlanks_eq {names : List Text} {source : Text} (h : Joined names source) :
    withoutBlanks source =
      names.flatMap fun name => withoutBlanks rowJoiner ++ withoutBlanks (bracketed name) := by
  induction h with
  | nil => rfl
  | cons hbefore hbehind hname hrest ih =>
    have hjoiner : withoutBlanks rowJoiner = ['+'] := by decide
    rw [Text.withoutBlanks_append, (Text.withoutBlanks_eq_nil_iff _).2 hbefore,
      Text.withoutBlanks_cons (by decide), Text.withoutBlanks_append,
      (Text.withoutBlanks_eq_nil_iff _).2 hbehind, Text.withoutBlanks_append, ih,
      List.flatMap_cons, hjoiner]
    rfl

end Shape

namespace Fragment

/-- What is written back for a fragment: its segment, if it has one. -/
def written (fragment : Fragment) : Text := (fragment.segment?.map Segment.toMarkup).getD []

/-- Words are written back with all that is not blank. -/
theorem withoutBlanks_ofWords? (source : Text) :
    withoutBlanks (((Segment.ofWords? source).map Segment.toMarkup).getD []) =
      withoutBlanks source := by
  unfold Segment.ofWords?
  dsimp only
  split
  · next hempty =>
    rw [← Text.withoutBlanks_trim source, List.isEmpty_iff.1 hempty]
    rfl
  · exact Text.withoutBlanks_trim source

/-- A stray fragment is written back with all that is not blank. -/
theorem withoutBlanks_written_stray (source : Text) :
    withoutBlanks (written ⟨none, source⟩) = withoutBlanks source := withoutBlanks_ofWords? source

/-- A fragment of some shape is written back with all that is not blank. -/
theorem withoutBlanks_written {shape : Shape} {source : Text} (h : shape.Spells source) :
    withoutBlanks (written ⟨some shape, source⟩) = withoutBlanks source := by
  cases h with
  | @row name source names hname hnames hjoined =>
    have hwritten : written ⟨some (.row (name :: names)), bracketed name ++ source⟩ =
        Text.join rowJoiner ((name :: names).map bracketed) := by
      simp [written, segment?, Segment.toMarkup, Function.comp_def]
    -- Every further name comes after a plus sign, both as it was written and as it is written back.
    rw [hwritten, List.map_cons, Text.join_cons, Text.withoutBlanks_append,
      Text.withoutBlanks_append, hjoined.withoutBlanks_eq, Text.withoutBlanks_flatMap,
      List.flatMap_map]
    simp only [Text.withoutBlanks_append]
  | @points digits space hdigits hall hspace =>
    have hwritten :
        written ⟨some (.points digits), digits ++ (space ++ bracketed Vocabulary.wave)⟩ =
          digits ++ ([' '] ++ bracketed Vocabulary.wave) := by
      simp [written, segment?, Segment.toMarkup, Atom.toMarkup, hdigits]
    have hblank : withoutBlanks space = withoutBlanks [' '] := by
      rcases hspace with rfl | rfl <;> rfl
    rw [hwritten]
    simp only [Text.withoutBlanks_append, hblank]
  | plain hsource hall => exact withoutBlanks_ofWords? source
  | @icon name hname =>
    have hwritten : written ⟨some (.icon name), bracketed name⟩ = bracketed name := by
      simp [written, segment?, Segment.toMarkup]
    rw [hwritten]

/-- A stray character before fragments is written back before them, unless it is blank. -/
theorem flatMap_written_pushStray (c : Char) (fragments : List Fragment) :
    (pushStray c fragments).flatMap (fun fragment => withoutBlanks fragment.written) =
      withoutBlanks [c] ++ fragments.flatMap fun fragment => withoutBlanks fragment.written := by
  rcases fragments with _ | ⟨⟨_ | shape, source⟩, rest⟩
  · simp [pushStray, withoutBlanks_written_stray]
  · simp only [pushStray, List.flatMap_cons, withoutBlanks_written_stray]
    rw [← List.singleton_append (l := source), Text.withoutBlanks_append, List.append_assoc]
  · simp [pushStray, withoutBlanks_written_stray]

/-- The fragments of a text are written back with all of it that is not blank. -/
theorem flatMap_written_scan (rows : Bool) (text : Text) :
    ((scan rows text).flatMap fun fragment => withoutBlanks fragment.written) =
      withoutBlanks text := by
  induction text using scan_induction rows with
  | nil => simp [withoutBlanks]
  | shape shape source rest hread hspells ih =>
    rw [scan_append hread, List.flatMap_cons, withoutBlanks_written hspells, ih,
      Text.withoutBlanks_append]
  | stray c rest hread ih =>
    rw [scan_cons hread, flatMap_written_pushStray, ih, ← Text.withoutBlanks_append,
      List.singleton_append]

/-- The segments of fragments are written as the fragments are. -/
theorem flatMap_filterMap_segment? (fragments : List Fragment) :
    ((fragments.filterMap segment?).flatMap fun segment => withoutBlanks segment.toMarkup) =
      fragments.flatMap fun fragment => withoutBlanks fragment.written := by
  induction fragments with
  | nil => rfl
  | cons fragment rest ih =>
    rw [List.flatMap_cons, ← ih, List.filterMap_cons, written]
    cases fragment.segment? with
    | none => rfl
    | some segment => rfl

end Fragment

/-- Reading markup, with rows or without, and writing it back loses and adds nothing but blanks. -/
theorem withoutBlanks_toMarkup_parseWith (rows : Bool) (text : Text) :
    withoutBlanks (toMarkup (parseWith rows text)) = withoutBlanks text := by
  have hspace : withoutBlanks " ".toList = [] := by decide
  calc withoutBlanks (toMarkup (parseWith rows text))
      = (parseWith rows text).flatMap fun segment => withoutBlanks segment.toMarkup := by
        rw [toMarkup, Text.withoutBlanks_join, hspace, Text.join_nil, List.map_map]
        rfl
    _ = (Fragment.scan rows text).flatMap fun fragment => withoutBlanks fragment.written :=
        Fragment.flatMap_filterMap_segment? _
    _ = withoutBlanks text := Fragment.flatMap_written_scan rows text

end ReefCards
