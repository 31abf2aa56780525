import Mathlib.Data.List.Chain
import ReefCards.Proofs.Markup.FirstMatch
import ReefCards.Proofs.Markup.Stray
import ReefCards.Proofs.Markup.Ungrouped

/-!
# Texts cut into fragments

What it means that fragments cut up a text, said without the scan: put together they are the text,
each with a shape is the longest match of the first kind that matches where it begins, and no kind
matches within one without a shape, of which no two stand side by side. Main statements:
`isPartition_cons_iff`, which follows the fragments from the first to the last, `isPartition_scan`,
the scan cuts up a text so, and `IsPartition.eq_scan`, there is no other way.
-/

namespace ReefCards.Fragment

/-- Whether no kind matches at any character of a text that has some text after it. -/
def Unmatched (source after : Text) : Prop :=
  ∀ front c back, source = front ++ c :: back →
    ∀ kind : Shape.Kind, ¬ kind.Matches (c :: (back ++ after))

/-- Whether a fragment is what is cut off at its place, by the text after it. -/
def Fits (rows : Bool) (fragment : Fragment) (after : Text) : Prop :=
  match fragment.shape with
  | some shape => shape.Spells fragment.source ∧
      Shape.IsFirstMatch rows (fragment.source ++ after) shape.kind fragment.source
  | none => Unmatched fragment.source after

/-- Whether fragments cut up a text: they are not empty and together they are the text, no two
without a shape stand side by side, and each is what is cut off at its place. -/
structure IsPartition (rows : Bool) (text : Text) (fragments : List Fragment) : Prop where
  nonempty : ∀ fragment ∈ fragments, fragment.source ≠ []
  whole : fragments.flatMap source = text
  apart : fragments.IsChain fun first second => first.shape ≠ none ∨ second.shape ≠ none
  fits : ∀ before fragment after, fragments = before ++ fragment :: after →
    fragment.Fits rows (after.flatMap source)

variable {rows : Bool} {c : Char} {text rest after : Text} {fragment : Fragment}
  {fragments : List Fragment}

/-- Within no characters nothing matches. -/
theorem unmatched_nil (after : Text) : Unmatched [] after := by
  intro front c back h
  simp at h

/-- Nothing matches within a text if nothing does at its first character and within the others. -/
theorem unmatched_cons_iff (rows : Bool) {source : Text} :
    Unmatched (c :: source) after ↔
      Shape.read? rows (c :: (source ++ after)) = none ∧ Unmatched source after := by
  rw [Shape.read?_eq_none_iff]
  constructor
  · intro h
    refine ⟨h [] c source rfl, fun front d back heq => ?_⟩
    exact h (c :: front) d back (by rw [heq, List.cons_append])
  · rintro ⟨hfirst, hothers⟩ front d back heq
    cases front with
    | nil =>
      obtain ⟨rfl, rfl⟩ := List.cons.inj heq
      exact hfirst
    | cons e front => exact hothers front d back (List.cons.inj heq).2

/-- The empty text is cut into nothing. -/
theorem isPartition_nil (rows : Bool) : IsPartition rows [] [] where
  nonempty := by simp
  whole := rfl
  apart := .nil
  fits := by simp

/-- Fragments cut up a text if the first is what is cut off at its start and the others cut up the
text after it. -/
theorem isPartition_cons_iff :
    IsPartition rows text (fragment :: fragments) ↔
      fragment.source ≠ [] ∧ fragment.source ++ fragments.flatMap source = text ∧
        (∀ next ∈ fragments.head?, fragment.shape ≠ none ∨ next.shape ≠ none) ∧
        fragment.Fits rows (fragments.flatMap source) ∧
        IsPartition rows (fragments.flatMap source) fragments := by
  constructor
  · intro h
    obtain ⟨hne, hothers⟩ := List.forall_mem_cons.1 h.nonempty
    obtain ⟨hhead, hchain⟩ := List.isChain_cons.1 h.apart
    refine ⟨hne, h.whole, hhead, h.fits [] fragment fragments rfl, hothers, rfl, hchain, ?_⟩
    intro before other after heq
    exact h.fits (fragment :: before) other after (by rw [heq, List.cons_append])
  · rintro ⟨hne, hwhole, hhead, hfits, hothers⟩
    refine ⟨List.forall_mem_cons.2 ⟨hne, hothers.nonempty⟩, hwhole,
      List.isChain_cons.2 ⟨hhead, hothers.apart⟩, fun before other after heq => ?_⟩
    cases before with
    | nil =>
      obtain ⟨rfl, rfl⟩ := List.cons.inj heq
      exact hfits
    | cons first before => exact hothers.fits before other after (List.cons.inj heq).2

/-- A character where nothing matches makes a fragment before those that begin with a shape. -/
theorem IsPartition.singleton_cons (h : IsPartition rows rest fragments)
    (hread : Shape.read? rows (c :: rest) = none)
    (hhead : ∀ next ∈ fragments.head?, next.shape ≠ none) :
    IsPartition rows (c :: rest) (⟨none, [c]⟩ :: fragments) := by
  refine isPartition_cons_iff.2 ⟨by simp, by rw [h.whole]; rfl,
    fun next hnext => .inr (hhead next hnext), ?_, h.whole.symm ▸ h⟩
  exact (unmatched_cons_iff rows).2 ⟨by rwa [h.whole], unmatched_nil _⟩

/-- A character where nothing matches goes before fragments of the text after it. -/
theorem IsPartition.pushStray (h : IsPartition rows rest fragments)
    (hread : Shape.read? rows (c :: rest) = none) :
    IsPartition rows (c :: rest) (pushStray c fragments) := by
  rcases fragments with _ | ⟨⟨_ | shape, source⟩, others⟩
  · exact h.singleton_cons hread (by simp)
  · obtain ⟨-, hwhole, hhead, hfits, hothers⟩ := isPartition_cons_iff.1 h
    refine isPartition_cons_iff.2 ⟨by simp, by rw [← hwhole]; rfl, hhead, ?_, hothers⟩
    exact (unmatched_cons_iff rows).2 ⟨by rwa [hwhole], hfits⟩
  · exact h.singleton_cons hread (by simp)

/-- The scan cuts up the text. -/
theorem isPartition_scan (rows : Bool) (text : Text) : IsPartition rows text (scan rows text) := by
  induction text using scan_induction rows with
  | nil =>
    rw [scan_nil]
    exact isPartition_nil rows
  | shape shape source rest hread hspells ih =>
    have hwhole := flatMap_source_scan rows rest
    have hsource : source ≠ [] := by
      rintro rfl
      exact absurd (Shape.length_lt_of_read? rows _ _ hread) (Nat.lt_irrefl _)
    obtain ⟨taken, heq, hfits⟩ := Shape.read?_eq_some_iff.1 hread
    obtain rfl : source = taken := List.append_cancel_right heq
    rw [scan_append hread]
    refine isPartition_cons_iff.2 ⟨hsource, by rw [hwhole], by simp, ?_, hwhole.symm ▸ ih⟩
    rw [hwhole]
    exact hfits
  | stray c rest hread ih =>
    rw [scan_cons hread]
    exact ih.pushStray hread

/-- A text within which nothing matches is scanned as stray characters. -/
theorem scan_unmatched_append {source : Text} (h : Unmatched source after) :
    scan rows (source ++ after) = source.foldr Fragment.pushStray (scan rows after) := by
  induction source with
  | nil => rfl
  | cons c others ih =>
    obtain ⟨hread, hothers⟩ := (unmatched_cons_iff rows).1 h
    rw [List.cons_append, scan_cons hread, ih hothers, List.foldr_cons]

/-- The scan is the only way to cut up a text. -/
theorem IsPartition.eq_scan (h : IsPartition rows text fragments) :
    fragments = scan rows text := by
  induction fragments generalizing text with
  | nil =>
    obtain rfl : [] = text := h.whole
    rw [scan_nil]
  | cons fragment fragments ih =>
    obtain ⟨hne, rfl, hhead, hfits, hothers⟩ := isPartition_cons_iff.1 h
    have hrest := ih hothers
    rcases fragment with ⟨_ | shape, source⟩
    · have hbegins : ¬ BeginsStray fragments := by
        rintro ⟨other, others, rfl⟩
        simpa using hhead ⟨none, other⟩ rfl
      rw [scan_unmatched_append hfits, ← hrest, foldr_pushStray hne hbegins]
    · have hread := Shape.read?_eq_some_iff.2 ⟨source, rfl, hfits⟩
      rw [scan_append hread, ← hrest]

end ReefCards.Fragment
