import ReefCards.Card.Published
import ReefCards.Proofs.Search.Run
import ReefCards.Proofs.SearchBox.Backspace
import ReefCards.Proofs.SearchBox.Units

/-!
# Backspaces and icons in a session

In a session the cursor is at the end of a clean text, so a backspace takes the last thing that the
search box shows, whether that is a character or an icon, and an icon that was just appended goes
again as a whole. Appending one works as long as no bracket is left open; an open bracket swallows
it. Main statements: `backspaces_remove_units` and `insertIcon_backspace_iff`.
-/

namespace ReefCards

variable {vocabulary : Vocabulary} {box : SearchBox} {text kept typed name : Text}

/-- A token that ends a clean text is in the vocabulary, if what stands before it is closed. -/
theorem IsClean.mem_of_append_bracketed (h : IsClean vocabulary (text ++ bracketed name))
    (hclosed : IsClosed text) (hname : name ≠ []) (hclose : ']' ∉ name) : name ∈ vocabulary := by
  refine h.2 name (icon_mem_displayUnits.1 ?_)
  rw [displayUnits_append_bracketed hclosed hname hclose]
  exact List.mem_append_right _ (List.mem_singleton_self _)

/-- A token that stands behind an open bracket is part of a longer one, which begins there. -/
theorem append_open_append_bracketed (kept typed name : Text) :
    kept ++ '[' :: typed ++ bracketed name = kept ++ bracketed (typed ++ '[' :: name) := by
  simp [bracketed]

/-- Where no name holds an opening bracket, what stands before the token that ends a clean text is
closed. -/
theorem IsClean.isClosed_of_append_bracketed (hnames : ∀ name ∈ vocabulary, '[' ∉ name)
    (h : IsClean vocabulary (text ++ bracketed name)) (hclose : ']' ∉ name) : IsClosed text := by
  rcases isClosed_or_exists_open text with hclosed | ⟨kept, typed, rfl, hkept, htyped⟩
  · exact hclosed
  · rw [append_open_append_bracketed] at h
    have hne : typed ++ '[' :: name ≠ [] := by simp
    have hlonger : ']' ∉ typed ++ '[' :: name := by simp [htyped, hclose]
    have hmem : typed ++ '[' :: name ∈ vocabulary := h.mem_of_append_bracketed hkept hne hlonger
    exact absurd (List.mem_append_right typed List.mem_cons_self) (hnames _ hmem)

namespace SearchBox

/-- A backspace in a settled search box takes the last unit that is shown. -/
theorem Settled.displayUnits_deleteBack (h : box.Settled vocabulary)
    (hnames : ∀ name ∈ vocabulary, '[' ∉ name) :
    displayUnits box.deleteBack.text = (displayUnits box.text).dropLast := by
  obtain ⟨kept, taken, htext, hback, htaken⟩ := backspace_cases box.text box.cursor
  rw [h.cursor_eq, List.take_length] at htext htaken
  have hkept : box.deleteBack.text = kept := by
    show (backspace box.text box.cursor).1 = kept
    rw [hback, h.cursor_eq, List.drop_length, List.append_nil]
  have hclean := h.clean
  rw [hkept]
  rcases htaken with ⟨name, hname, -, hclose, rfl⟩ | ⟨rfl, hnone⟩
  · rw [htext] at hclean ⊢
    rw [displayUnits_append_bracketed (hclean.isClosed_of_append_bracketed hnames hclose) hname
      hclose, List.dropLast_concat]
  · cases hlast : box.text.getLast? with
    | none =>
      have hempty : box.text = [] := List.getLast?_eq_none_iff.1 hlast
      rw [hempty] at htext ⊢
      rw [(List.append_eq_nil_iff.1 htext.symm).1, displayUnits_nil, List.dropLast_nil]
    | some c =>
      rw [hlast] at htext
      rcases displayUnits_concat kept c with hunits | ⟨first, name, hfirst, hname, hclose, heq⟩
      · rw [htext]
        show displayUnits kept = (displayUnits (kept ++ [c])).dropLast
        rw [hunits, List.dropLast_concat]
      · -- A token that the character closes is known, so it is one that a backspace would see.
        have hend : box.text = first ++ bracketed name := htext.trans heq
        rw [hend] at hclean
        have hopen : '[' ∉ name := hnames name (hclean.mem_of_append_bracketed hfirst hname hclose)
        exact absurd ⟨bracketed name, ⟨name, hname, hopen, hclose, rfl⟩, first, hend.symm⟩ hnone

/-- An icon of the vocabulary is appended to a settled search box whose text is closed. -/
theorem Settled.text_insertIcon_of_isClosed (h : box.Settled vocabulary)
    (hclosed : IsClosed box.text) (hmem : name ∈ vocabulary) (hname : name ≠ [])
    (hclose : ']' ∉ name) : (box.insertIcon name).text = box.text ++ bracketed name := by
  calc (box.insertIcon name).text
      = sanitize vocabulary (box.text ++ bracketed name) := by rw [← h.vocabulary_eq]; rfl
    _ = box.text ++ bracketed name := by
        rw [sanitize_append_bracketed hclosed hname hclose, h.clean.1, if_pos hmem]

/-- An icon that is put behind an open bracket goes with all that stands behind the first one that
is open, if no name of the vocabulary holds one. -/
theorem Settled.exists_text_insertIcon_of_not_isClosed (h : box.Settled vocabulary)
    (hnames : ∀ name ∈ vocabulary, '[' ∉ name) (hopen : ¬ IsClosed box.text)
    (hclose : ']' ∉ name) :
    ∃ kept typed, box.text = kept ++ '[' :: typed ∧ IsClosed kept ∧ ']' ∉ typed ∧
      (box.insertIcon name).text = kept := by
  obtain ⟨kept, typed, htext, hkept, htyped⟩ :=
    (isClosed_or_exists_open box.text).resolve_left hopen
  have hne : typed ++ '[' :: name ≠ [] := by simp
  have hlonger : ']' ∉ typed ++ '[' :: name := by simp [htyped, hclose]
  have hunknown : typed ++ '[' :: name ∉ vocabulary := by
    intro hmem
    exact hnames _ hmem (List.mem_append_right _ List.mem_cons_self)
  have hclean : IsClean vocabulary kept := by
    have hbefore := h.clean
    rw [htext] at hbefore
    exact hbefore.of_append
  refine ⟨kept, typed, htext, hkept, htyped, ?_⟩
  calc (box.insertIcon name).text
      = sanitize vocabulary (box.text ++ bracketed name) := by rw [← h.vocabulary_eq]; rfl
    _ = sanitize vocabulary (kept ++ bracketed (typed ++ '[' :: name)) := by
        rw [htext, append_open_append_bracketed]
    _ = kept := by
        rw [sanitize_append_bracketed hkept hne hlonger, hclean.1, if_neg hunknown,
          List.append_nil]

/-- An icon of the vocabulary is appended to a settled search box exactly if its text is closed. -/
theorem Settled.text_insertIcon_eq_append_iff (h : box.Settled vocabulary)
    (hnames : ∀ name ∈ vocabulary, '[' ∉ name) (hmem : name ∈ vocabulary) (hname : name ≠ [])
    (hclose : ']' ∉ name) :
    (box.insertIcon name).text = box.text ++ bracketed name ↔ IsClosed box.text := by
  constructor
  · -- What is swallowed is missing afterwards, while an appended icon makes the text longer.
    intro happended
    by_contra hopen
    obtain ⟨kept, typed, htext, -, -, hleft⟩ :=
      h.exists_text_insertIcon_of_not_isClosed hnames hopen hclose
    have hlength := congrArg List.length (hleft.symm.trans happended)
    rw [htext] at hlength
    simp only [List.length_append, List.length_cons] at hlength
    omega
  · intro hclosed
    exact h.text_insertIcon_of_isClosed hclosed hmem hname hclose

/-- A backspace takes the icon that was just appended. -/
theorem Settled.text_deleteBack_of_append (h : box.Settled vocabulary)
    (hnames : ∀ name ∈ vocabulary, '[' ∉ name) (htext : box.text = text ++ bracketed name)
    (hname : name ≠ []) (hclose : ']' ∉ name) : box.deleteBack.text = text := by
  have hclosed : IsClosed text := by
    have hclean := h.clean
    rw [htext] at hclean
    exact hclean.isClosed_of_append_bracketed hnames hclose
  have hunits : displayUnits box.deleteBack.text = displayUnits text := by
    rw [h.displayUnits_deleteBack hnames, htext,
      displayUnits_append_bracketed hclosed hname hclose, List.dropLast_concat]
  rw [← flatMap_toText_displayUnits box.deleteBack.text, hunits, flatMap_toText_displayUnits]

end SearchBox

namespace Session

variable {catalog : Catalog} {session : Session} {step : Step} {action : Action}

/-- An edit does to the search box what its action does. -/
theorem box_perform (h : step.edit? = some action) (catalog : Catalog) (session : Session) :
    (session.perform catalog step).box = editBox session.box action := by
  obtain ⟨shown, heq⟩ := exists_perform_eq_begin h catalog session
  rw [heq]
  rfl

/-- A step that is no edit leaves the search box as it is. -/
theorem box_perform_of_not_edit (h : step.edit? = none) (catalog : Catalog) (session : Session) :
    (session.perform catalog step).box = session.box := by
  obtain ⟨shown, heq⟩ := exists_perform_eq_self h catalog session
  rw [heq]

/-- The search box is settled after any steps. -/
theorem settled_run (catalog : Catalog) (vocabulary : Vocabulary) (steps : List Step) :
    (run catalog vocabulary steps).box.Settled vocabulary :=
  (consistent_run catalog vocabulary steps).settled

/-- A step that edits nothing else than by a backspace leaves a unit fewer if it is one. -/
theorem displayUnits_perform (hnames : ∀ name ∈ vocabulary, '[' ∉ name)
    (hsettled : session.box.Settled vocabulary) (catalog : Catalog)
    (hstep : ∀ action ∈ edits [step], action = .backspace) :
    let units := displayUnits session.box.text
    displayUnits (session.perform catalog step).box.text =
      units.take (units.length - (edits [step]).length) := by
  intro units
  cases hedit : step.edit? with
  | none =>
    have hnone : edits [step] = [] := by simp [edits, hedit]
    rw [box_perform_of_not_edit hedit, hnone, List.length_nil, Nat.sub_zero, List.take_length]
  | some action =>
    have hone : edits [step] = [action] := by simp [edits, hedit]
    obtain rfl : action = .backspace := by
      rw [hone] at hstep
      exact hstep action (List.mem_singleton_self action)
    rw [box_perform hedit, hone, List.length_singleton, ← List.dropLast_eq_take]
    exact hsettled.displayUnits_deleteBack hnames

/-- Steps that edit nothing else than by backspaces leave as many units fewer as these are. -/
theorem displayUnits_run_append (hnames : ∀ name ∈ vocabulary, '[' ∉ name) (catalog : Catalog)
    (steps more : List Step) (hmore : ∀ action ∈ edits more, action = .backspace) :
    let units := displayUnits (run catalog vocabulary steps).box.text
    displayUnits (run catalog vocabulary (steps ++ more)).box.text =
      units.take (units.length - (edits more).length) := by
  intro units
  induction more using List.reverseRecOn with
  | nil => simp [units, edits]
  | append_singleton past step ih =>
    have hedits : edits (past ++ [step]) = edits past ++ edits [step] := List.filterMap_append
    rw [hedits, List.forall_mem_append] at hmore
    rw [← List.append_assoc, run_concat,
      displayUnits_perform hnames (settled_run catalog vocabulary (steps ++ past)) catalog hmore.2,
      ih hmore.1, List.length_take, List.take_take, hedits, List.length_append]
    congr 1
    omega

/-- A backspace in a session takes the last unit that the search box shows, and nothing where it
shows nothing. Several take as many units, whatever results come in meanwhile: the rest is shown as
before, and the box is empty once they are as many as the units were. -/
theorem backspaces_remove_units (catalog : Catalog) (vocabulary : Vocabulary)
    (hnames : ∀ name ∈ vocabulary, '[' ∉ name) (steps : List Step) :
    let session := run catalog vocabulary steps
    let units := displayUnits session.box.text
    (∀ step, step.edit? = some .backspace →
        displayUnits (session.perform catalog step).box.text = units.dropLast) ∧
      ∀ more, (∀ action ∈ edits more, action = .backspace) →
        let later := run catalog vocabulary (steps ++ more)
        let left := units.take (units.length - (edits more).length)
        displayUnits later.box.text = left ∧ later.box.pieces = Piece.merge left ∧
          (later.box.text = [] ↔ units.length ≤ (edits more).length) := by
  intro session units
  have hsettled : session.box.Settled vocabulary := settled_run catalog vocabulary steps
  refine ⟨fun step hstep => ?_, fun more hmore => ?_⟩
  · rw [box_perform hstep]
    exact hsettled.displayUnits_deleteBack hnames
  · intro later left
    have hunits : displayUnits later.box.text = left :=
      displayUnits_run_append hnames catalog steps more hmore
    refine ⟨hunits, ?_, ?_⟩
    · rw [← hunits, merge_displayUnits]
      rfl
    · rw [← displayUnits_eq_nil_iff, hunits, List.take_eq_nil_iff]
      constructor
      · rintro (hzero | hnil)
        · exact Nat.sub_eq_zero_iff_le.1 hzero
        · simp [hnil]
      · intro hle
        exact .inl (Nat.sub_eq_zero_of_le hle)

/-- No published icon is nameless or has a bracket in its name. -/
theorem bracketFree_standard :
    ∀ name ∈ Vocabulary.standard, name ≠ [] ∧ '[' ∉ name ∧ ']' ∉ name := by
  show ∀ name ∈ Vocabulary.standard.names, name ≠ [] ∧ '[' ∉ name ∧ ']' ∉ name
  decide +kernel

/-- Three backspaces, with results for an older query between them, take the open bracket, the plus
sign and the icon. -/
theorem backspaces_remove_units_three :
    let catalog := Catalog.indexed publishedDeck Field.standard
    let steps : List Step := [.apply (.type "2 [Wave]+[")]
    let more : List Step := [.begin .backspace, .accept 1 [], .apply .backspace, .apply .backspace]
    (∀ name ∈ Vocabulary.standard, '[' ∉ name) ∧ (∀ action ∈ edits more, action = .backspace) ∧
      displayUnits (run catalog .standard (steps ++ more)).box.text =
        [.text ['2'], .text [' ']] := by
  intro catalog steps more
  have hnames : ∀ name ∈ Vocabulary.standard, '[' ∉ name :=
    fun name hname => (bracketFree_standard name hname).2.1
  have hmore : ∀ action ∈ edits more, action = .backspace := by decide
  have hunits : displayUnits (run catalog .standard steps).box.text =
      [.text ['2'], .text [' '], .icon Vocabulary.wave, .text ['+'], .text ['[']] := by
    decide +kernel
  obtain ⟨-, hrun⟩ := backspaces_remove_units catalog .standard hnames steps
  refine ⟨hnames, hmore, ?_⟩
  rw [(hrun more hmore).1, hunits]
  rfl

/-- An icon of the vocabulary is appended to the text and taken away by a backspace right after,
with text and cursor as before, exactly if the text is closed. Behind an open bracket the icon is
swallowed, and the text from that bracket on with it. -/
theorem insertIcon_backspace_iff (catalog : Catalog) (vocabulary : Vocabulary)
    (hnames : ∀ name ∈ vocabulary, name ≠ [] ∧ '[' ∉ name ∧ ']' ∉ name) (steps : List Step)
    (name : Text) (hname : name ∈ vocabulary) (insertion undo : Step)
    (hinsertion : insertion.edit? = some (.insertIcon name))
    (hundo : undo.edit? = some .backspace) :
    let before := run catalog vocabulary steps
    let after := before.perform catalog insertion
    let undone := after.perform catalog undo
    (IsClosed before.box.text ↔
        after.box.text = before.box.text ++ bracketed name ∧
          after.box.cursor = after.box.text.length ∧
          undone.box.text = before.box.text ∧ undone.box.cursor = before.box.cursor) ∧
      (¬ IsClosed before.box.text → ∃ kept typed, before.box.text = kept ++ '[' :: typed ∧
        IsClosed kept ∧ ']' ∉ typed ∧ after.box.text = kept ∧ after.box.cursor = kept.length) := by
  intro before after undone
  obtain ⟨hne, -, hclose⟩ := hnames name hname
  have hopen : ∀ name ∈ vocabulary, '[' ∉ name := fun name hname => (hnames name hname).2.1
  have hbefore : before.box.Settled vocabulary := settled_run catalog vocabulary steps
  have hinserted : after.box = before.box.insertIcon name := box_perform hinsertion catalog before
  have hafter : after.box.Settled vocabulary := by
    rw [hinserted]
    exact settled_editBox hbefore (.insertIcon name)
  have hdeleted : undone.box = after.box.deleteBack := box_perform hundo catalog after
  have hundone : undone.box.Settled vocabulary := by
    rw [hdeleted]
    exact hafter.deleteBack
  have happend : after.box.text = before.box.text ++ bracketed name ↔ IsClosed before.box.text := by
    rw [hinserted]
    exact hbefore.text_insertIcon_eq_append_iff hopen hname hne hclose
  refine ⟨⟨?_, ?_⟩, ?_⟩
  · intro hclosed
    have happended : after.box.text = before.box.text ++ bracketed name := happend.2 hclosed
    have hrestored : undone.box.text = before.box.text := by
      rw [hdeleted]
      exact hafter.text_deleteBack_of_append hopen happended hne hclose
    exact ⟨happended, hafter.cursor_eq, hrestored,
      by rw [hundone.cursor_eq, hbefore.cursor_eq, hrestored]⟩
  · rintro ⟨happended, -⟩
    exact happend.1 happended
  · intro hnot
    obtain ⟨kept, typed, htext, hkept, htyped, hleft⟩ :=
      hbefore.exists_text_insertIcon_of_not_isClosed hopen hnot hclose
    rw [← hinserted] at hleft
    exact ⟨kept, typed, htext, hkept, htyped, hleft, by rw [hafter.cursor_eq, hleft]⟩

/-- Empty brackets and a lone closing one leave a text closed, so an icon is appended behind them
and taken away again. -/
theorem insertIcon_backspace_behind_brackets :
    let catalog := Catalog.indexed publishedDeck Field.standard
    let steps : List Step := [.apply (.type "]a[]b")]
    let insertion : Step := .apply (.insertIcon Vocabulary.wave)
    let after := (run catalog .standard steps).perform catalog insertion
    let undone := after.perform catalog (.begin .backspace)
    (∀ name ∈ Vocabulary.standard, name ≠ [] ∧ '[' ∉ name ∧ ']' ∉ name) ∧
      Vocabulary.wave ∈ Vocabulary.standard ∧
      insertion.edit? = some (.insertIcon Vocabulary.wave) ∧
      after.box.text = "]a[]b[Wave]".toList ∧ undone.box.text = "]a[]b".toList ∧
      undone.box.cursor = 5 := by
  intro catalog steps insertion after undone
  have hmem : Vocabulary.wave ∈ Vocabulary.standard := by decide +kernel
  have htext : (run catalog .standard steps).box.text = "]a[]b".toList := by decide +kernel
  have hclosed : IsClosed (run catalog .standard steps).box.text := by
    rw [htext]
    decide
  obtain ⟨happended, -, hrestored, hcursor⟩ := (insertIcon_backspace_iff catalog .standard
    bracketFree_standard steps Vocabulary.wave hmem insertion (.begin .backspace) rfl rfl).1.1
    hclosed
  refine ⟨bracketFree_standard, hmem, rfl, ?_, ?_, ?_⟩
  · exact happended.trans (by rw [htext]; rfl)
  · exact hrestored.trans htext
  · exact hcursor.trans (by decide +kernel)

/-- An open bracket swallows an icon of the vocabulary: it is not appended, and a backspace does not
bring the bracket back. -/
theorem insertIcon_swallowed_by_open_bracket :
    let catalog := Catalog.indexed publishedDeck Field.standard
    let before := run catalog .standard [.apply (.type "[")]
    let after := before.perform catalog (.apply (.insertIcon Vocabulary.wave))
    let undone := after.perform catalog (.apply .backspace)
    (∀ name ∈ Vocabulary.standard, name ≠ [] ∧ '[' ∉ name ∧ ']' ∉ name) ∧
      Vocabulary.wave ∈ Vocabulary.standard ∧ before.box.text = ['['] ∧
      after.box.text = [] ∧ after.box.text ≠ before.box.text ++ bracketed Vocabulary.wave ∧
      undone.box.text = [] ∧ undone.box.text ≠ before.box.text := by
  intro catalog before after undone
  have hbefore : before.box.text = ['['] := by decide +kernel
  have hafter : after.box.text = [] := by decide +kernel
  have hundone : undone.box.text = [] := by decide +kernel
  refine ⟨bracketFree_standard, by decide +kernel, hbefore, hafter, ?_, hundone, ?_⟩
  · rw [hafter, hbefore]
    simp
  · rw [hundone, hbefore]
    simp

end Session
end ReefCards
