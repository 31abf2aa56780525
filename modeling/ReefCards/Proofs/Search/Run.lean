import ReefCards.Proofs.SearchBox.Run
import ReefCards.Search.Session

/-!
# Runs of a search session

Any sequence of edits, evaluated at once or later, and of results handed in for whichever
generation. Main statements: `Consistent.perform` and `run_invariant`, throughout a run the query
asks for the text in the search box, which has no unknown token, the cursor stands behind it, and
the generation counts the edits. A backspace goes past the sanitizer; it leaves no unknown token
because in a session the cursor is always at the end, and a text that begins a clean one is clean.
-/

namespace ReefCards

variable {vocabulary : Vocabulary}

namespace SearchBox

/-- A search box with its cursor behind a clean content. -/
structure Settled (vocabulary : Vocabulary) (box : SearchBox) : Prop where
  vocabulary_eq : box.vocabulary = vocabulary
  clean : IsClean vocabulary box.text
  cursor_eq : box.cursor = box.text.length

/-- The empty search box is settled. -/
theorem settled_empty (vocabulary : Vocabulary) : (empty vocabulary).Settled vocabulary :=
  ⟨rfl, isClean_nil vocabulary, rfl⟩

/-- An edit settles the search box, whatever its content and cursor were before. -/
theorem settled_edit {box : SearchBox} (h : box.vocabulary = vocabulary) (raw : Text) :
    (box.edit raw).Settled vocabulary := by
  subst h
  exact ⟨rfl, isClean_sanitize box.vocabulary raw, rfl⟩

/-- A backspace leaves a settled search box settled: with the cursor at the end, it keeps a
beginning of the content. -/
theorem Settled.deleteBack {box : SearchBox} (h : box.Settled vocabulary) :
    box.deleteBack.Settled vocabulary := by
  obtain ⟨kept, removed, htake, htext, hcursor⟩ := box.exists_deleteBack_eq
  rw [h.cursor_eq, List.take_length] at htake
  rw [h.cursor_eq, List.drop_length, List.append_nil] at htext
  have hclean : IsClean vocabulary kept := by
    have hbefore := h.clean
    rw [htake] at hbefore
    exact hbefore.of_append
  exact ⟨h.vocabulary_eq, by rwa [htext], by rw [hcursor, htext]⟩

end SearchBox

namespace Session

/-- What happens to a session: an edit whose query is evaluated at once, an edit whose results are
awaited, or results for a generation. -/
inductive Step where
  | apply (action : Action)
  | begin (action : Action)
  | accept (generation : Nat) (results : List CardId)
  deriving DecidableEq, Repr

/-- The action of a step that is an edit. -/
def Step.edit? : Step → Option Action
  | .apply action => some action
  | .begin action => some action
  | .accept _ _ => none

/-- The edits among steps. -/
def edits (steps : List Step) : List Action := steps.filterMap Step.edit?

/-- The session after a step. -/
def perform (catalog : Catalog) (session : Session) : Step → Session
  | .apply action => session.apply catalog action
  | .begin action => session.begin action
  | .accept generation results => session.accept generation results

/-- A new session after all steps. -/
def run (catalog : Catalog) (vocabulary : Vocabulary) (steps : List Step) : Session :=
  steps.foldl (perform catalog) (start catalog vocabulary)

/-- The last step comes after the run so far. -/
theorem run_concat (catalog : Catalog) (vocabulary : Vocabulary) (steps : List Step)
    (step : Step) :
    run catalog vocabulary (steps ++ [step]) =
      perform catalog (run catalog vocabulary steps) step := by
  rw [run, List.foldl_append]
  rfl

/-- A session accepts results for its own generation. -/
theorem accepts_iff {session : Session} {generation : Nat} :
    session.accepts generation = true ↔ generation = session.generation := by
  simp [accepts]

/-- Results that are not accepted leave the session as it is. -/
theorem accept_of_not_accepts {session : Session} {generation : Nat}
    (h : session.accepts generation = false) (results : List CardId) :
    session.accept generation results = session := by
  simp [accept, h]

/-- Results that are accepted replace those on display. -/
theorem accept_of_accepts {session : Session} {generation : Nat}
    (h : session.accepts generation = true) (results : List CardId) :
    session.accept generation results = { session with results } := by
  simp [accept, h]

/-- An edit that is evaluated at once leaves the results of its query on display. -/
theorem apply_eq (catalog : Catalog) (session : Session) (action : Action) :
    session.apply catalog action =
      { session.begin action with results := catalog.evaluate (session.begin action).query } :=
  accept_of_accepts (accepts_iff.2 rfl) _

/-- Results that are handed in change nothing but the results. -/
theorem exists_accept_eq (session : Session) (generation : Nat) (results : List CardId) :
    ∃ shown, session.accept generation results = { session with results := shown } := by
  unfold accept
  split
  · exact ⟨results, rfl⟩
  · exact ⟨session.results, rfl⟩

/-- An edit leaves what its action leaves, up to the results. -/
theorem exists_perform_eq_begin {step : Step} {action : Action} (h : step.edit? = some action)
    (catalog : Catalog) (session : Session) :
    ∃ shown, perform catalog session step = { session.begin action with results := shown } := by
  cases step with
  | apply performed =>
    obtain rfl : performed = action := Option.some.inj h
    exact exists_accept_eq (session.begin performed) _ _
  | begin performed =>
    obtain rfl : performed = action := Option.some.inj h
    exact ⟨session.results, rfl⟩
  | accept => exact absurd h (by simp [Step.edit?])

/-- A step that is no edit changes nothing but the results. -/
theorem exists_perform_eq_self {step : Step} (h : step.edit? = none) (catalog : Catalog)
    (session : Session) :
    ∃ shown, perform catalog session step = { session with results := shown } := by
  cases step with
  | apply => exact absurd h (by simp [Step.edit?])
  | begin => exact absurd h (by simp [Step.edit?])
  | accept generation results => exact exists_accept_eq session generation results

/-- An action leaves a settled search box settled. -/
theorem settled_editBox {box : SearchBox} (h : box.Settled vocabulary) (action : Action) :
    (editBox box action).Settled vocabulary := by
  have hclear : box.clear.Settled vocabulary := by
    rw [SearchBox.clear, h.vocabulary_eq]
    exact SearchBox.settled_empty vocabulary
  cases action with
  | type raw => exact SearchBox.settled_edit h.vocabulary_eq raw
  | insertIcon name => exact SearchBox.settled_edit h.vocabulary_eq _
  | backspace => exact h.deleteBack
  | clear => exact hclear
  | reset => exact hclear
  | setGroup | setSize | setZone | setTag => exact h

/-- A session in order after its edits: the search box is settled, the query asks for what stands in
it, and every edit was a generation. -/
structure Consistent (vocabulary : Vocabulary) (actions : List Action) (session : Session) :
    Prop where
  settled : session.box.Settled vocabulary
  text_eq : session.query.text = session.box.text
  generation_eq : session.generation = actions.length

/-- A new session is in order. -/
theorem consistent_start (catalog : Catalog) (vocabulary : Vocabulary) :
    (start catalog vocabulary).Consistent vocabulary [] :=
  ⟨SearchBox.settled_empty vocabulary, rfl, rfl⟩

/-- A session stays in order when its search box and its query are edited. -/
theorem Consistent.begin {actions : List Action} {session : Session}
    (h : session.Consistent vocabulary actions) (action : Action) :
    (session.begin action).Consistent vocabulary (actions ++ [action]) where
  settled := settled_editBox h.settled action
  text_eq := rfl
  generation_eq := by
    rw [List.length_append, ← h.generation_eq]
    rfl

/-- A session in order is so with any results. -/
theorem Consistent.withResults {actions : List Action} {session : Session}
    (h : session.Consistent vocabulary actions) (shown : List CardId) :
    Consistent vocabulary actions { session with results := shown } :=
  ⟨h.settled, h.text_eq, h.generation_eq⟩

/-- Each step leaves a session in order, with the edit counted if it is one. -/
theorem Consistent.perform {actions : List Action} {session : Session}
    (h : session.Consistent vocabulary actions) (catalog : Catalog) (step : Step) :
    (session.perform catalog step).Consistent vocabulary (actions ++ edits [step]) := by
  cases hedit : step.edit? with
  | some action =>
    obtain ⟨shown, heq⟩ := exists_perform_eq_begin hedit catalog session
    have hedits : edits [step] = [action] := by simp [edits, hedit]
    rw [heq, hedits]
    exact (h.begin action).withResults shown
  | none =>
    obtain ⟨shown, heq⟩ := exists_perform_eq_self hedit catalog session
    have hedits : edits [step] = [] := by simp [edits, hedit]
    rw [heq, hedits, List.append_nil]
    exact h.withResults shown

/-- A new session is in order after any steps. -/
theorem consistent_run (catalog : Catalog) (vocabulary : Vocabulary) (steps : List Step) :
    (run catalog vocabulary steps).Consistent vocabulary (edits steps) := by
  induction steps using List.reverseRecOn with
  | nil => exact consistent_start catalog vocabulary
  | append_singleton past step ih =>
    have hedits : edits (past ++ [step]) = edits past ++ edits [step] := List.filterMap_append
    rw [run_concat, hedits]
    exact ih.perform catalog step

/-- After any steps of a session the query asks for the text of the search box, the sanitizer leaves
this text as it is, the cursor stands behind it, and the generation is the number of edits. What
comes before a step is a run of its own, so this holds after each step. -/
theorem run_invariant (catalog : Catalog) (vocabulary : Vocabulary) (steps : List Step) :
    let session := run catalog vocabulary steps
    session.query.text = session.box.text ∧
      sanitize vocabulary session.box.text = session.box.text ∧
      session.box.cursor = session.box.text.length ∧
      session.generation = (edits steps).length := by
  intro session
  have h : session.Consistent vocabulary (edits steps) := consistent_run catalog vocabulary steps
  exact ⟨h.text_eq, h.settled.clean.1, h.settled.cursor_eq, h.generation_eq⟩

end Session
end ReefCards
