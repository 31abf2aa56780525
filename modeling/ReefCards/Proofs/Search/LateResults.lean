import ReefCards.Proofs.Search.Run
import ReefCards.Card.Published
import Mathlib.Data.List.Nodup

/-!
# Late results

Results may be handed in for any generation so far: late, more than once and in any order. A history
keeps, beside the session, which query each generation stands for and for which generation the
results on display were produced. Main statements: `History.Ordered.perform` and
`History.Answered.perform`, what each step keeps of a history, and `last_query_wins`, by which only
results for the newest query are taken, so that the display never goes back to an older one.
-/

namespace ReefCards
namespace Session

variable {catalog : Catalog} {vocabulary : Vocabulary} {steps : List Step} {session : Session}
  {generation : Nat}

/-- Whether a step brings in results for the newest generation: those of an edit that is evaluated
at once, or results that are accepted. -/
def Step.answers (session : Session) : Step → Bool
  | .apply _ => true
  | .begin _ => false
  | .accept generation _ => session.accepts generation

/-- A session with what was asked and shown on the way to it. -/
structure History where
  session : Session
  /-- The generations handed out so far, each with the query as it stood then, the newest last. -/
  asked : List (Nat × Query)
  /-- The generation for which the results on display were produced. -/
  shown : Nat

namespace History

variable {history : History} {query : Query}

/-- The history of a new session, which shows the results of its first generation. -/
def start (catalog : Catalog) (vocabulary : Vocabulary) : History :=
  let session := Session.start catalog vocabulary
  { session
    asked := [(session.generation, session.query)]
    shown := session.generation }

/-- The history after an edit that leads to this session and hands out its generation. -/
def ask (history : History) (session : Session) : History :=
  { history with
    session
    asked := history.asked ++ [(session.generation, session.query)] }

/-- The history after a step. Results that are accepted are shown from then on, for the generation
that they were handed in for. -/
def perform (catalog : Catalog) (history : History) (step : Step) : History :=
  let session := history.session.perform catalog step
  match step with
  | .apply _ => { history.ask session with shown := session.generation }
  | .begin _ => history.ask session
  | .accept generation _ =>
    { history with
      session
      shown := if history.session.accepts generation then generation else history.shown }

/-- The history of a run. -/
def run (catalog : Catalog) (vocabulary : Vocabulary) (steps : List Step) : History :=
  steps.foldl (perform catalog) (start catalog vocabulary)

/-- The last step comes after the history so far. -/
theorem run_concat (catalog : Catalog) (vocabulary : Vocabulary) (steps : List Step)
    (step : Step) :
    run catalog vocabulary (steps ++ [step]) =
      (run catalog vocabulary steps).perform catalog step := by
  rw [run, List.foldl_append]
  rfl

/-- The session of a history takes each step. -/
theorem session_perform (catalog : Catalog) (history : History) (step : Step) :
    (history.perform catalog step).session = history.session.perform catalog step := by
  cases step <;> rfl

/-- The history of a run goes with the session of the run. -/
theorem session_run (catalog : Catalog) (vocabulary : Vocabulary) (steps : List Step) :
    (run catalog vocabulary steps).session = Session.run catalog vocabulary steps := by
  induction steps using List.reverseRecOn with
  | nil => rfl
  | append_singleton past step ih =>
    rw [run_concat, session_perform, ih, Session.run_concat]

/-- An edit that is evaluated at once is asked and shown. -/
theorem perform_apply (catalog : Catalog) (history : History) (action : Action) :
    let edited := history.session.begin action
    history.perform catalog (.apply action) =
      { history.ask { edited with results := catalog.evaluate edited.query } with
        shown := edited.generation } :=
  congrArg (fun session : Session => { history.ask session with shown := session.generation })
    (apply_eq catalog history.session action)

/-- Results that are accepted are shown for their generation. -/
theorem perform_accept (h : history.session.accepts generation = true) (results : List CardId) :
    history.perform catalog (.accept generation results) =
      { history with session := { history.session with results }, shown := generation } := by
  rw [← accept_of_accepts h, perform, if_pos h]
  rfl

/-- Results that are refused leave the history as it is. -/
theorem perform_refuse (h : history.session.accepts generation = false) (results : List CardId) :
    history.perform catalog (.accept generation results) = history := by
  rw [perform, if_neg (by simp [h])]
  exact congrArg (fun session => { history with session }) (accept_of_not_accepts h results)

/-- A history in order: every generation up to the newest was handed out once, the newest stands for
the query of the session, and what is on display belongs to one of them. -/
structure Ordered (history : History) : Prop where
  generations_eq : history.asked.map Prod.fst = List.range (history.session.generation + 1)
  newest : (history.session.generation, history.session.query) ∈ history.asked
  shown_le : history.shown ≤ history.session.generation

/-- The history of a new session is in order. -/
theorem ordered_start (catalog : Catalog) (vocabulary : Vocabulary) :
    (start catalog vocabulary).Ordered :=
  ⟨rfl, List.mem_singleton_self _, Nat.le_refl _⟩

/-- A history stays in order when the next generation is handed out. -/
theorem Ordered.ask (h : history.Ordered)
    (hnext : session.generation = history.session.generation + 1) :
    (history.ask session).Ordered where
  generations_eq := by
    have hgenerations := h.generations_eq
    rw [← hnext] at hgenerations
    simp only [History.ask, List.map_append, hgenerations, List.range_succ, List.map_singleton]
  newest := List.mem_append_right _ (List.mem_singleton_self _)
  shown_le := by
    have hshown : history.shown ≤ history.session.generation := h.shown_le
    change history.shown ≤ session.generation
    omega

/-- Each step leaves a history in order. -/
theorem Ordered.perform (h : history.Ordered) (catalog : Catalog) (step : Step) :
    (history.perform catalog step).Ordered := by
  cases step with
  | apply action =>
    rw [perform_apply]
    let next := history.session.begin action
    have hasked : (history.ask { next with results := catalog.evaluate next.query }).Ordered :=
      h.ask rfl
    exact ⟨hasked.generations_eq, hasked.newest, Nat.le_refl _⟩
  | begin action => exact h.ask rfl
  | accept generation results =>
    cases haccepts : history.session.accepts generation with
    | false =>
      rw [perform_refuse haccepts]
      exact h
    | true =>
      rw [perform_accept haccepts]
      exact ⟨h.generations_eq, h.newest, Nat.le_of_eq (accepts_iff.1 haccepts)⟩

/-- The history of a run is in order. -/
theorem ordered_run (catalog : Catalog) (vocabulary : Vocabulary) (steps : List Step) :
    (run catalog vocabulary steps).Ordered := by
  induction steps using List.reverseRecOn with
  | nil => exact ordered_start catalog vocabulary
  | append_singleton past step ih =>
    rw [run_concat]
    exact ih.perform catalog step

/-- The last generation that was handed out is that of the session. -/
theorem Ordered.getLast?_eq (h : history.Ordered) :
    (history.asked.map Prod.fst).getLast? = some history.session.generation := by
  rw [h.generations_eq, List.range_succ, List.getLast?_concat]

/-- Each generation stands for a single query. -/
theorem Ordered.query_unique (h : history.Ordered) {other : Query}
    (hquery : (generation, query) ∈ history.asked) (hother : (generation, other) ∈ history.asked) :
    query = other := by
  have hdistinct : (history.asked.map Prod.fst).Nodup := by
    rw [h.generations_eq]
    exact List.nodup_range
  exact congrArg Prod.snd (List.inj_on_of_nodup_map hdistinct hquery hother rfl)

/-- No step goes back to results of an older generation. -/
theorem Ordered.shown_le_perform (h : history.Ordered) (catalog : Catalog) (step : Step) :
    history.shown ≤ (history.perform catalog step).shown := by
  cases step with
  | apply action =>
    rw [perform_apply]
    exact h.shown_le.trans (Nat.le_succ _)
  | begin action => exact Nat.le_refl _
  | accept generation results =>
    cases haccepts : history.session.accepts generation with
    | false => rw [perform_refuse haccepts]
    | true =>
      rw [perform_accept haccepts, accepts_iff.1 haccepts]
      exact h.shown_le

/-- From any place in a run to its end, the display never goes back to an older generation. -/
theorem shown_le_of_prefix {past : List Step} (hpast : past <+: steps) :
    (run catalog vocabulary past).shown ≤ (run catalog vocabulary steps).shown := by
  obtain ⟨later, rfl⟩ := hpast
  induction later using List.reverseRecOn with
  | nil => rw [List.append_nil]
  | append_singleton between step ih =>
    rw [← List.append_assoc, run_concat]
    exact ih.trans ((ordered_run catalog vocabulary _).shown_le_perform catalog step)

/-- Right after a step that brings in results for the newest generation, these are shown. -/
theorem shown_perform_of_answers {step : Step} (h : step.answers history.session = true) :
    (history.perform catalog step).shown = (history.perform catalog step).session.generation := by
  cases step with
  | apply action => rfl
  | begin action => exact absurd h (by simp [Step.answers])
  | accept generation results =>
    rw [perform_accept h]
    exact accepts_iff.1 h

/-- Once a step has brought in results for the newest generation, these are shown until the next
edit. -/
theorem shown_run_of_answers {past later : List Step} {step : Step}
    (hsteps : steps = past ++ step :: later) (hlater : edits later = [])
    (h : step.answers (Session.run catalog vocabulary past) = true) :
    (run catalog vocabulary steps).shown =
      (run catalog vocabulary steps).session.generation := by
  rw [← session_run] at h
  have hanswered : (run catalog vocabulary (past ++ [step])).shown =
      (run catalog vocabulary (past ++ [step])).session.generation := by
    rw [run_concat]
    exact shown_perform_of_answers h
  have hprefix : past ++ [step] <+: steps := ⟨later, by simp [hsteps]⟩
  have hmono : (run catalog vocabulary (past ++ [step])).shown ≤
      (run catalog vocabulary steps).shown := shown_le_of_prefix hprefix
  -- No further generation was handed out, so what is shown cannot be newer either.
  have hedits : edits steps = edits (past ++ [step]) := by
    rw [hsteps, List.append_cons, edits, List.filterMap_append, ← edits, ← edits, hlater,
      List.append_nil]
  have hgeneration : (run catalog vocabulary steps).session.generation =
      (run catalog vocabulary (past ++ [step])).session.generation := by
    rw [session_run, session_run, (consistent_run catalog vocabulary _).generation_eq,
      (consistent_run catalog vocabulary _).generation_eq, hedits]
  have hle := (ordered_run catalog vocabulary steps).shown_le
  omega

/-- What is on display is what the query of its generation asks for. -/
def Answered (catalog : Catalog) (history : History) : Prop :=
  ∃ query, (history.shown, query) ∈ history.asked ∧
    history.session.results = catalog.evaluate query

/-- A new session shows what its query asks for. -/
theorem answered_start (catalog : Catalog) (vocabulary : Vocabulary) :
    (start catalog vocabulary).Answered catalog :=
  ⟨{}, List.mem_singleton_self _, rfl⟩

/-- What is on display stays an answer if the step brings in an answer or nothing. -/
theorem Answered.perform (h : history.Answered catalog) {step : Step}
    (hstep : ∀ generation results, step = .accept generation results →
      history.session.accepts generation = true →
        ∃ query, (generation, query) ∈ history.asked ∧ results = catalog.evaluate query) :
    (history.perform catalog step).Answered catalog := by
  cases step with
  | apply action =>
    rw [perform_apply]
    exact ⟨_, List.mem_append_right _ (List.mem_singleton_self _), rfl⟩
  | begin action =>
    obtain ⟨query, hquery, hresults⟩ := h
    exact ⟨query, List.mem_append_left _ hquery, hresults⟩
  | accept generation results =>
    cases haccepts : history.session.accepts generation with
    | false =>
      rw [perform_refuse haccepts]
      exact h
    | true =>
      rw [perform_accept haccepts]
      exact hstep generation results rfl haccepts

end History

/-- Whether all results that are accepted in a run are those that the query of their generation asks
for, as it stood when the generation was handed out. -/
def Honest (catalog : Catalog) (vocabulary : Vocabulary) (steps : List Step) : Prop :=
  ∀ past generation results, past ++ [.accept generation results] <+: steps →
    (run catalog vocabulary past).accepts generation = true →
      ∃ query, (generation, query) ∈ (History.run catalog vocabulary past).asked ∧
        results = catalog.evaluate query

/-- In an honest run an answer is on display at any time. -/
theorem Honest.answered (h : Honest catalog vocabulary steps) :
    (History.run catalog vocabulary steps).Answered catalog := by
  induction steps using List.reverseRecOn with
  | nil => exact History.answered_start catalog vocabulary
  | append_singleton past step ih =>
    have hpast : Honest catalog vocabulary past := fun before generation results hbefore =>
      h before generation results (hbefore.trans (List.prefix_append _ _))
    rw [History.run_concat]
    refine (ih hpast).perform fun generation results hstep haccepts => ?_
    rw [History.session_run] at haccepts
    exact h past generation results (hstep ▸ List.prefix_rfl) haccepts

/-- The last query wins. After any steps of a session, results are accepted exactly if they come for
the generation that was handed out last, and no two generations are the same; refused results leave
the session as it is, and accepted ones change nothing but the results. So the display never goes
back to an older generation. If all results that are accepted are those that the query of their
generation asked for, then so are the ones on display; and they are what the present query asks for
as long as there was no edit, and once the last edit was evaluated at once or results were accepted
for it. -/
theorem last_query_wins (catalog : Catalog) (vocabulary : Vocabulary) (steps : List Step) :
    let session := run catalog vocabulary steps
    let history := History.run catalog vocabulary steps
    (∀ generation, session.accepts generation = true ↔
        (history.asked.map Prod.fst).getLast? = some generation) ∧
      (history.asked.map Prod.fst).Pairwise (· < ·) ∧
      (∀ generation results, session.accepts generation = false →
        session.accept generation results = session) ∧
      (∀ generation results, session.accepts generation = true →
        session.accept generation results = { session with results }) ∧
      (∀ past, past <+: steps → (History.run catalog vocabulary past).shown ≤ history.shown) ∧
      (Honest catalog vocabulary steps →
        (∃ query, (history.shown, query) ∈ history.asked ∧
          session.results = catalog.evaluate query) ∧
        (edits steps = [] → session.results = catalog.evaluate session.query) ∧
        ∀ past step later, steps = past ++ step :: later → edits later = [] →
          step.answers (run catalog vocabulary past) = true →
            session.results = catalog.evaluate session.query) := by
  intro session history
  have hsession : history.session = session := History.session_run catalog vocabulary steps
  have hordered : history.Ordered := History.ordered_run catalog vocabulary steps
  refine ⟨fun generation => ?_, ?_, fun generation results h => accept_of_not_accepts h results,
    fun generation results h => accept_of_accepts h results,
    fun past hpast => History.shown_le_of_prefix hpast, fun hhonest => ?_⟩
  · rw [accepts_iff, hordered.getLast?_eq, hsession, Option.some_inj, eq_comm]
  · rw [hordered.generations_eq]
    exact List.pairwise_lt_range
  · obtain ⟨query, hquery, hresults⟩ := hhonest.answered
    rw [History.session_run] at hresults
    -- Results shown for the newest generation go by the present query: it stands for no other.
    have hpresent (hshown : history.shown = history.session.generation) :
        session.results = catalog.evaluate session.query := by
      have hnewest := hordered.newest
      rw [← hshown, hsession] at hnewest
      rwa [hordered.query_unique hquery hnewest] at hresults
    refine ⟨⟨query, hquery, hresults⟩, fun hedits => hpresent ?_,
      fun past step later hsteps hlater hanswers => hpresent ?_⟩
    · have hgeneration : history.session.generation = 0 := by
        rw [hsession, (consistent_run catalog vocabulary steps).generation_eq, hedits,
          List.length_nil]
      have hle := hordered.shown_le
      omega
    · exact History.shown_run_of_answers hsteps hlater hanswers

/-- Two edits are under way when results come in for the first, too late, and then for the second:
the display goes by the second. -/
theorem last_query_wins_two_under_way :
    let catalog := Catalog.indexed publishedDeck Field.standard
    let query := (({} : Query).withZone .midnight false).withTag .predator true
    let steps := [.begin (.setZone .midnight false), .begin (.setTag .predator true),
      .accept 1 [], .accept 2 (catalog.evaluate query)]
    Honest catalog .standard steps ∧
      (run catalog .standard steps).results =
        catalog.evaluate (run catalog .standard steps).query := by
  intro catalog query steps
  have hhonest : Honest catalog .standard steps := by
    rintro past generation results ⟨later, hlater⟩ haccepts
    rcases past with _ | ⟨first, _ | ⟨second, _ | ⟨third, _ | ⟨fourth, past⟩⟩⟩⟩
    · simp [steps] at hlater
    · simp [steps] at hlater
    · obtain ⟨rfl, rfl, ⟨rfl, rfl⟩, rfl⟩ : _ ∧ _ ∧ (_ ∧ _) ∧ _ := by simpa [steps] using hlater
      exact absurd haccepts (by decide)
    · obtain ⟨rfl, rfl, rfl, ⟨rfl, rfl⟩, rfl⟩ : _ ∧ _ ∧ _ ∧ (_ ∧ _) ∧ _ := by
        simpa [steps] using hlater
      exact ⟨query, List.mem_append_right _ (List.mem_singleton_self _), rfl⟩
    · simp [steps] at hlater
  obtain ⟨-, -, -, -, -, hanswered⟩ := last_query_wins catalog .standard steps
  exact ⟨hhonest, (hanswered hhonest).2.2 (steps.take 3) _ [] rfl rfl rfl⟩

end Session
end ReefCards
