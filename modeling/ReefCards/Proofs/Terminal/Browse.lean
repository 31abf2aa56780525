import ReefCards.Proofs.Except
import ReefCards.Proofs.Search.NetEdits
import ReefCards.Proofs.Search.Tally
import ReefCards.Proofs.Text.Numeral
import ReefCards.Terminal.Browse

/-!
# Runs of browsing

What a session over lines of input prints. A line that is not understood is complained about and
leaves no other trace, but that a user at a terminal is asked for one more line; and nothing counts
after the line that ends the session. So the output is that of the lines which are understood up to
there: one screen for each, with the cards that the query asks for at that time. Main statements:
`loop_output`, `loop_understood` and `output_goes_by_understood_lines`.
-/

namespace ReefCards

variable {line : Text} {rest : List Text} {action : Action} {problem : LineProblem}

namespace LineRequest

/-- Whether a line ends the session: a colon and then the word `quit` or `q` alone. -/
def endsSession (line : Text) : Bool :=
  match line with
  | ':' :: command => Text.words command = ["quit".toList] || Text.words command = ["q".toList]
  | _ => false

/-- The action that a line asks for, if it is understood and does not end the session. -/
def action? (line : Text) : Option Action :=
  match ofLine line with
  | .ok (.act action) => some action
  | _ => none

/-- What is wrong with a line, if it is not understood. -/
def problem? (line : Text) : Option LineProblem :=
  match ofLine line with
  | .error problem => some problem
  | .ok _ => none

/-- A command is to quit exactly if it is one of two words. -/
theorem ofCommand_eq_quit_iff {command : Text} :
    ofCommand command = .ok .quit ↔
      Text.words command = ["quit".toList] ∨ Text.words command = ["q".toList] := by
  unfold ofCommand
  split
  · next verb hwords =>
    rw [hwords, List.singleton_inj, List.singleton_inj]
    split
    · next h => exact iff_of_true rfl h
    · next h => exact iff_of_false (by split_ifs <;> nofun) h
  · next verb name hwords => exact iff_of_false (by split_ifs <;> nofun) (by simp [hwords])
  · next verb name switch hwords =>
    -- Every command of three words that is understood sets a switch.
    refine iff_of_false (fun h => ?_) (by simp [hwords])
    split_ifs at h
    · obtain ⟨on, -, h⟩ := bind_eq_ok_iff.1 h
      cases h
    all_goals
      obtain ⟨value, -, h⟩ := bind_eq_ok_iff.1 h
      obtain ⟨on, -, h⟩ := bind_eq_ok_iff.1 h
      cases h
  · next hone htwo hthree =>
    exact iff_of_false nofun (by rintro (h | h) <;> exact hone _ h)

/-- A line is to quit exactly if it ends the session. -/
theorem ofLine_eq_quit_iff : ofLine line = .ok .quit ↔ endsSession line = true := by
  unfold ofLine endsSession
  split
  · simpa using ofCommand_eq_quit_iff
  · exact iff_of_false (by simp) (by simp)

end LineRequest

namespace Layout

/-- The line of a card holds its number and, cut to the width, its names. -/
theorem exists_cardLine_eq (colours : Bool) (width : Nat) (card : Card) :
    ∃ before between after : Text,
      cardLine colours width card = before ++ Text.decimal card.id ++ ". ".toList ++ between ++
        styledTitle colours (truncate (title card) (width - (idColumns + tailColumns))) ++
        after ++ ['\n'] := by
  have hplain : '\x1b' ∉ Text.padStart 4 (Text.decimal card.id) ++ ". ".toList := by
    have hdecimal : '\x1b' ∉ Text.decimal card.id := fun hmem =>
      absurd (Text.isDigit_of_mem_decimal hmem) (by decide)
    simp [Text.padStart, hdecimal]
  let available := width - (idColumns + tailColumns)
  let shown := truncate (title card) available
  let tail := card.group ++ ' ' :: Named.name card.size
  refine ⟨(if colours then (inColour .yellow).start else []) ++
      List.replicate (4 - (Text.decimal card.id).length) ' ',
    if colours then Text.Style.finish else [],
    List.replicate (available - Text.columns shown) ' ' ++
      dimmed.applyFitted colours (Text.padStart tailColumns) tail, ?_⟩
  rw [cardLine, Text.Style.apply_eq _ _ hplain, line]
  simp only [Text.padStart, List.append_assoc, available, shown, tail]

end Layout

namespace Browse

open LineRequest (action? problem? endsSession)

/-- The lines before the first that ends the session. -/
def untilQuit (lines : List Text) : List Text := lines.takeWhile fun line => !endsSession line

/-- The lines that count in a session: those before its end with which nothing is wrong. -/
def understood (lines : List Text) : List Text :=
  (untilQuit lines).filter fun line => (problem? line).isNone

/-- The session after the actions that lines ask for. -/
def sessionAfter (book : Encyclopedia) (lines : List Text) : Session :=
  .applied book.catalog book.vocabulary (lines.filterMap action?)

section Lines

/-- A line that ends the session makes the rest of the lines not count. -/
theorem untilQuit_cons_of_quit (h : LineRequest.ofLine line = .ok .quit) :
    untilQuit (line :: rest) = [] :=
  List.takeWhile_cons_of_neg (by simp [LineRequest.ofLine_eq_quit_iff.1 h])

/-- Any other line goes before those that count after it. -/
theorem untilQuit_cons (h : LineRequest.ofLine line ≠ .ok .quit) :
    untilQuit (line :: rest) = line :: untilQuit rest :=
  List.takeWhile_cons_of_pos (by simpa using mt LineRequest.ofLine_eq_quit_iff.2 h)

/-- No line is understood after the end of the session. -/
theorem understood_cons_of_quit (h : LineRequest.ofLine line = .ok .quit) :
    understood (line :: rest) = [] := by
  rw [understood, untilQuit_cons_of_quit h, List.filter_nil]

/-- A line that asks for an action is understood. -/
theorem understood_cons_of_act (h : LineRequest.ofLine line = .ok (.act action)) :
    understood (line :: rest) = line :: understood rest := by
  rw [understood, untilQuit_cons (by rw [h]; nofun),
    List.filter_cons_of_pos (by simp [problem?, h]), ← understood]

/-- A line with which something is wrong is not understood. -/
theorem understood_cons_of_error (h : LineRequest.ofLine line = .error problem) :
    understood (line :: rest) = understood rest := by
  rw [understood, untilQuit_cons (by rw [h]; nofun),
    List.filter_cons_of_neg (by simp [problem?, h]), ← understood]

/-- A line that is understood asks for an action. -/
theorem exists_action_of_mem_understood {lines : List Text} (h : line ∈ understood lines) :
    ∃ action, LineRequest.ofLine line = .ok (.act action) := by
  obtain ⟨hmem, hproblem⟩ := List.mem_filter.1 h
  have hquit : LineRequest.ofLine line ≠ .ok .quit := by
    rw [Ne, LineRequest.ofLine_eq_quit_iff]
    simpa using List.mem_takeWhile_imp hmem
  rcases hline : LineRequest.ofLine line with problem | (_ | action)
  · simp [problem?, hline] at hproblem
  · exact absurd hline hquit
  · exact ⟨action, rfl⟩

/-- None of the lines that are understood ends the session. -/
theorem untilQuit_understood (lines : List Text) :
    untilQuit (understood lines) = understood lines := by
  refine List.takeWhile_eq_self_iff.2 fun line hline => ?_
  obtain ⟨action, haction⟩ := exists_action_of_mem_understood hline
  have hquit : LineRequest.ofLine line ≠ .ok .quit := by
    rw [haction]
    nofun
  simpa using mt LineRequest.ofLine_eq_quit_iff.2 hquit

/-- Nothing is wrong with the lines that are understood. -/
theorem filterMap_problem?_understood (lines : List Text) :
    (understood lines).filterMap problem? = [] := by
  refine List.filterMap_eq_nil_iff.2 fun line hline => ?_
  obtain ⟨action, haction⟩ := exists_action_of_mem_understood hline
  rw [problem?, haction]

end Lines

section Replies

variable {lines past : List Text} (shown : List Text → Text)

/-- What is shown in reply to the last of the lines so far: a screen if it is understood, and
otherwise nothing. -/
def reply (past : List Text) : Text :=
  if (past.getLast?.bind action?).isSome then shown past else []

/-- The beginnings of a list, without the empty one, are its first item by itself and then the
beginnings of the rest after that item. -/
theorem flatMap_inits_tail_cons {α β : Type} (f : List α → List β) (item : α) (items : List α) :
    (item :: items).inits.tail.flatMap f =
      f [item] ++ items.inits.tail.flatMap fun past => f (item :: past) := by
  have hinits : items.inits = [] :: items.inits.tail := by cases items <;> rfl
  rw [List.inits_cons, List.tail_cons, hinits, List.map_cons, List.flatMap_cons, List.flatMap_map,
    List.tail_cons]

/-- A beginning of a list, other than the empty one, has a last item, which is of the list. -/
theorem exists_getLast?_of_mem_inits_tail {α : Type} {items start : List α}
    (h : start ∈ items.inits.tail) : ∃ item ∈ items, start.getLast? = some item := by
  cases items with
  | nil => cases h
  | cons item others =>
    rw [List.inits_cons, List.tail_cons, List.mem_map] at h
    obtain ⟨rest, hrest, rfl⟩ := h
    have hprefix : item :: rest <+: item :: others :=
      (List.prefix_cons_inj item).2 ((List.mem_inits rest others).1 hrest)
    exact ⟨_, hprefix.mem (List.getLast_mem _), List.getLast?_eq_getLast_of_ne_nil
      (List.cons_ne_nil item rest)⟩

/-- The replies after a first line are those to the rest, as they are shown after that line. -/
theorem flatMap_reply_cons (asked : Text) (line : Text) (lines : List Text) :
    (line :: lines).inits.tail.flatMap (fun past => asked ++ reply shown past) =
      asked ++ reply shown [line] ++ lines.inits.tail.flatMap
        fun past => asked ++ reply (fun past => shown (line :: past)) past := by
  rw [flatMap_inits_tail_cons]
  congr 1
  refine List.flatMap_congr fun past hpast => ?_
  obtain ⟨last, -, hlast⟩ := exists_getLast?_of_mem_inits_tail hpast
  rw [reply, reply, List.getLast?_cons, hlast, Option.getD_some]

/-- Every line that is understood has its screen. -/
theorem reply_of_mem_understood (h : past ∈ (understood lines).inits.tail) :
    reply shown past = shown past := by
  obtain ⟨last, hmem, hlast⟩ := exists_getLast?_of_mem_inits_tail h
  obtain ⟨action, haction⟩ := exists_action_of_mem_understood hmem
  rw [reply, hlast, Option.bind_some, action?, haction]
  rfl

end Replies

section Run

variable (colours interactive : Bool) (width : Nat) (book : Encyclopedia) (session : Session)

/-- A line that ends the session prints nothing, and neither does what comes after it. -/
theorem loop_cons_of_quit (h : LineRequest.ofLine line = .ok .quit) :
    loop colours interactive width book session (line :: rest) = (prompt interactive, []) := by
  rw [loop, h]

/-- A line that asks for an action prints a screen before what comes after it. -/
theorem loop_cons_of_act (h : LineRequest.ofLine line = .ok (.act action)) :
    loop colours interactive width book session (line :: rest) =
      (prompt interactive ++ screen colours width book (session.apply book.catalog action) ++
          (loop colours interactive width book (session.apply book.catalog action) rest).1,
        (loop colours interactive width book (session.apply book.catalog action) rest).2) := by
  rw [loop, h]

/-- A line that is not understood is complained about and passed over. -/
theorem loop_cons_of_error (h : LineRequest.ofLine line = .error problem) :
    loop colours interactive width book session (line :: rest) =
      (prompt interactive ++ (loop colours interactive width book session rest).1,
        Layout.line problem.message ++
          (loop colours interactive width book session rest).2) := by
  rw [loop, h]

/-- The output is a prompt and then the reply for each line up to the end of the session, and one
more prompt. -/
theorem loop_output (lines : List Text) :
    (loop colours interactive width book session lines).1 =
      (untilQuit lines).inits.tail.flatMap (fun past => prompt interactive ++
        reply (fun past => screen colours width book
          ((past.filterMap action?).foldl (Session.apply book.catalog) session)) past) ++
        prompt interactive := by
  induction lines generalizing session with
  | nil => rfl
  | cons line rest ih =>
    rcases h : LineRequest.ofLine line with problem | (_ | action)
    · have haction : action? line = none := by rw [action?, h]
      rw [loop_cons_of_error colours interactive width book session h,
        untilQuit_cons (by rw [h]; nofun), flatMap_reply_cons, ih]
      simp [reply, haction]
    · rw [loop_cons_of_quit colours interactive width book session h, untilQuit_cons_of_quit h]
      rfl
    · have haction : action? line = some action := by rw [action?, h]
      rw [loop_cons_of_act colours interactive width book session h,
        untilQuit_cons (by rw [h]; nofun), flatMap_reply_cons, ih]
      simp [reply, haction]

/-- The complaints are those about the lines before the end of the session that are not understood,
one for each and in their order. -/
theorem loop_complaints (lines : List Text) :
    (loop colours interactive width book session lines).2 =
      ((untilQuit lines).filterMap problem?).flatMap
        fun problem => Layout.line problem.message := by
  induction lines generalizing session with
  | nil => rfl
  | cons line rest ih =>
    rcases h : LineRequest.ofLine line with problem | (_ | action)
    · have hproblem : problem? line = some problem := by rw [problem?, h]
      rw [loop_cons_of_error colours interactive width book session h,
        untilQuit_cons (by rw [h]; nofun), List.filterMap_cons_some hproblem, List.flatMap_cons,
        ← ih]
    · rw [loop_cons_of_quit colours interactive width book session h, untilQuit_cons_of_quit h]
      rfl
    · have hproblem : problem? line = none := by rw [problem?, h]
      rw [loop_cons_of_act colours interactive width book session h,
        untilQuit_cons (by rw [h]; nofun), List.filterMap_cons_none hproblem, ← ih]

/-- The lines that are understood print a prompt and a screen each by themselves, and no
complaints. -/
theorem loop_of_understood (lines : List Text) :
    loop colours interactive width book session (understood lines) =
      ((understood lines).inits.tail.flatMap (fun past => prompt interactive ++
        screen colours width book
          ((past.filterMap action?).foldl (Session.apply book.catalog) session)) ++
        prompt interactive, []) := by
  refine Prod.ext ?_ ?_
  · rw [loop_output, untilQuit_understood]
    congr 1
    refine List.flatMap_congr fun past hpast => ?_
    rw [reply_of_mem_understood _ hpast]
  · rw [loop_complaints, untilQuit_understood, filterMap_problem?_understood, List.flatMap_nil]

/-- Away from a terminal, the lines that are understood make the same output by themselves. -/
theorem loop_understood (lines : List Text) :
    (loop colours false width book session (understood lines)).1 =
      (loop colours false width book session lines).1 := by
  induction lines generalizing session with
  | nil => rfl
  | cons line rest ih =>
    rcases h : LineRequest.ofLine line with problem | (_ | action)
    · rw [understood_cons_of_error h, ih, loop_cons_of_error colours false width book session h]
      rfl
    · rw [understood_cons_of_quit h, loop_cons_of_quit colours false width book session h]
      rfl
    · rw [understood_cons_of_act h, loop_cons_of_act colours false width book session h,
        loop_cons_of_act colours false width book session h, ih]

end Run

/-- While the results of its query are on display, a session shows the cards that these are the
numbers of, and how many there are. -/
theorem screen_eq (colours : Bool) (width : Nat) (book : Encyclopedia) {session : Session}
    (h : session.results = book.catalog.evaluate session.query) :
    screen colours width book session =
      "search: ".toList ++ Piece.renderAll book.vocabulary session.box.pieces ++ ['\n'] ++
        (book.catalog.wanted session.query).flatMap (Layout.cardLine colours width) ++
        Text.decimal (book.catalog.wanted session.query).length ++ " cards\n".toList := by
  have hcards : book.catalog.cardsFor session.results = book.catalog.wanted session.query := by
    rw [h, Catalog.cardsFor, Catalog.filterMap_find?_evaluate]
  rw [screen, hcards]
  simp [Layout.line, Layout.cards]

/-- Browsing goes by the lines that are understood. Where the input comes from no terminal, the
output is the same without the lines that are not understood and without all from the first that
ends the session, and it is a screen for each line that is left. At a terminal the output is a
greeting, then a prompt for each line before the end of the session with a screen behind it if the
line is understood, and a last prompt; without the lines that are not understood it lacks their
prompts and nothing else. In either case each line before the end of the session which is not
understood makes one complaint, and every other asks for an action. A screen shows the search text,
then a line for each of the cards of the deck whose numbers the query of the session at that time
evaluates to, with that number, and then how many these are. -/
theorem output_goes_by_understood_lines (colours : Bool) (width : Nat) (book : Encyclopedia)
    (lines : List Text) :
    let piped := run colours false width book
    let typed := run colours true width book
    let shown (past : List Text) := screen colours width book (sessionAfter book past)
    let welcome : Text := "Type to search. Commands: :icon NAME, :back, :clear, ".toList ++
      ":group|:size|:zone|:tag NAME on|off, :reset, :quit".toList ++ ['\n']
    (piped (understood lines) = ((piped lines).1, []) ∧
        (piped lines).1 = (understood lines).inits.tail.flatMap shown) ∧
      ((typed lines).1 = welcome ++ (untilQuit lines).inits.tail.flatMap
          (fun past => "> ".toList ++ reply shown past) ++ "> ".toList ∧
        typed (understood lines) = (welcome ++ (understood lines).inits.tail.flatMap
          (fun past => "> ".toList ++ shown past) ++ "> ".toList, [])) ∧
      (∀ interactive, (run colours interactive width book lines).2 =
        ((untilQuit lines).filterMap problem?).flatMap
          fun problem => problem.message ++ ['\n']) ∧
      (∀ line ∈ understood lines, ∃ action, LineRequest.ofLine line = .ok (.act action)) ∧
      ∀ past, ∃ cards : List Card,
        (∀ card ∈ cards, card ∈ book.catalog.deck.cards) ∧
          cards.map Card.id = book.catalog.evaluate (sessionAfter book past).query ∧
          shown past = "search: ".toList ++
            Piece.renderAll book.vocabulary (sessionAfter book past).box.pieces ++ ['\n'] ++
            cards.flatMap (Layout.cardLine colours width) ++
            Text.decimal cards.length ++ " cards\n".toList ∧
          ∀ card ∈ cards, ∃ before between after : Text,
            Layout.cardLine colours width card = before ++ Text.decimal card.id ++
              ". ".toList ++ between ++ Layout.styledTitle colours (Layout.truncate
                (Layout.title card) (width - (Layout.idColumns + Layout.tailColumns))) ++
              after ++ ['\n'] := by
  intro piped typed shown welcome
  have hshown : shown = fun past => screen colours width book
      ((past.filterMap action?).foldl (Session.apply book.catalog) book.session) :=
    funext fun past => congrArg (screen colours width book) (Session.applied_eq_foldl _ _ _)
  have halone (interactive : Bool) : run colours interactive width book (understood lines) =
      (greeting interactive ++ (understood lines).inits.tail.flatMap
        (fun past => prompt interactive ++ shown past) ++ prompt interactive, []) := by
    simp only [run, loop_of_understood, hshown, List.append_assoc]
  have hpiped : (piped (understood lines)).1 = (piped lines).1 :=
    loop_understood colours width book book.session lines
  refine ⟨⟨?_, ?_⟩, ⟨?_, halone true⟩,
    fun interactive => loop_complaints colours interactive width book book.session lines,
    fun line hline => exists_action_of_mem_understood hline, fun past => ?_⟩
  · rw [← hpiped]
    exact Prod.ext rfl (congrArg Prod.snd (halone false) :)
  · rw [← hpiped]
    simpa [greeting, prompt] using congrArg Prod.fst (halone false)
  · have hwelcome : greeting true = welcome := rfl
    simp only [typed, run, loop_output, ← hwelcome, hshown, List.append_assoc]
    rfl
  · have hresults : (sessionAfter book past).results =
        book.catalog.evaluate (sessionAfter book past).query := Session.results_applied _ _ _
    exact ⟨book.catalog.wanted (sessionAfter book past).query,
      fun card hcard => List.mem_of_mem_filter hcard, (Catalog.evaluate_eq_map _ _).symm,
      screen_eq colours width book hresults, fun card _ => Layout.exists_cardLine_eq colours width card⟩

/-- At a terminal the output tells of a line that is not understood by one more prompt. A line ends
the session also where a blank stands beside the word `quit`, and no complaint is made after it. -/
theorem prompt_follows_line_not_understood :
    let book : Encyclopedia := { catalog := .indexed publishedDeck Field.standard }
    let fly : Text := ":fly"
    let leave : Text := ":quit "
    understood [fly] = [] ∧
      (run false true 100 book [fly]).1 = greeting true ++ "> > ".toList ∧
      (run false true 100 book (understood [fly])).1 = greeting true ++ "> ".toList ∧
      (run false true 100 book [fly]).1 ≠ (run false true 100 book (understood [fly])).1 ∧
      (∀ line ∈ [leave, fly], line ≠ ":quit".toList ∧ line ≠ ":q".toList) ∧
      problem? fly = some (.unknownCommand "fly") ∧
      (run false false 100 book [leave, fly]).2 = [] := by
  decide +kernel

end Browse
end ReefCards
