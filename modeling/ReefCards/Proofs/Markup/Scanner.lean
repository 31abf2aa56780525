import ReefCards.Proofs.Markup.Partition
import ReefCards.Proofs.Text.Slice

/-!
# The scan by byte positions

A text can be scanned in a loop over its bytes that keeps two positions: where shapes are tried
next, and where the characters before it that fit no shape began. Text is cut out between positions,
which fails inside a character. `Stands` says what the two positions and the fragments found so far
must be; every round of the loop goes on and keeps it. Main statements: `position_lt_of_step?`,
`Stands.exists_step?`, `Stands.run?_eq` and `loop_partitions_text`.
-/

namespace ReefCards

open Text (byteSize slice? IsBoundary)

/-- A scan under way. -/
structure Scanner where
  /-- The byte position where shapes are tried next. -/
  position : Nat
  /-- The byte position where the characters that fit no shape began. -/
  strayFrom : Nat
  found : List Fragment
  deriving DecidableEq, Repr

namespace Scanner

/-- A scan that has not begun. -/
def start : Scanner := ⟨0, 0, []⟩

/-- The shape at the start of a text, and the number of bytes that it takes. -/
def hit? (rows : Bool) (rest : Text) : Option (Shape × Nat) :=
  (Shape.read? rows rest).map fun found => (found.1, byteSize rest - byteSize found.2)

/-- The text between two positions as a fragment without a shape, if there is any. -/
def stray? (text : Text) (start stop : Nat) : Option (List Fragment) :=
  if start < stop then (slice? text start stop).map fun source => [⟨none, source⟩] else some []

/-- The number of bytes of the first character, or one where there is none. -/
def firstSize (rest : Text) : Nat := (rest.head?.map Char.utf8Size).getD 1

/-- One round of the loop, or nothing where text is to be cut out inside a character. A shape that
takes no bytes does not count. -/
def step? (rows : Bool) (text : Text) (scanner : Scanner) : Option Scanner :=
  (slice? text scanner.position (byteSize text)).bind fun rest =>
    match (hit? rows rest).filter fun hit => 0 < hit.2 with
    | some (shape, size) =>
      (stray? text scanner.strayFrom scanner.position).bind fun stray =>
        (slice? rest 0 size).map fun source =>
          ⟨scanner.position + size, scanner.position + size,
            scanner.found ++ stray ++ [⟨some shape, source⟩]⟩
    | none => some { scanner with position := scanner.position + firstSize rest }

/-- A character has at least one byte. -/
theorem firstSize_pos (rest : Text) : 0 < firstSize rest := by
  cases rest with
  | nil => exact Nat.one_pos
  | cons c rest => exact c.utf8Size_pos

/-- Every round advances, wherever the scan stands. -/
theorem position_lt_of_step? {rows : Bool} {text : Text} {scanner next : Scanner}
    (h : step? rows text scanner = some next) : scanner.position < next.position := by
  obtain ⟨rest, -, h⟩ := Option.bind_eq_some_iff.1 h
  split at h
  · next shape size hhit =>
    have hsize : 0 < size := by simpa using (Option.filter_eq_some_iff.1 hhit).2
    obtain ⟨stray, -, h⟩ := Option.bind_eq_some_iff.1 h
    obtain ⟨source, -, rfl⟩ := Option.map_eq_some_iff.1 h
    exact Nat.lt_add_of_pos_right hsize
  · obtain rfl := Option.some.inj h
    exact Nat.lt_add_of_pos_right (firstSize_pos rest)

/-- The fragments that are found until the text ends, or nothing where text is to be cut out inside
a character. -/
def run? (rows : Bool) (text : Text) (scanner : Scanner) : Option (List Fragment) :=
  if scanner.position < byteSize text then
    match _h : step? rows text scanner with
    | some next => run? rows text next
    | none => none
  else (stray? text scanner.strayFrom (byteSize text)).map fun stray => scanner.found ++ stray
termination_by byteSize text - scanner.position
decreasing_by
  have := position_lt_of_step? _h
  omega

/-- The scans that the loop comes to. -/
inductive Reaches (rows : Bool) (text : Text) : Scanner → Prop where
  | start : Reaches rows text start
  | step {scanner next : Scanner} (h : Reaches rows text scanner)
      (hmore : scanner.position < byteSize text) (hstep : step? rows text scanner = some next) :
      Reaches rows text next

/-- Where a scan stands: the text is what is cut up already, what fits no shape, and the rest. The
fragments found are those of the scan of the whole text, up to the ones still to come. -/
structure Stands (rows : Bool) (text past stray rest : Text) (scanner : Scanner) : Prop where
  whole : text = past ++ (stray ++ rest)
  strayFrom_eq : scanner.strayFrom = byteSize past
  position_eq : scanner.position = byteSize (past ++ stray)
  found_append : scanner.found ++ stray.foldr Fragment.pushStray (Fragment.scan rows rest) =
    Fragment.scan rows text

variable {rows : Bool} {c : Char} {text past stray rest source : Text} {shape : Shape}
  {scanner next : Scanner}

/-- What fits no shape as a fragment, if there is any. -/
def strayFragment (stray : Text) : List Fragment := if stray = [] then [] else [⟨none, stray⟩]

/-- What fits no shape makes a fragment of its own before fragments that begin with a shape. -/
theorem foldr_pushStray_eq {fragments : List Fragment} (stray : Text)
    (h : ¬ Fragment.BeginsStray fragments) :
    stray.foldr Fragment.pushStray fragments = strayFragment stray ++ fragments := by
  by_cases hstray : stray = []
  · rw [strayFragment, if_pos hstray, hstray]
    rfl
  · rw [strayFragment, if_neg hstray, Fragment.foldr_pushStray hstray h]
    rfl

/-- The text between two boundaries is cut out as a fragment, if there is any. -/
theorem stray?_eq (past stray rest : Text) :
    stray? (past ++ (stray ++ rest)) (byteSize past) (byteSize (past ++ stray)) =
      some (strayFragment stray) := by
  have hslice : slice? (past ++ (stray ++ rest)) (byteSize past) (byteSize (past ++ stray)) =
      some stray := Text.slice?_eq_some_iff.2 ⟨past, rest, rfl, rfl, rfl⟩
  have hlt : byteSize past < byteSize (past ++ stray) ↔ stray ≠ [] := by
    rw [Text.byteSize_append, Nat.lt_add_right_iff_pos, Text.byteSize_pos_iff]
  rw [stray?, hslice, strayFragment]
  by_cases hstray : stray = []
  · rw [if_neg (mt hlt.1 (not_not_intro hstray)), if_pos hstray]
  · rw [if_pos (hlt.2 hstray), if_neg hstray]
    rfl

/-- The loop begins at the start of the text. -/
theorem stands_start (rows : Bool) (text : Text) : Stands rows text [] [] text start :=
  ⟨rfl, rfl, rfl, rfl⟩

/-- Both positions of a scan are places where the text can be cut. -/
theorem Stands.isBoundary (h : Stands rows text past stray rest scanner) :
    IsBoundary text scanner.position ∧ IsBoundary text scanner.strayFrom := by
  rw [h.position_eq, h.strayFrom_eq, h.whole]
  exact ⟨Text.isBoundary_iff.2 ⟨past ++ stray, rest, (List.append_assoc _ _ _).symm, rfl⟩,
    Text.isBoundary_iff.2 ⟨past, stray ++ rest, rfl, rfl⟩⟩

/-- The rest is what is cut out from the position on. -/
theorem Stands.slice?_eq (h : Stands rows text past stray rest scanner) :
    slice? text scanner.position (byteSize text) = some rest := by
  rw [h.position_eq, h.whole]
  exact Text.slice?_eq_some_iff.2 ⟨past ++ stray, [], by simp, rfl, by simp⟩

/-- The text is at its end exactly if nothing is left. -/
theorem Stands.position_lt_iff (h : Stands rows text past stray rest scanner) :
    scanner.position < byteSize text ↔ rest ≠ [] := by
  rw [h.position_eq, h.whole, ← List.append_assoc, Text.byteSize_append (past ++ stray),
    Nat.lt_add_right_iff_pos, Text.byteSize_pos_iff]

/-- The characters that fit no shape are cut out between the two positions. -/
theorem Stands.stray?_eq (h : Stands rows text past stray rest scanner) :
    stray? text scanner.strayFrom scanner.position = some (strayFragment stray) := by
  rw [h.strayFrom_eq, h.position_eq, h.whole, Scanner.stray?_eq]

/-- A shape takes the bytes of its source. -/
theorem hit?_append (hread : Shape.read? rows (source ++ rest) = some (shape, rest)) :
    hit? rows (source ++ rest) = some (shape, byteSize source) := by
  rw [hit?, hread, Text.byteSize_append, Option.map_some, Nat.add_sub_cancel]

/-- Where a shape begins, the characters before it and its source become fragments. -/
theorem Stands.step?_shape (h : Stands rows text past stray (source ++ rest) scanner)
    (hread : Shape.read? rows (source ++ rest) = some (shape, rest)) :
    ∃ next, step? rows text scanner = some next ∧
      Stands rows text (past ++ (stray ++ source)) [] rest next := by
  have hsource : 0 < byteSize source := by
    rw [Text.byteSize_pos_iff]
    rintro rfl
    exact absurd (Shape.length_lt_of_read? rows _ _ hread) (Nat.lt_irrefl _)
  have hhit : (hit? rows (source ++ rest)).filter (fun hit => 0 < hit.2) =
      some (shape, byteSize source) := by
    rw [hit?_append hread, Option.filter_some_pos (by simpa using hsource)]
  have hcut : slice? (source ++ rest) 0 (byteSize source) = some source :=
    Text.slice?_eq_some_iff.2 ⟨[], rest, rfl, rfl, rfl⟩
  have hposition : scanner.position + byteSize source = byteSize (past ++ (stray ++ source)) := by
    rw [h.position_eq, ← Text.byteSize_append, List.append_assoc]
  refine ⟨⟨scanner.position + byteSize source, scanner.position + byteSize source,
    scanner.found ++ strayFragment stray ++ [⟨some shape, source⟩]⟩, ?_, ?_⟩
  · simp only [step?, h.slice?_eq, Option.bind_some, hhit, h.stray?_eq, hcut, Option.map_some]
  · refine ⟨?_, hposition, by rwa [List.append_nil], ?_⟩
    · simp [h.whole]
    · -- The characters before the shape are a fragment of their own, as what follows begins with it.
      have hbegins : ¬ Fragment.BeginsStray (Fragment.scan rows (source ++ rest)) :=
        Fragment.not_beginsStray_scan (by simp [hread])
      have hfound := h.found_append
      rw [foldr_pushStray_eq stray hbegins, Fragment.scan_append hread] at hfound
      rw [← hfound]
      simp

/-- Where no shape begins, the next character joins those that fit none. -/
theorem Stands.step?_stray (h : Stands rows text past stray (c :: rest) scanner)
    (hread : Shape.read? rows (c :: rest) = none) :
    ∃ next, step? rows text scanner = some next ∧
      Stands rows text past (stray ++ [c]) rest next := by
  have hhit : hit? rows (c :: rest) = none := by rw [hit?, hread, Option.map_none]
  refine ⟨{ scanner with position := scanner.position + c.utf8Size }, ?_, ?_⟩
  · simp only [step?, h.slice?_eq, Option.bind_some, hhit, Option.filter_none]
    rfl
  · refine ⟨?_, h.strayFrom_eq, ?_, ?_⟩
    · simp [h.whole]
    · simp [h.position_eq, Nat.add_assoc]
    · rw [List.foldr_append, ← h.found_append, Fragment.scan_cons hread]
      rfl

/-- As long as text is left, a round goes on and leaves less of it. -/
theorem Stands.exists_step? (h : Stands rows text past stray rest scanner) (hrest : rest ≠ []) :
    ∃ next, step? rows text scanner = some next ∧ ∃ past' stray' rest',
      Stands rows text past' stray' rest' next ∧ rest'.length < rest.length := by
  obtain ⟨c, others, rfl⟩ := List.exists_cons_of_ne_nil hrest
  cases hread : Shape.read? rows (c :: others) with
  | some found =>
    obtain ⟨shape, after⟩ := found
    have hshort := Shape.length_lt_of_read? rows _ _ hread
    obtain ⟨source, heq, -⟩ := Shape.spells_of_read? hread
    rw [heq] at h hread
    obtain ⟨next, hstep, hnext⟩ := h.step?_shape hread
    exact ⟨next, hstep, _, _, after, hnext, hshort⟩
  | none =>
    obtain ⟨next, hstep, hnext⟩ := h.step?_stray hread
    exact ⟨next, hstep, _, _, others, hnext, Nat.lt_succ_self _⟩

/-- From wherever the scan stands, the loop ends with the fragments of the whole text. -/
theorem Stands.run?_eq (h : Stands rows text past stray rest scanner) :
    run? rows text scanner = some (Fragment.scan rows text) := by
  -- What is left of the text gets shorter with every round, whichever way the round goes.
  induction hsize : rest.length using Nat.strongRecOn generalizing past stray rest scanner with
  | ind size ih =>
    subst hsize
    rw [run?]
    by_cases hrest : rest = []
    · rw [if_neg (mt h.position_lt_iff.1 (not_not_intro hrest))]
      subst hrest
      have hend : byteSize text = scanner.position := by
        rw [h.position_eq, h.whole, List.append_nil]
      have hbegins : ¬ Fragment.BeginsStray (Fragment.scan rows []) := by
        simp [Fragment.BeginsStray]
      have hfound := h.found_append
      rw [foldr_pushStray_eq stray hbegins, Fragment.scan_nil, List.append_nil] at hfound
      rw [hend, h.stray?_eq, Option.map_some, hfound]
    · obtain ⟨next, hstep, past', stray', rest', hnext, hshort⟩ := h.exists_step? hrest
      rw [if_pos (h.position_lt_iff.2 hrest)]
      split
      · next found hfound =>
        obtain rfl := Option.some.inj (hstep.symm.trans hfound)
        exact ih _ hshort hnext rfl
      · next hnone => exact absurd (hstep.symm.trans hnone) (by simp)

/-- Every scan that the loop comes to stands somewhere in the text. -/
theorem Reaches.stands (h : Reaches rows text scanner) :
    ∃ past stray rest, Stands rows text past stray rest scanner := by
  induction h with
  | start => exact ⟨[], [], text, stands_start rows text⟩
  | step h hmore hstep ih =>
    obtain ⟨past, stray, rest, hstands⟩ := ih
    obtain ⟨next, hnext, past', stray', rest', hstands', -⟩ :=
      hstands.exists_step? (hstands.position_lt_iff.1 hmore)
    obtain rfl := Option.some.inj (hnext.symm.trans hstep)
    exact ⟨past', stray', rest', hstands'⟩

/-- The loop goes through any text, with rows or without, and cuts it up in the only way there is:
every round succeeds and advances, from one place between characters to another, and the fragments
are in the end those of the scan. -/
theorem loop_partitions_text (rows : Bool) (text : Text) :
    (∀ scanner, Reaches rows text scanner →
      IsBoundary text scanner.position ∧ IsBoundary text scanner.strayFrom ∧
        (scanner.position < byteSize text →
          ∃ next, step? rows text scanner = some next ∧ scanner.position < next.position)) ∧
      run? rows text start = some (Fragment.scan rows text) ∧
      Fragment.IsPartition rows text (Fragment.scan rows text) ∧
      ∀ fragments, Fragment.IsPartition rows text fragments →
        fragments = Fragment.scan rows text := by
  refine ⟨fun scanner hreaches => ?_, (stands_start rows text).run?_eq,
    Fragment.isPartition_scan rows text, fun fragments h => h.eq_scan⟩
  obtain ⟨past, stray, rest, hstands⟩ := hreaches.stands
  refine ⟨hstands.isBoundary.1, hstands.isBoundary.2, fun hmore => ?_⟩
  obtain ⟨next, hstep, -⟩ := hstands.exists_step? (hstands.position_lt_iff.1 hmore)
  exact ⟨next, hstep, position_lt_of_step? hstep⟩

end Scanner
end ReefCards
