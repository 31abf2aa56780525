import ReefCards.Proofs.SearchBox.Closing
import ReefCards.Proofs.SearchBox.Sanitize

/-!
# Runs of a search box

Any sequence of edits, cursor moves and backspaces on an empty search box. Edits go through the
sanitizer and backspaces do not, so a backspace within a token may leave an unknown one. Main
statement: `isClean_run_iff`, a run stays clean exactly as long as, after each of its backspaces,
the first token that ends to the right of the cursor is known.
-/

namespace ReefCards

/-- A text is clean when the sanitizer leaves it as it is and shows only icons of the vocabulary. -/
def IsClean (vocabulary : Vocabulary) (text : Text) : Prop :=
  sanitize vocabulary text = text ∧
    ∀ name, .icon name ∈ Piece.ofText text → name ∈ vocabulary

variable {vocabulary : Vocabulary} {text : Text}

/-- A text is clean when all its icon names are in the vocabulary. -/
theorem isClean_iff : IsClean vocabulary text ↔ ∀ name ∈ iconNames text, name ∈ vocabulary := by
  simp only [IsClean, sanitize_eq_self_iff, mem_iconNames, and_self]

/-- The empty text is clean. -/
theorem isClean_nil (vocabulary : Vocabulary) : IsClean vocabulary [] :=
  isClean_iff.2 (by simp [iconNames_of_not_mem])

/-- A sanitized text is clean. -/
theorem isClean_sanitize (vocabulary : Vocabulary) (raw : Text) :
    IsClean vocabulary (sanitize vocabulary raw) :=
  ⟨sanitize_sanitize raw, (sanitize_eq_self_iff _).1 (sanitize_sanitize raw)⟩

/-- Two texts make a clean one together when the icons of both are known that lie in one of them,
and so is the one that ends with the first closing bracket of the second. -/
theorem isClean_append_iff (left right : Text) :
    IsClean vocabulary (left ++ right) ↔
      IsClean vocabulary left ∧ (∀ name, tokenAhead? left right = some name → name ∈ vocabulary) ∧
        IsClean vocabulary (afterFirstClose right) := by
  simp only [isClean_iff, iconNames_append, List.forall_mem_append, Option.mem_toList,
    and_assoc]

/-- The text before the rest of a clean text is clean. -/
theorem IsClean.of_append {left right : Text} (h : IsClean vocabulary (left ++ right)) :
    IsClean vocabulary left :=
  ((isClean_append_iff left right).1 h).1

/-- What a backspace keeps of the text before the cursor when a complete token ends there: the text
before a bracketed name that is not empty and holds no bracket of either kind. -/
theorem beforeTrailingToken?_eq_some_iff {kept : Text} :
    beforeTrailingToken? text = some kept ↔
      ∃ name, name ≠ [] ∧ '[' ∉ name ∧ ']' ∉ name ∧ text = kept ++ bracketed name := by
  constructor
  · intro h
    unfold beforeTrailingToken? at h
    split at h
    · next rest hrest =>
      dsimp only at h
      split at h
      · next first others before htake hdrop =>
        obtain rfl := Option.some.inj h
        have hinner : ∀ c ∈ first :: others, c ≠ '[' ∧ c ≠ ']' := by
          intro c hc
          have := List.mem_takeWhile_imp (htake ▸ hc)
          simpa using this
        refine ⟨(first :: others).reverse, by simp, ?_, ?_, ?_⟩
        · intro hmem
          exact (hinner _ (List.mem_reverse.1 hmem)).1 rfl
        · intro hmem
          exact (hinner _ (List.mem_reverse.1 hmem)).2 rfl
        · -- Read from the end, the text is the closing bracket, the name and the opening bracket.
          have hsplit := List.takeWhile_append_dropWhile
            (p := fun c => c != '[' && c != ']') (l := rest)
          rw [htake, hdrop] at hsplit
          rw [← List.reverse_reverse text, hrest, ← hsplit]
          simp [bracketed]
      · simp at h
    · simp at h
  · rintro ⟨name, hname, hopen, hclose, rfl⟩
    have hinner : ∀ c ∈ name.reverse, (c != '[' && c != ']') = true := by
      intro c hc
      rw [List.mem_reverse] at hc
      have hne₁ : c ≠ '[' := fun heq => hopen (heq ▸ hc)
      have hne₂ : c ≠ ']' := fun heq => hclose (heq ▸ hc)
      simp [hne₁, hne₂]
    have hrev : (kept ++ bracketed name).reverse =
        ']' :: (name.reverse ++ '[' :: kept.reverse) := by simp [bracketed]
    have hne : name.reverse ≠ [] := by simpa using hname
    obtain ⟨last, others, hlast⟩ := List.exists_cons_of_ne_nil hne
    unfold beforeTrailingToken?
    split
    · next rest hrest =>
      obtain rfl := (List.cons.inj (hrev.symm.trans hrest)).2
      dsimp only
      rw [List.takeWhile_append_of_pos hinner, List.dropWhile_append_of_pos hinner, hlast]
      simp
    · next hnone => exact absurd hrev (hnone _)

/-- A backspace cuts a piece off the end of the text before the cursor. -/
theorem exists_backspace_eq (text : Text) (cursor : Nat) :
    ∃ kept removed, text.take cursor = kept ++ removed ∧
      backspace text cursor = (kept ++ text.drop cursor, kept.length) := by
  cases h : beforeTrailingToken? (text.take cursor) with
  | none =>
    obtain ⟨removed, hremoved⟩ := List.dropLast_prefix (text.take cursor)
    exact ⟨_, removed, hremoved.symm, by simp [backspace, h]⟩
  | some kept =>
    obtain ⟨name, -, -, -, hname⟩ := beforeTrailingToken?_eq_some_iff.1 h
    exact ⟨kept, bracketed name, hname, by simp [backspace, h]⟩

namespace SearchBox

/-- What a user does to a search box. -/
inductive Edit where
  /-- The search box gets this new content. -/
  | type (raw : Text)
  | insertIcon (name : Text)
  | deleteBack
  | moveTo (cursor : Nat)
  | clear
  deriving DecidableEq, Repr

/-- The box after one thing that the user does. -/
def perform (box : SearchBox) : Edit → SearchBox
  | .type raw => box.edit raw
  | .insertIcon name => box.insertIcon name
  | .deleteBack => box.deleteBack
  | .moveTo cursor => box.moveTo cursor
  | .clear => box.clear

/-- The box after all that the user does. -/
def run (box : SearchBox) (edits : List Edit) : SearchBox := edits.foldl perform box

/-- The name of the first token that ends to the right of the cursor. -/
def nameAhead? (box : SearchBox) : Option Text :=
  tokenAhead? (box.text.take box.cursor) (box.text.drop box.cursor)

/-- The last thing done comes after the run so far. -/
theorem run_concat (box : SearchBox) (edits : List Edit) (edit : Edit) :
    box.run (edits ++ [edit]) = (box.run edits).perform edit := by
  rw [run, List.foldl_append]
  rfl

/-- Nothing that a user does changes the vocabulary. -/
theorem vocabulary_perform (box : SearchBox) (edit : Edit) :
    (box.perform edit).vocabulary = box.vocabulary := by
  cases edit <;> rfl

/-- The vocabulary stays the same throughout a run. -/
theorem vocabulary_run (box : SearchBox) (edits : List Edit) :
    (box.run edits).vocabulary = box.vocabulary := by
  induction edits using List.reverseRecOn with
  | nil => rfl
  | append_singleton past edit ih => rw [run_concat, vocabulary_perform, ih]

/-- A backspace cuts a piece off the end of what stands before the cursor. -/
theorem exists_deleteBack_eq (box : SearchBox) :
    ∃ kept removed, box.text.take box.cursor = kept ++ removed ∧
      box.deleteBack.text = kept ++ box.text.drop box.cursor ∧
      box.deleteBack.cursor = kept.length := by
  obtain ⟨kept, removed, htake, heq⟩ := exists_backspace_eq box.text box.cursor
  exact ⟨kept, removed, htake, by simp [deleteBack, heq], by simp [deleteBack, heq]⟩

/-- A backspace on a clean content leaves a clean one exactly if the first token that then ends to
the right of the cursor is known. -/
theorem isClean_deleteBack_iff (box : SearchBox) (h : IsClean vocabulary box.text) :
    IsClean vocabulary box.deleteBack.text ↔
      ∀ name, box.deleteBack.nameAhead? = some name → name ∈ vocabulary := by
  obtain ⟨kept, removed, htake, htext, hcursor⟩ := box.exists_deleteBack_eq
  have hwhole : box.text = kept ++ (removed ++ box.text.drop box.cursor) := by
    rw [← List.append_assoc, ← htake, List.take_append_drop]
  -- The icons before the cursor and those after the next closing bracket were there before.
  have hkept : IsClean vocabulary kept := by
    rw [hwhole] at h
    exact h.of_append
  have hrest : IsClean vocabulary (afterFirstClose (box.text.drop box.cursor)) := by
    rw [← List.take_append_drop box.cursor box.text, isClean_append_iff] at h
    exact h.2.2
  -- So all that can be new is the token that reaches across the cursor.
  rw [nameAhead?, htext, hcursor, List.take_left, List.drop_left, isClean_append_iff]
  simp [hkept, hrest]

/-- Whatever a user does but a backspace, a clean content stays clean. -/
theorem isClean_perform (box : SearchBox) (h : IsClean box.vocabulary box.text) (edit : Edit)
    (hedit : edit ≠ .deleteBack) : IsClean box.vocabulary (box.perform edit).text := by
  cases edit with
  | type raw => exact isClean_sanitize box.vocabulary raw
  | insertIcon name => exact isClean_sanitize box.vocabulary (insertToken box.text name)
  | deleteBack => exact absurd rfl hedit
  | moveTo cursor => exact h
  | clear => exact isClean_nil box.vocabulary

/-- A run on an empty search box stays clean, after each thing done, exactly if after each of its
backspaces the first token that ends to the right of the cursor is known. -/
theorem isClean_run_iff (vocabulary : Vocabulary) (edits : List Edit) :
    (∀ past, past <+: edits → IsClean vocabulary ((empty vocabulary).run past).text) ↔
      ∀ past, past ++ [.deleteBack] <+: edits → ∀ name,
        ((empty vocabulary).run (past ++ [.deleteBack])).nameAhead? = some name →
          name ∈ vocabulary := by
  constructor
  · intro hclean past hpast
    have hbefore := hclean past ((List.prefix_append _ _).trans hpast)
    have hafter := hclean _ hpast
    rw [run_concat] at hafter ⊢
    exact (isClean_deleteBack_iff _ hbefore).1 hafter
  · -- Cleanness passes along the run from each thing done to the next.
    intro hahead past
    induction past using List.reverseRecOn with
    | nil =>
      intro _
      exact isClean_nil vocabulary
    | append_singleton past edit ih =>
      intro hpast
      have hbefore := ih ((List.prefix_append _ _).trans hpast)
      rw [run_concat]
      by_cases hedit : edit = .deleteBack
      · subst hedit
        have := hahead past hpast
        rw [run_concat] at this
        exact (isClean_deleteBack_iff _ hbefore).2 this
      · have hvocabulary : ((empty vocabulary).run past).vocabulary = vocabulary :=
          vocabulary_run _ past
        have := isClean_perform ((empty vocabulary).run past) (by rwa [hvocabulary]) edit hedit
        rwa [hvocabulary] at this

/-- A backspace within a token may leave an unknown one: after `[Predator]` with the cursor behind
its third character, the box shows the icon `Pedator`, which the sanitizer would remove. -/
theorem not_isClean_of_backspace_within_token :
    let box := (empty .standard).run [.type "[Predator]", .moveTo 3, .deleteBack]
    box.text = "[Pedator]".toList ∧ box.pieces = [.icon "Pedator"] ∧
      sanitize .standard box.text = [] ∧ ¬ IsClean .standard box.text := by
  intro box
  have htext : box.text = "[Pedator]".toList := by decide +kernel
  have hsanitize : sanitize .standard box.text = [] := by decide +kernel
  refine ⟨htext, by decide +kernel, hsanitize, fun hclean => ?_⟩
  have hempty : box.text = [] := hclean.1.symm.trans hsanitize
  rw [htext] at hempty
  exact absurd hempty (by decide)

end SearchBox
end ReefCards
