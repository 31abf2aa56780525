import ReefCards.Markup.Fragment
import Mathlib.Data.List.TakeWhile

/-!
# How shapes are written

Each shape of a markup text as a grammar: `Shape.Spells` says which texts a shape may be written as.
Each kind of shapes has a reader, which agrees with the grammar, and a scan cuts a text into such
spellings and stray characters. Main statements: `Shape.read?_eq_findSome?`,
`Shape.spells_of_read?` and `scan_induction`, which follows a text from fragment to fragment.
-/

namespace ReefCards

namespace Shape

/-- The kinds of shapes. -/
inductive Kind where
  | row
  | points
  | plain
  | icon
  deriving DecidableEq, Repr

/-- The kind of a shape. -/
def kind : Shape → Kind
  | row _ => .row
  | points _ => .points
  | plain => .plain
  | icon _ => .icon

/-- The kinds in the order in which they are tried, with rows or without. -/
def Kind.order (rows : Bool) : List Kind :=
  [.row, .points, .plain, .icon].filter fun kind => rows || kind != .row

/-- The shape of a kind at the start of a text, and the text after it. -/
def Kind.read? (kind : Kind) (text : Text) : Option (Shape × Text) :=
  match kind with
  | .row => (row? text).map fun found => (.row found.1, found.2)
  | .points => (points? text).map fun found => (.points found.1, found.2)
  | .plain => (plain? text).map fun rest => (.plain, rest)
  | .icon => (icon? text).map fun found => (.icon found.1, found.2)

/-- Whether a text may stand between brackets as a name. -/
def IsName (name : Text) : Prop := name ≠ [] ∧ ∀ c ∈ name, isNameChar c = true

/-- Whether a text is a name is decided by its characters. -/
instance (name : Text) : Decidable (IsName name) :=
  decidable_of_iff (name ≠ [] ∧ name.all isNameChar = true) (by rw [List.all_eq_true, IsName])

/-- The texts that join names to a bracketed name before them: for each name a plus sign with any
blanks on its two sides, and the name in brackets. -/
inductive Joined : List Text → Text → Prop where
  | nil : Joined [] []
  | cons {before behind name source : Text} {names : List Text}
      (hbefore : ∀ c ∈ before, Text.isBlank c = true)
      (hbehind : ∀ c ∈ behind, Text.isBlank c = true) (hname : IsName name)
      (hrest : Joined names source) :
      Joined (name :: names) (before ++ '+' :: (behind ++ (bracketed name ++ source)))

/-- The texts that a shape is written as. -/
inductive Spells : Shape → Text → Prop where
  | row {name source : Text} {names : List Text} (hname : IsName name) (hnames : names ≠ [])
      (hjoined : Joined names source) : Spells (.row (name :: names)) (bracketed name ++ source)
  | points {digits space : Text} (hdigits : digits ≠ []) (hall : ∀ c ∈ digits, c.isDigit = true)
      (hspace : space = [] ∨ space = [' ']) :
      Spells (.points digits) (digits ++ (space ++ bracketed Vocabulary.wave))
  | plain {source : Text} (hsource : source ≠ []) (hall : ∀ c ∈ source, isPlainChar c = true) :
      Spells .plain source
  | icon {name : Text} (hname : IsName name) : Spells (.icon name) (bracketed name)

variable {name rest text : Text}

/-- The names that are joined are names. -/
theorem Joined.isName {names : List Text} {source : Text} (h : Joined names source) :
    ∀ name ∈ names, IsName name := by
  induction h with
  | nil => simp
  | cons hbefore hbehind hname hrest ih => exact List.forall_mem_cons.2 ⟨hname, ih⟩

/-- A closing bracket stands in no name. -/
theorem isNameChar_close : isNameChar ']' = false := by decide

/-- A name is read back from between its brackets. -/
theorem icon?_bracketed_append (hname : IsName name) (rest : Text) :
    icon? (bracketed name ++ rest) = some (name, rest) := by
  obtain ⟨hne, hall⟩ := hname
  cases name with
  | nil => exact absurd rfl hne
  | cons first others =>
    rw [bracketed_append, icon?, List.takeWhile_append_of_pos hall,
      List.dropWhile_append_of_pos hall]
    simp [isNameChar_close]

/-- An icon is a name between brackets. -/
theorem icon?_eq_some_iff :
    icon? text = some (name, rest) ↔ IsName name ∧ text = bracketed name ++ rest := by
  constructor
  · intro h
    unfold icon? at h
    split at h
    · next inner =>
      split at h
      · next first others after htake hdrop =>
        obtain ⟨rfl, rfl⟩ := Prod.mk.inj (Option.some.inj h)
        refine ⟨⟨by simp, ?_⟩, ?_⟩
        · intro c hc
          exact List.mem_takeWhile_imp (htake ▸ hc)
        · rw [← List.takeWhile_append_dropWhile (p := isNameChar) (l := inner), htake, hdrop,
            bracketed_append]
      · simp at h
    · simp at h
  · rintro ⟨hname, rfl⟩
    exact icon?_bracketed_append hname rest

/-- A joined name comes after a plus sign with blanks on its two sides. -/
theorem exists_of_joined? (h : joined? text = some (name, rest)) :
    ∃ before behind : Text, (∀ c ∈ before, Text.isBlank c = true) ∧
      (∀ c ∈ behind, Text.isBlank c = true) ∧ IsName name ∧
      text = before ++ '+' :: (behind ++ (bracketed name ++ rest)) := by
  unfold joined? at h
  split at h
  · next inner hdrop =>
    obtain ⟨hname, hinner⟩ := icon?_eq_some_iff.1 h
    refine ⟨text.takeWhile Text.isBlank, inner.takeWhile Text.isBlank,
      fun c hc => List.mem_takeWhile_imp hc, fun c hc => List.mem_takeWhile_imp hc, hname, ?_⟩
    rw [← hinner, List.takeWhile_append_dropWhile, ← hdrop, List.takeWhile_append_dropWhile]
  · simp at h

/-- The names that are read as joined are joined in the text. -/
theorem exists_of_joinedNames (text : Text) :
    ∃ source, text = source ++ (joinedNames text).2 ∧ Joined (joinedNames text).1 source := by
  fun_induction joinedNames text with
  | case1 text _ => exact ⟨[], rfl, .nil⟩
  | case2 text name rest h names after hnames ih =>
    obtain ⟨before, behind, hbefore, hbehind, hname, rfl⟩ := exists_of_joined? h
    obtain ⟨source, hsource, hjoined⟩ := ih
    rw [hnames] at hsource hjoined
    exact ⟨_, by simp [hsource], .cons hbefore hbehind hname hjoined⟩

/-- A row is read from one of its spellings. -/
theorem spells_of_row? {names : List Text} (h : row? text = some (names, rest)) :
    ∃ source, text = source ++ rest ∧ Spells (.row names) source := by
  unfold row? at h
  split at h
  · next name inner hicon =>
    obtain ⟨hname, rfl⟩ := icon?_eq_some_iff.1 hicon
    obtain ⟨source, hsource, hjoined⟩ := exists_of_joinedNames inner
    split at h
    · simp at h
    · next others after hne hread =>
      obtain ⟨rfl, rfl⟩ := Prod.mk.inj (Option.some.inj h)
      rw [hread] at hsource hjoined
      refine ⟨bracketed name ++ source, by simp [hsource], .row hname ?_ hjoined⟩
      rintro rfl
      exact hne rfl
  · simp at h

/-- One space at most is skipped. -/
theorem exists_eq_append_skipSpace (text : Text) :
    ∃ space : Text, (space = [] ∨ space = [' ']) ∧ text = space ++ skipSpace text := by
  unfold skipSpace
  split
  · exact ⟨[' '], .inr rfl, rfl⟩
  · exact ⟨[], .inl rfl, rfl⟩

/-- Points are read from one of their spellings. -/
theorem spells_of_points? {digits : Text} (h : points? text = some (digits, rest)) :
    ∃ source, text = source ++ rest ∧ Spells (.points digits) source := by
  unfold points? at h
  dsimp only at h
  split at h
  · simp at h
  · next hempty =>
    obtain ⟨after, hafter, heq⟩ := Option.map_eq_some_iff.1 h
    obtain ⟨rfl, rfl⟩ := Prod.mk.inj heq
    obtain ⟨space, hspace, hsplit⟩ := exists_eq_append_skipSpace (text.dropWhile Char.isDigit)
    rw [Text.eq_append_of_after? hafter] at hsplit
    refine ⟨_, ?_, .points (by simpa using hempty) (fun c hc => List.mem_takeWhile_imp hc) hspace⟩
    calc text = text.takeWhile Char.isDigit ++ text.dropWhile Char.isDigit :=
          List.takeWhile_append_dropWhile.symm
      _ = _ := by rw [hsplit]; simp

/-- Plain words are read from one of their spellings. -/
theorem spells_of_plain? (h : plain? text = some rest) :
    ∃ source, text = source ++ rest ∧ Spells .plain source := by
  unfold plain? at h
  split at h
  · next c tail =>
    split at h
    · next hc =>
      obtain rfl := Option.some.inj h
      refine ⟨c :: tail.takeWhile isPlainChar, ?_, .plain (by simp) ?_⟩
      · rw [List.cons_append, List.takeWhile_append_dropWhile]
      · intro d hd
        rcases List.mem_cons.1 hd with rfl | hd
        · exact hc
        · exact List.mem_takeWhile_imp hd
    · simp at h
  · simp at h

/-- The kinds are tried in their order. -/
theorem read?_eq_findSome? (rows : Bool) (text : Text) :
    read? rows text = (Kind.order rows).findSome? fun kind => kind.read? text := by
  have hcons (first : Kind) (others : List Kind) :
      ((first :: others).findSome? fun kind => kind.read? text) =
        (first.read? text).or (others.findSome? fun kind => kind.read? text) := by
    rw [List.findSome?_cons]
    cases first.read? text <;> rfl
  have hfalse : Kind.order false = [.points, .plain, .icon] := rfl
  have htrue : Kind.order true = .row :: Kind.order false := rfl
  cases rows with
  | false =>
    rw [hfalse, hcons, hcons, hcons]
    simp [read?, Kind.read?]
  | true =>
    rw [htrue, hcons, hfalse, hcons, hcons, hcons]
    simp [read?, Kind.read?]

namespace Kind

/-- A reader finds shapes of its kind, in one of their spellings. -/
theorem spells_of_read? {kind : Kind} {shape : Shape}
    (h : kind.read? text = some (shape, rest)) :
    shape.kind = kind ∧ ∃ source, text = source ++ rest ∧ shape.Spells source := by
  cases kind with
  | row =>
    obtain ⟨⟨names, after⟩, hrow, heq⟩ := Option.map_eq_some_iff.1 h
    obtain ⟨rfl, rfl⟩ := Prod.mk.inj heq
    exact ⟨rfl, spells_of_row? hrow⟩
  | points =>
    obtain ⟨⟨digits, after⟩, hpoints, heq⟩ := Option.map_eq_some_iff.1 h
    obtain ⟨rfl, rfl⟩ := Prod.mk.inj heq
    exact ⟨rfl, spells_of_points? hpoints⟩
  | plain =>
    obtain ⟨after, hplain, heq⟩ := Option.map_eq_some_iff.1 h
    obtain ⟨rfl, rfl⟩ := Prod.mk.inj heq
    exact ⟨rfl, spells_of_plain? hplain⟩
  | icon =>
    obtain ⟨⟨name, after⟩, hicon, heq⟩ := Option.map_eq_some_iff.1 h
    obtain ⟨rfl, rfl⟩ := Prod.mk.inj heq
    obtain ⟨hname, htext⟩ := icon?_eq_some_iff.1 hicon
    exact ⟨rfl, bracketed name, htext, .icon hname⟩

end Kind

/-- A shape is read from one of its spellings. -/
theorem spells_of_read? {rows : Bool} {shape : Shape} (h : read? rows text = some (shape, rest)) :
    ∃ source, text = source ++ rest ∧ Spells shape source := by
  rw [read?_eq_findSome?, List.findSome?_eq_some_iff] at h
  obtain ⟨-, kind, -, -, hread, -⟩ := h
  exact (Kind.spells_of_read? hread).2

end Shape

namespace Fragment

variable {rows : Bool} {rest source : Text}

/-- The empty text has no fragments. -/
@[simp]
theorem scan_nil : scan rows [] = [] := by rw [scan]

/-- A text that begins with a shape has its spelling as the first fragment. -/
theorem scan_append {shape : Shape} (h : Shape.read? rows (source ++ rest) = some (shape, rest)) :
    scan rows (source ++ rest) = ⟨some shape, source⟩ :: scan rows rest := by
  -- The scan takes the source as the part of the text that the rest does not account for.
  have hlt := Shape.length_lt_of_read? rows _ _ h
  have hsource : (source ++ rest).take ((source ++ rest).length - rest.length) = source := by
    simp
  generalize htext : source ++ rest = text at h hlt hsource
  cases text with
  | nil => simp at hlt
  | cons c tail =>
    rw [scan]
    split
    · next found after hfound =>
      obtain ⟨rfl, rfl⟩ := Prod.mk.inj (Option.some.inj (hfound.symm.trans h))
      rw [hsource]
    · next hnone => exact absurd (hnone.symm.trans h) (by simp)

/-- A character that begins no shape is stray. -/
theorem scan_cons {c : Char} (h : Shape.read? rows (c :: rest) = none) :
    scan rows (c :: rest) = pushStray c (scan rows rest) := by
  rw [scan]
  split
  · next hfound => exact absurd (h.symm.trans hfound) (by simp)
  · rfl

/-- A statement holds of every text if it holds of the empty one and passes from the rest of a text
to the text, where the rest comes after a shape or after a stray character. -/
theorem scan_induction (rows : Bool) {motive : Text → Prop} (nil : motive [])
    (shape : ∀ shape source rest, Shape.read? rows (source ++ rest) = some (shape, rest) →
      Shape.Spells shape source → motive rest → motive (source ++ rest))
    (stray : ∀ c rest, Shape.read? rows (c :: rest) = none → motive rest → motive (c :: rest))
    (text : Text) : motive text := by
  induction hsize : text.length using Nat.strongRecOn generalizing text with
  | ind size ih =>
    subst hsize
    cases text with
    | nil => exact nil
    | cons c tail =>
      cases h : Shape.read? rows (c :: tail) with
      | none => exact stray c tail h (ih _ (by simp) tail rfl)
      | some found =>
        obtain ⟨first, rest⟩ := found
        have hlt := Shape.length_lt_of_read? rows _ _ h
        obtain ⟨source, heq, hspells⟩ := Shape.spells_of_read? h
        rw [heq] at h ⊢
        exact shape first source rest h hspells (ih _ hlt rest rfl)

/-- Of fragments with a stray character before them, those with a shape were there before. -/
theorem mem_of_mem_pushStray {c : Char} {fragment : Fragment} {fragments : List Fragment}
    {shape : Shape} (hmem : fragment ∈ pushStray c fragments)
    (hshape : fragment.shape = some shape) : fragment ∈ fragments := by
  have hstray (source : Text) : fragment ≠ ⟨none, source⟩ := by
    rintro rfl
    exact absurd hshape (by simp)
  rcases fragments with _ | ⟨⟨_ | first, source⟩, others⟩
  · exact absurd (List.mem_singleton.1 hmem) (hstray [c])
  · rcases List.mem_cons.1 hmem with heq | hmem
    · exact absurd heq (hstray (c :: source))
    · exact List.mem_cons_of_mem _ hmem
  · rcases List.mem_cons.1 hmem with heq | hmem
    · exact absurd heq (hstray [c])
    · exact hmem

/-- Every fragment of a text that has a shape is a spelling of it. -/
theorem spells_of_mem_scan {text : Text} {fragment : Fragment} {shape : Shape}
    (hmem : fragment ∈ scan rows text) (hshape : fragment.shape = some shape) :
    shape.Spells fragment.source := by
  induction text using scan_induction rows with
  | nil => exact absurd hmem (by simp)
  | shape first source rest hread hspells ih =>
    rw [scan_append hread] at hmem
    rcases List.mem_cons.1 hmem with rfl | hmem
    · obtain rfl := Option.some.inj hshape
      exact hspells
    · exact ih hmem
  | stray c rest hread ih =>
    rw [scan_cons hread] at hmem
    exact ih (mem_of_mem_pushStray hmem hshape)

end Fragment
end ReefCards
