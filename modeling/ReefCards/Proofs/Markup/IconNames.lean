import ReefCards.Proofs.Markup.Spaced
import ReefCards.Proofs.SearchBox.Run

/-!
# Icons in markup and in the search box

Markup groups its icons with digits and into rows, but loses none: `iconNames_parseWith` says that
the icons of its segments are the bracketed names of the text, from left to right. The search box
takes more for a token, anything up to the next closing bracket. Where all its tokens are names, as
they are in a sanitized text, it shows the icons that markup shows. Main statement:
`iconNames_sanitize_eq_markup`.
-/

namespace ReefCards

variable {rows : Bool} {c : Char} {rest source text name : Text}

/-- The bracketed names of a text, from left to right. -/
def bracketedNames (text : Text) : List Text :=
  match text with
  | [] => []
  | c :: rest =>
    match _h : Shape.icon? (c :: rest) with
    | some (name, after) => name :: bracketedNames after
    | none => bracketedNames rest
termination_by text.length
decreasing_by
  · exact Shape.length_lt_of_icon? _ _ _h
  · simp

/-- The empty text has no bracketed names. -/
@[simp]
theorem bracketedNames_nil : bracketedNames [] = [] := by rw [bracketedNames]

/-- A bracketed name at the start of a text is its first. -/
theorem bracketedNames_bracketed_append (hname : Shape.IsName name) (rest : Text) :
    bracketedNames (bracketed name ++ rest) = name :: bracketedNames rest := by
  have hicon := Shape.icon?_bracketed_append hname rest
  rw [bracketed_append] at hicon ⊢
  rw [bracketedNames]
  split
  · next heq =>
    obtain ⟨rfl, rfl⟩ := Prod.mk.inj (Option.some.inj (hicon.symm.trans heq))
    rfl
  · next heq => exact absurd (hicon.symm.trans heq) (by simp)

/-- A character that begins no bracketed name goes before the same names. -/
theorem bracketedNames_cons (h : Shape.icon? (c :: rest) = none) :
    bracketedNames (c :: rest) = bracketedNames rest := by
  rw [bracketedNames]
  split
  · next heq => exact absurd (h.symm.trans heq) (by simp)
  · rfl

/-- A text without opening brackets goes before the same names. -/
theorem bracketedNames_append_of_not_mem (h : '[' ∉ source) (rest : Text) :
    bracketedNames (source ++ rest) = bracketedNames rest := by
  induction source with
  | nil => rfl
  | cons c others ih =>
    obtain ⟨hc, hothers⟩ := not_or.1 (mt List.mem_cons.2 h)
    rw [List.cons_append, bracketedNames_cons (Shape.icon?_cons_of_ne (Ne.symm hc) _), ih hothers]

namespace Shape

/-- The names of the icons that a shape holds. -/
def names : Shape → List Text
  | .row names => names
  | .points _ => [Vocabulary.wave]
  | .plain => []
  | .icon name => [name]

/-- No opening bracket is among blanks. -/
theorem open_not_mem_of_blank (h : ∀ c ∈ source, Text.isBlank c = true) : '[' ∉ source :=
  fun hmem => ne_open_of_blank (h '[' hmem) rfl

/-- No opening bracket is among plain characters. -/
theorem open_not_mem_of_plain (h : ∀ c ∈ source, isPlainChar c = true) : '[' ∉ source :=
  fun hmem => absurd (h '[' hmem) (by simp [isPlainChar_open])

/-- The bracketed names of a joined text are the names that it joins. -/
theorem Joined.bracketedNames_append {names : List Text} (h : Joined names source) (rest : Text) :
    bracketedNames (source ++ rest) = names ++ bracketedNames rest := by
  induction h with
  | nil => rfl
  | @cons before behind name source names hbefore hbehind hname hrest ih =>
    have hplus : '[' ∉ before ++ '+' :: behind := by
      simp [open_not_mem_of_blank hbefore, open_not_mem_of_blank hbehind]
    calc bracketedNames (before ++ '+' :: (behind ++ (bracketed name ++ source)) ++ rest)
        = bracketedNames (before ++ '+' :: behind ++ (bracketed name ++ (source ++ rest))) := by
          simp only [List.append_assoc, List.cons_append]
      _ = name :: bracketedNames (source ++ rest) := by
          rw [bracketedNames_append_of_not_mem hplus, bracketedNames_bracketed_append hname]
      _ = name :: names ++ bracketedNames rest := by rw [ih, List.cons_append]

/-- The bracketed names of a spelling are those of its shape. -/
theorem Spells.bracketedNames_append {shape : Shape} (h : shape.Spells source) (rest : Text) :
    bracketedNames (source ++ rest) = shape.names ++ bracketedNames rest := by
  cases h with
  | row hname hnames hjoined =>
    rw [List.append_assoc, bracketedNames_bracketed_append hname, hjoined.bracketedNames_append]
    rfl
  | @points digits space hdigits hall hspace =>
    have hplain := open_not_mem_of_plain (isPlainChar_of_mem_digits hall hspace)
    rw [← List.append_assoc digits, List.append_assoc, bracketedNames_append_of_not_mem hplain,
      bracketedNames_bracketed_append isName_wave]
    rfl
  | plain hsource hall => exact bracketedNames_append_of_not_mem (open_not_mem_of_plain hall) rest
  | icon hname => exact bracketedNames_bracketed_append hname rest

end Shape

/-- The name of the icon that an atom shows, if it is no text; points show the icon for points. -/
def Atom.iconName? : Atom → Option Text
  | .text _ => none
  | .icon name => some name
  | .points _ => some Vocabulary.wave

/-- The names of the icons that a segment shows, from left to right. -/
def Segment.iconNames : Segment → List Text
  | .atom single => single.iconName?.toList
  | .row icons => icons.filterMap Atom.iconName?

/-- The atom of a name shows the icon with this name, be it the icon for points or another. -/
@[simp]
theorem Atom.iconName?_ofName (name : Text) : (Atom.ofName name).iconName? = some name := by
  unfold Atom.ofName
  split
  · next h => rw [h, iconName?]
  · rfl

/-- Words show no icons. -/
theorem Segment.flatMap_iconNames_ofWords? (source : Text) :
    (ofWords? source).toList.flatMap iconNames = [] := by
  unfold ofWords?
  dsimp only
  split <;> rfl

namespace Fragment

/-- A fragment shows the icons of its shape. -/
theorem flatMap_iconNames_segment? (shape : Shape) (source : Text) :
    (segment? ⟨some shape, source⟩).toList.flatMap Segment.iconNames = shape.names := by
  cases shape with
  | row names => simp [segment?, Segment.iconNames, Shape.names, List.filterMap_map]
  | points digits => rfl
  | plain => exact Segment.flatMap_iconNames_ofWords? source
  | icon name => simp [segment?, Segment.iconNames, Shape.names]

/-- A stray character adds no icon to those of the fragments after it. -/
theorem flatMap_iconNames_pushStray (c : Char) (fragments : List Fragment) :
    ((pushStray c fragments).filterMap segment?).flatMap Segment.iconNames =
      (fragments.filterMap segment?).flatMap Segment.iconNames := by
  have hstray (source : Text) :
      (segment? ⟨none, source⟩).toList.flatMap Segment.iconNames = [] :=
    Segment.flatMap_iconNames_ofWords? source
  simp only [List.filterMap_eq_flatMap_toList, List.flatMap_assoc]
  rcases fragments with _ | ⟨⟨_ | shape, source⟩, others⟩ <;>
    simp only [pushStray, List.flatMap_cons, List.flatMap_nil, hstray, List.nil_append]

end Fragment

/-- The icons of markup, read with rows or without, are the bracketed names of its text from left to
right: digits before an icon and rows of icons are layout. -/
theorem iconNames_parseWith (rows : Bool) (text : Text) :
    (parseWith rows text).flatMap Segment.iconNames = bracketedNames text := by
  induction text using Fragment.scan_induction rows with
  | nil => simp [parseWith]
  | shape shape source rest hread hspells ih =>
    rw [parseWith_append hread, List.flatMap_append, ih, Fragment.flatMap_iconNames_segment?,
      hspells.bracketedNames_append]
  | stray c rest hread ih =>
    rw [parseWith, Fragment.scan_cons hread, Fragment.flatMap_iconNames_pushStray, ← parseWith, ih,
      bracketedNames_cons (Shape.read?_cons_eq_none_iff.1 hread).2]

/-- No closing bracket stands in a name. -/
theorem Shape.IsName.close_not_mem (h : IsName name) : ']' ∉ name :=
  fun hmem => absurd (h.2 ']' hmem) (by simp [isNameChar_close])

/-- Where no token of the search box begins, no bracketed name does. -/
theorem Shape.icon?_eq_none_of_token? (h : token? text = none) : icon? text = none := by
  rw [Option.eq_none_iff_forall_ne_some]
  rintro ⟨name, after⟩ hicon
  obtain ⟨hname, rfl⟩ := icon?_eq_some_iff.1 hicon
  rw [token?_bracketed_append hname.1 hname.close_not_mem] at h
  exact absurd h (by simp)

/-- A search text whose tokens are all names has its bracketed names as icons. -/
theorem iconNames_eq_bracketedNames (h : ∀ name ∈ iconNames text, Shape.IsName name) :
    iconNames text = bracketedNames text := by
  induction text using token_induction with
  | nil => simp [iconNames, Piece.ofText]
  | token name after hname hclose ih =>
    rw [iconNames_bracketed_append hname hclose] at h ⊢
    obtain ⟨hisName, hafter⟩ := List.forall_mem_cons.1 h
    rw [bracketedNames_bracketed_append hisName, ih hafter]
  | char c rest hnone ih =>
    rw [iconNames_cons hnone] at h ⊢
    rw [bracketedNames_cons (Shape.icon?_eq_none_of_token? hnone), ih h]

/-- The search box and markup read the same icons in a sanitized text, as long as the vocabulary
holds only names that markup can read; so every icon that markup shows in it is in the
vocabulary. -/
theorem iconNames_sanitize_eq_markup (vocabulary : Vocabulary)
    (hnames : ∀ name ∈ vocabulary, Shape.IsName name) (text : Text) :
    let clean := sanitize vocabulary text
    iconNames clean = (parse clean).flatMap Segment.iconNames ∧
      ∀ name ∈ (parse clean).flatMap Segment.iconNames, name ∈ vocabulary := by
  intro clean
  have hknown : ∀ name ∈ iconNames clean, name ∈ vocabulary :=
    isClean_iff.1 (isClean_sanitize vocabulary text)
  have hsame : iconNames clean = (parse clean).flatMap Segment.iconNames := by
    rw [parse, iconNames_parseWith]
    exact iconNames_eq_bracketedNames fun name hname => hnames name (hknown name hname)
  exact ⟨hsame, hsame ▸ hknown⟩

/-- Of this text the sanitizer leaves a row, points and empty brackets; the unknown tokens go, one of
them with an opening bracket in its name. -/
theorem iconNames_sanitize_eq_markup_standard :
    let text : Text := "[[Egg]Draw [FishEgg]+[Wave]!2 [Wave][Egg][]Wave]"
    let clean := sanitize .standard text
    (∀ name ∈ Vocabulary.standard, Shape.IsName name) ∧
      clean = "Draw [FishEgg]+[Wave]!2 [Wave][]Wave]".toList ∧
      parse clean = [.atom (.text "Draw"), .row [.icon "FishEgg", .points []], .atom (.text "!"),
        .atom (.points "2"), .atom (.text "[]"), .atom (.text "Wave"), .atom (.text "]")] ∧
      iconNames clean = (parse clean).flatMap Segment.iconNames ∧
      ∀ name ∈ (parse clean).flatMap Segment.iconNames, name ∈ Vocabulary.standard := by
  intro text clean
  have hnames : ∀ name ∈ Vocabulary.standard.names, Shape.IsName name := by decide +kernel
  exact ⟨hnames, by decide +kernel, by decide +kernel,
    iconNames_sanitize_eq_markup .standard hnames text⟩

end ReefCards
