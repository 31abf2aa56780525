import ReefCards.Proofs.Markup.Grouped
import ReefCards.Proofs.Markup.Spaced

/-!
# Printed tokens read back

What a printed icon token is read as in a markup text. Tokens written one after the other are no
row, as no plus sign stands between them. A quantity before the icon for points is read together
with it, and before any other icon, or before none, it is text. Main statements: `parseWith_copies`,
`parseWith_points_append`, `parseWith_digits_append` and `IconToken.parse_printed`.
-/

namespace ReefCards

open Text (decimal isDigit_of_mem_decimal)

variable {rows : Bool} {name digits rest : Text}

namespace Shape

/-- No name is joined where the next one begins at once. -/
theorem joined?_cons_open (rest : Text) : joined? ('[' :: rest) = none := rfl

/-- A bracketed name is an icon if no other is joined to it. -/
theorem read?_bracketed_append (hname : IsName name) (hjoined : joined? rest = none) :
    read? rows (bracketed name ++ rest) = some (.icon name, rest) := by
  have hrow : row? (bracketed name ++ rest) = none := by
    simp only [row?, icon?_bracketed_append hname, joinedNames_of_eq_none hjoined]
  rw [← read?_false_bracketed_append hname rest]
  simp only [read?, hrow, ite_self]

/-- Only the icon for points begins as that icon does. -/
theorem after?_wave_bracketed_append (hname : IsName name) (hne : name ≠ Vocabulary.wave)
    (rest : Text) : Text.after? (bracketed Vocabulary.wave) (bracketed name ++ rest) = none := by
  refine Option.eq_none_iff_forall_ne_some.2 fun after hafter => hne ?_
  have hicon := icon?_bracketed_append hname rest
  rw [Text.eq_append_of_after? hafter, icon?_bracketed_append isName_wave] at hicon
  exact (congrArg Prod.fst (Option.some.inj hicon)).symm

/-- Digits and a space begin points exactly if the icon for points comes next. -/
theorem points?_digits_space (hdigits : digits ≠ []) (hall : ∀ c ∈ digits, c.isDigit = true)
    (rest : Text) :
    points? (digits ++ ' ' :: rest) =
      (Text.after? (bracketed Vocabulary.wave) rest).map fun after => (digits, after) := by
  have hspace : ∀ c ∈ (' ' :: rest).head?, c.isDigit = false := by
    rintro c ⟨⟩
    rfl
  exact points?_digits_append hdigits hall hspace

end Shape

/-- Digits, a space and the icon for points are read as points. -/
theorem parseWith_points_append (hdigits : digits ≠ []) (hall : ∀ c ∈ digits, c.isDigit = true)
    (rest : Text) :
    parseWith rows (digits ++ ' ' :: (bracketed Vocabulary.wave ++ rest)) =
      .atom (.points digits) :: parseWith rows rest := by
  have hpoints : Shape.points? (digits ++ ' ' :: (bracketed Vocabulary.wave ++ rest)) =
      some (digits, rest) := by
    rw [Shape.points?_digits_space hdigits hall]
    simp [Text.after?]
  have hrow : Shape.row? (digits ++ ' ' :: (bracketed Vocabulary.wave ++ rest)) = none := by
    obtain ⟨first, others, rfl⟩ := List.exists_cons_of_ne_nil hdigits
    refine Shape.row?_cons_of_ne ?_ _
    rintro rfl
    exact absurd (hall '[' List.mem_cons_self) (by decide)
  have hread : Shape.read? rows (digits ++ ' ' :: (bracketed Vocabulary.wave ++ rest)) =
      some (.points digits, rest) := by
    simp [Shape.read?, hrow, hpoints]
  rw [← List.cons_append, ← List.append_assoc] at hread ⊢
  rw [parseWith_append hread]
  rfl

/-- Digits and a space are read as text before an icon that is not the one for points, and at the
end. -/
theorem parseWith_digits_append (hdigits : digits ≠ []) (hall : ∀ c ∈ digits, c.isDigit = true)
    (hrest : Text.after? (bracketed Vocabulary.wave) rest = none)
    (hopen : rest = [] ∨ ∃ tail, rest = '[' :: tail) :
    parseWith rows (digits ++ ' ' :: rest) = .atom (.text digits) :: parseWith rows rest := by
  have hpoints : Shape.points? (digits ++ ' ' :: rest) = none := by
    rw [Shape.points?_digits_space hdigits hall, hrest, Option.map_none]
  have htrim : Text.trim (digits ++ [' ']) = digits := trim_digits hdigits hall (.inr rfl)
  have hplain := Shape.isPlainChar_of_mem_digits hall (.inr rfl)
  have hspan : (digits ++ ' ' :: rest).takeWhile Shape.isPlainChar = digits ++ [' '] ∧
      (digits ++ ' ' :: rest).dropWhile Shape.isPlainChar = rest := by
    rw [← List.singleton_append, ← List.append_assoc, List.takeWhile_append_of_pos hplain,
      List.dropWhile_append_of_pos hplain]
    rcases hopen with rfl | ⟨tail, rfl⟩ <;> simp [Shape.isPlainChar_open]
  obtain ⟨first, others, rfl⟩ := List.exists_cons_of_ne_nil hdigits
  have hfirst := Shape.isPlainChar_of_isDigit (hall first List.mem_cons_self)
  rw [List.cons_append] at hpoints hspan ⊢
  rw [List.takeWhile_cons_of_pos hfirst, List.dropWhile_cons_of_pos hfirst] at hspan
  rw [parseWith_plain hfirst hpoints, hspan.1, hspan.2, Segment.ofWords?, htrim]
  rfl

/-- A bracketed name is read as its icon if no other is joined to it. -/
theorem parseWith_bracketed_append (hname : Shape.IsName name)
    (hjoined : Shape.joined? rest = none) :
    parseWith rows (bracketed name ++ rest) = .atom (.ofName name) :: parseWith rows rest := by
  rw [parseWith_append (Shape.read?_bracketed_append hname hjoined)]
  rfl

/-- The same name in brackets, several times over, is read as its icon as many times. -/
theorem parseWith_copies (hname : Shape.IsName name) (count : Nat) :
    parseWith rows (List.replicate count (bracketed name)).flatten =
      List.replicate count (.atom (.ofName name)) := by
  induction count with
  | zero => simp [parseWith]
  | succ count ih =>
    have hjoined : Shape.joined? (List.replicate count (bracketed name)).flatten = none := by
      cases count with
      | zero => rfl
      | succ count => exact Shape.joined?_cons_open _
    rw [List.replicate_succ, List.flatten_cons, parseWith_bracketed_append hname hjoined, ih,
      List.replicate_succ]

/-- Copies of a name in brackets are nothing, or they begin with an opening bracket. -/
theorem copies_eq_nil_or (name : Text) (count : Nat) :
    (List.replicate count (bracketed name)).flatten = [] ∨
      ∃ tail, (List.replicate count (bracketed name)).flatten = '[' :: tail := by
  cases count with
  | zero => exact .inl rfl
  | succ count => exact .inr ⟨_, rfl⟩

namespace IconToken

/-- A printed token without a quantity is read as copies of its icon. -/
theorem parse_times {token : IconToken} (hname : Shape.IsName token.name)
    (hquantity : token.quantity = none) (count : Nat) :
    parse (token.times count).toMarkup = List.replicate count (.atom (.ofName token.name)) := by
  have htext : (token.times count).toMarkup =
      (List.replicate count (bracketed token.name)).flatten := by
    simp only [toMarkup, times, hquantity, quantified]
  rw [htext, parse, parseWith_copies hname]

/-- A printed token of the icon for points with a quantity is read as points, and copies of the icon
after them. -/
theorem parse_withQuantity_wave {token : IconToken} (hname : token.name = Vocabulary.wave)
    (count quantity : Nat) :
    parse ((token.times (count + 1)).withQuantity quantity).toMarkup =
      .atom (.points (decimal quantity)) :: List.replicate count (.atom (.points [])) := by
  have htext : ((token.times (count + 1)).withQuantity quantity).toMarkup =
      decimal quantity ++ ' ' :: (bracketed Vocabulary.wave ++
        (List.replicate count (bracketed Vocabulary.wave)).flatten) := by
    simp only [toMarkup, times, withQuantity, hname, quantified, List.replicate_succ,
      List.flatten_cons]
  rw [htext, parse, parseWith_points_append (Text.decimal_ne_nil quantity)
    (fun _ hc => isDigit_of_mem_decimal hc), parseWith_copies Shape.isName_wave]
  rfl

/-- A printed token with a quantity, but without the icon for points, is read as text, and copies of
the icon after it. -/
theorem parse_withQuantity {token : IconToken} (hname : Shape.IsName token.name) {count : Nat}
    (hwave : ¬ (token.name = Vocabulary.wave ∧ 1 ≤ count)) (quantity : Nat) :
    parse ((token.times count).withQuantity quantity).toMarkup =
      .atom (.text (decimal quantity)) :: List.replicate count (.atom (.icon token.name)) := by
  have hne (hcount : 1 ≤ count) : token.name ≠ Vocabulary.wave := fun heq => hwave ⟨heq, hcount⟩
  have hrest : Text.after? (bracketed Vocabulary.wave)
      (List.replicate count (bracketed token.name)).flatten = none := by
    cases count with
    | zero => rfl
    | succ count => exact Shape.after?_wave_bracketed_append hname (hne (Nat.le_add_left 1 count)) _
  have hicon : List.replicate count (Segment.atom (.ofName token.name)) =
      List.replicate count (.atom (.icon token.name)) := by
    cases count with
    | zero => rfl
    | succ count => rw [Atom.ofName, if_neg (hne (Nat.le_add_left 1 count))]
  have htext : ((token.times count).withQuantity quantity).toMarkup =
      decimal quantity ++ ' ' :: (List.replicate count (bracketed token.name)).flatten := rfl
  rw [htext, parse, parseWith_digits_append (Text.decimal_ne_nil quantity)
    (fun _ hc => isDigit_of_mem_decimal hc) hrest (copies_eq_nil_or token.name count),
    parseWith_copies hname, hicon]

/-- A printed token is read back. A vocabulary makes a token of each of its names, and if the name
is such as may stand in a markup text, then the token is read as its icon as often as it is
repeated, where the icon for points is points without a label. A quantity is read as the label of
the first icon for points, or else as text before the icons. A row it never is. -/
theorem parse_printed {vocabulary : Vocabulary} (hmem : name ∈ vocabulary)
    (hname : Shape.IsName name) :
    ∃ token, of? vocabulary name = some token ∧ ∀ count quantity : Nat,
      parse (token.times count).toMarkup =
          List.replicate count
            (.atom (if name = Vocabulary.wave then .points [] else .icon name)) ∧
        parse ((token.times count).withQuantity quantity).toMarkup =
          (if name = Vocabulary.wave ∧ 1 ≤ count then
            .atom (.points (decimal quantity)) :: List.replicate (count - 1) (.atom (.points []))
          else .atom (.text (decimal quantity)) :: List.replicate count (.atom (.icon name))) ∧
        (∀ icons, .row icons ∉ parse (token.times count).toMarkup) ∧
        ∀ icons, .row icons ∉ parse ((token.times count).withQuantity quantity).toMarkup := by
  refine ⟨{ name }, if_pos hmem, fun count quantity => ?_⟩
  let token : IconToken := { name }
  have htimes : parse (token.times count).toMarkup =
      List.replicate count (.atom (if name = Vocabulary.wave then .points [] else .icon name)) :=
    parse_times hname rfl count
  have hquantity : parse ((token.times count).withQuantity quantity).toMarkup =
      if name = Vocabulary.wave ∧ 1 ≤ count then
        .atom (.points (decimal quantity)) :: List.replicate (count - 1) (.atom (.points []))
      else .atom (.text (decimal quantity)) :: List.replicate count (.atom (.icon name)) := by
    split
    · next hwave =>
      obtain ⟨before, rfl⟩ := Nat.exists_eq_add_of_le' hwave.2
      exact parse_withQuantity_wave hwave.1 before quantity
    · next hwave => exact parse_withQuantity hname hwave quantity
  refine ⟨htimes, hquantity, fun icons hrow => ?_, fun icons hrow => ?_⟩
  · rw [htimes] at hrow
    exact absurd (List.eq_of_mem_replicate hrow) nofun
  · rw [hquantity] at hrow
    split at hrow
    all_goals
      rcases List.mem_cons.1 hrow with heq | hrow
      · cases heq
      · exact absurd (List.eq_of_mem_replicate hrow) nofun

/-- Twelve points, shown by three icons, are read as points with a label and two without one. -/
theorem parse_printed_twelve_points :
    Vocabulary.wave ∈ Vocabulary.standard ∧ Shape.IsName Vocabulary.wave ∧
      ∃ token, of? .standard Vocabulary.wave = some token ∧
        parse ((token.times 3).withQuantity 12).toMarkup =
          [.atom (.points "12".toList), .atom (.points []), .atom (.points [])] := by
  have hmem : Vocabulary.wave ∈ Vocabulary.standard := by decide
  obtain ⟨token, htoken, hread⟩ := parse_printed hmem Shape.isName_wave
  exact ⟨hmem, Shape.isName_wave, token, htoken, (hread 3 12).2.1⟩

end IconToken
end ReefCards
