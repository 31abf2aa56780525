import ReefCards.Json.Document
import ReefCards.Proofs.Json.Token

/-!
# Documents read back

A value is read back from its text, be it written on one line or on several. The builder of the
reader takes the tokens of a value and then stands where it would stand had it been given the value
itself; this holds within any open arrays and objects, so that it goes through by induction on the
value. Main statements: `foldlM_tokens_append`, `parse?_compact` and `parse?_pretty`.
-/

namespace ReefCards.Json

open Builder

/-- A value begins with a token that does not close an array. -/
theorem exists_tokens_eq_cons (value : Json) :
    ∃ first rest, tokens value = first :: rest ∧ first ≠ .closeBracket := by
  cases value <;> exact ⟨_, _, rfl, by simp⟩

/-- The first of several items stands before a comma and the others. -/
theorem itemTokens_cons_cons (item next : Json) (rest : List Json) :
    itemTokens (item :: next :: rest) =
      tokens item ++ .comma :: itemTokens (next :: rest) := by
  rw [itemTokens]
  exact List.cons_ne_nil next rest

/-- The first of several fields stands before a comma and the others. -/
theorem fieldTokens_cons_cons (key : Option Text) (value : Json) (next : Option Text × Json)
    (rest : List (Option Text × Json)) :
    fieldTokens ((key, value) :: next :: rest) =
      .string key :: .colon :: (tokens value ++ .comma :: fieldTokens (next :: rest)) := by
  rw [fieldTokens]
  · rfl
  · exact List.cons_ne_nil next rest

/-- The items of an array begin as a value does, with a token that does not close an array. -/
theorem exists_itemTokens_eq_cons (item : Json) (rest : List Json) :
    ∃ first others, itemTokens (item :: rest) = first :: others ∧ first ≠ .closeBracket := by
  obtain ⟨first, others, htokens, hfirst⟩ := exists_tokens_eq_cons item
  cases rest with
  | nil => exact ⟨first, others, htokens, hfirst⟩
  | cons next rest =>
    rw [itemTokens_cons_cons, htokens]
    exact ⟨first, _, rfl, hfirst⟩

/-- The first item of an array is taken as any other. -/
theorem foldlM_beforeFirstItem {first : Token} (h : first ≠ .closeBracket) (rest : List Token)
    (stack : List Frame) :
    (first :: rest).foldlM step? (.beforeFirstItem stack) =
      (first :: rest).foldlM step? (.beforeValue (.item [] :: stack)) := by
  have hstep : step? (.beforeFirstItem stack) first =
      step? (.beforeValue (.item [] :: stack)) first := by
    cases first with
    | closeBracket => exact absurd rfl h
    | _ => rfl
  rw [List.foldlM_cons, List.foldlM_cons, hstep]

mutual

/-- With the tokens of a value the builder gets to where it stands when it is given the value. -/
theorem foldlM_tokens_append (value : Json) (stack : List Frame) (after : List Token) :
    (tokens value ++ after).foldlM step? (.beforeValue stack) =
      after.foldlM step? (give value stack) := by
  match value with
  | .null | .bool _ | .number _ | .string _ | .array [] | .object [] => rfl
  | .array (item :: rest) =>
    have hitems := foldlM_itemTokens_append (item :: rest) [] stack (.closeBracket :: after)
      (List.cons_ne_nil item rest)
    obtain ⟨first, others, hparts, hfirst⟩ := exists_itemTokens_eq_cons item rest
    have htokens : tokens (.array (item :: rest)) ++ after =
        .openBracket :: (itemTokens (item :: rest) ++ .closeBracket :: after) := by
      simp [tokens]
    have hopen : (tokens (.array (item :: rest)) ++ after).foldlM step? (.beforeValue stack) =
        (itemTokens (item :: rest) ++ .closeBracket :: after).foldlM step?
          (.beforeValue (.item [] :: stack)) := by
      rw [htokens, hparts, List.cons_append, ← foldlM_beforeFirstItem hfirst]
      rfl
    rw [hopen, hitems, List.append_nil, List.foldlM_cons]
    simp [step?]
  | .object (field :: rest) =>
    have hfields := foldlM_fieldTokens_append (field :: rest) [] stack (.closeBrace :: after)
      (List.cons_ne_nil field rest)
    have htokens : tokens (.object (field :: rest)) ++ after =
        .openBrace :: (fieldTokens (field :: rest) ++ .closeBrace :: after) := by
      simp [tokens]
    have hopen : (tokens (.object (field :: rest)) ++ after).foldlM step? (.beforeValue stack) =
        (fieldTokens (field :: rest) ++ .closeBrace :: after).foldlM step?
          (.beforeKey [] stack) := by
      rw [htokens]
      cases rest <;> rfl
    rw [hopen, hfields, List.append_nil, List.foldlM_cons]
    simp [step?]

/-- With the tokens of some items the builder gets to where it stands when they are taken. -/
theorem foldlM_itemTokens_append (items done : List Json) (stack : List Frame)
    (after : List Token) (h : items ≠ []) :
    (itemTokens items ++ after).foldlM step? (.beforeValue (.item done :: stack)) =
      after.foldlM step? (.afterItem (items.reverse ++ done) stack) := by
  match items with
  | [] => exact absurd rfl h
  | [item] => exact foldlM_tokens_append item (.item done :: stack) after
  | item :: next :: rest =>
    have hrest := foldlM_itemTokens_append (next :: rest) (item :: done) stack after
      (List.cons_ne_nil next rest)
    rw [itemTokens_cons_cons, List.append_assoc, foldlM_tokens_append item, List.reverse_cons,
      List.append_assoc]
    exact hrest

/-- With the tokens of some fields the builder gets to where it stands when they are taken. -/
theorem foldlM_fieldTokens_append (fields done : List (Option Text × Json)) (stack : List Frame)
    (after : List Token) (h : fields ≠ []) :
    (fieldTokens fields ++ after).foldlM step? (.beforeKey done stack) =
      after.foldlM step? (.afterField (fields.reverse ++ done) stack) := by
  match fields with
  | [] => exact absurd rfl h
  | [(key, value)] => exact foldlM_tokens_append value (.field done key :: stack) after
  | (key, value) :: next :: rest =>
    have hrest := foldlM_fieldTokens_append (next :: rest) ((key, value) :: done) stack after
      (List.cons_ne_nil next rest)
    have hvalue := foldlM_tokens_append value (.field done key :: stack)
      (.comma :: (fieldTokens (next :: rest) ++ after))
    rw [fieldTokens_cons_cons, List.cons_append, List.cons_append, List.append_assoc,
      List.reverse_cons, List.append_assoc]
    exact hvalue.trans hrest

end

/-- The tokens of a value are read as the value. -/
theorem ofTokens?_tokens (value : Json) : ofTokens? (tokens value) = some value := by
  have h := foldlM_tokens_append value [] []
  rw [List.append_nil] at h
  rw [ofTokens?, h]
  rfl

/-- A token that is no number may stand before any other. -/
theorem isChain_cons_of_not_isNumber {first : Token} (hfirst : first.isNumber = false)
    {rest : List Token} (hrest : rest.IsChain Token.Fits) : (first :: rest).IsChain Token.Fits :=
  List.isChain_cons.2 ⟨fun _ _ hnumber => absurd hnumber (by simp [hfirst]), hrest⟩

mutual

/-- The tokens of a value do not run into each other, nor into what comes after the value. -/
theorem isChain_tokens_append (value : Json) (after : List Token) (h : after.IsChain Token.Fits)
    (hafter : ∀ second ∈ after.head?, second.endsNumber = true) :
    (tokens value ++ after).IsChain Token.Fits := by
  match value with
  | .null | .bool _ | .number _ | .string _ =>
    exact List.isChain_cons.2 ⟨fun second hsecond _ => hafter second hsecond, h⟩
  | .array items =>
    have hitems := isChain_itemTokens_append items (.closeBracket :: after)
      (isChain_cons_of_not_isNumber rfl h) (by simp [Token.endsNumber])
    rw [tokens, List.cons_append, List.cons_append, List.append_assoc]
    exact isChain_cons_of_not_isNumber rfl hitems
  | .object fields =>
    have hfields := isChain_fieldTokens_append fields (.closeBrace :: after)
      (isChain_cons_of_not_isNumber rfl h) (by simp [Token.endsNumber])
    rw [tokens, List.cons_append, List.cons_append, List.append_assoc]
    exact isChain_cons_of_not_isNumber rfl hfields

/-- The tokens of some items do not run into each other, nor into what comes after them. -/
theorem isChain_itemTokens_append (items : List Json) (after : List Token)
    (h : after.IsChain Token.Fits) (hafter : ∀ second ∈ after.head?, second.endsNumber = true) :
    (itemTokens items ++ after).IsChain Token.Fits := by
  match items with
  | [] => exact h
  | [item] => exact isChain_tokens_append item after h hafter
  | item :: next :: rest =>
    have hrest := isChain_itemTokens_append (next :: rest) after h hafter
    rw [itemTokens_cons_cons, List.append_assoc]
    exact isChain_tokens_append item _ (isChain_cons_of_not_isNumber rfl hrest)
      (by simp [Token.endsNumber])

/-- The tokens of some fields do not run into each other, nor into what comes after them. -/
theorem isChain_fieldTokens_append (fields : List (Option Text × Json)) (after : List Token)
    (h : after.IsChain Token.Fits) (hafter : ∀ second ∈ after.head?, second.endsNumber = true) :
    (fieldTokens fields ++ after).IsChain Token.Fits := by
  match fields with
  | [] => exact h
  | [(key, value)] =>
    have hvalue := isChain_tokens_append value after h hafter
    exact isChain_cons_of_not_isNumber rfl (isChain_cons_of_not_isNumber rfl hvalue)
  | (key, value) :: next :: rest =>
    have hrest := isChain_fieldTokens_append (next :: rest) after h hafter
    have hvalue := isChain_tokens_append value (.comma :: (fieldTokens (next :: rest) ++ after))
      (isChain_cons_of_not_isNumber rfl hrest) (by simp [Token.endsNumber])
    rw [fieldTokens_cons_cons, List.cons_append, List.cons_append, List.append_assoc]
    exact isChain_cons_of_not_isNumber rfl (isChain_cons_of_not_isNumber rfl hvalue)

end

/-- A value whose numbers keep to the rules of numerals. -/
def WellFormed (value : Json) : Prop := ∀ token ∈ tokens value, token.WellFormed

/-- The tokens of such a value can be written in a row. -/
theorem WellFormed.writable {value : Json} (h : value.WellFormed) :
    Token.Writable (tokens value) where
  wellFormed := h
  fits := by
    have hfits := isChain_tokens_append value [] List.isChain_nil (by simp)
    rwa [List.append_nil] at hfits

/-- A value of a single token keeps to the rules when the token does. -/
theorem wellFormed_of_tokens_eq {value : Json} {token : Token} (htokens : tokens value = [token])
    (h : token.WellFormed) : value.WellFormed := by
  rw [WellFormed, htokens]
  exact List.forall_mem_singleton.2 h

/-- Null keeps to the rules. -/
theorem wellFormed_null : null.WellFormed := wellFormed_of_tokens_eq rfl trivial

/-- A truth value keeps to the rules. -/
theorem wellFormed_bool (value : Bool) : (bool value).WellFormed :=
  wellFormed_of_tokens_eq rfl trivial

/-- A text keeps to the rules. -/
theorem wellFormed_ofText (text : Text) : (ofText text).WellFormed :=
  wellFormed_of_tokens_eq rfl trivial

/-- A natural number keeps to the rules. -/
theorem wellFormed_ofNat (n : Nat) : (ofNat n).WellFormed :=
  wellFormed_of_tokens_eq rfl (Numeral.wellFormed_ofNat n)

/-- The tokens of some items keep to the rules when the items do. -/
theorem wellFormed_of_mem_itemTokens {items : List Json} (h : ∀ item ∈ items, item.WellFormed) :
    ∀ token ∈ itemTokens items, token.WellFormed := by
  induction items with
  | nil => simp [itemTokens]
  | cons item rest ih =>
    obtain ⟨hitem, hrest⟩ := List.forall_mem_cons.1 h
    cases rest with
    | nil => exact hitem
    | cons next rest =>
      rw [itemTokens_cons_cons]
      exact List.forall_mem_append.2 ⟨hitem, List.forall_mem_cons.2 ⟨trivial, ih hrest⟩⟩

/-- The tokens of some fields keep to the rules when the values of the fields do. -/
theorem wellFormed_of_mem_fieldTokens {fields : List (Option Text × Json)}
    (h : ∀ field ∈ fields, field.2.WellFormed) :
    ∀ token ∈ fieldTokens fields, token.WellFormed := by
  induction fields with
  | nil => simp [fieldTokens]
  | cons field rest ih =>
    obtain ⟨hfield, hrest⟩ := List.forall_mem_cons.1 h
    -- What stands before the value, a key and a colon, has no number in it.
    have hkey {others : List Token} (hothers : ∀ token ∈ others, token.WellFormed) :
        ∀ token ∈ .string field.1 :: .colon :: others, token.WellFormed :=
      List.forall_mem_cons.2 ⟨trivial, List.forall_mem_cons.2 ⟨trivial, hothers⟩⟩
    cases rest with
    | nil => exact hkey hfield
    | cons next rest =>
      rw [fieldTokens_cons_cons]
      exact hkey (List.forall_mem_append.2 ⟨hfield, List.forall_mem_cons.2 ⟨trivial, ih hrest⟩⟩)

/-- An array keeps to the rules when its items do. -/
theorem wellFormed_array {items : List Json} (h : ∀ item ∈ items, item.WellFormed) :
    (array items).WellFormed := by
  rw [WellFormed, tokens, List.cons_append]
  exact List.forall_mem_cons.2 ⟨trivial, List.forall_mem_append.2
    ⟨wellFormed_of_mem_itemTokens h, List.forall_mem_singleton.2 trivial⟩⟩

/-- An object keeps to the rules when the values of its fields do. -/
theorem wellFormed_ofFields {fields : List (Text × Json)}
    (h : ∀ field ∈ fields, field.2.WellFormed) : (ofFields fields).WellFormed := by
  have hfields : ∀ field ∈ fields.map fun field => (some field.1, field.2),
      field.2.WellFormed := List.forall_mem_map.2 h
  rw [WellFormed, ofFields, tokens, List.cons_append]
  exact List.forall_mem_cons.2 ⟨trivial, List.forall_mem_append.2
    ⟨wellFormed_of_mem_fieldTokens hfields, List.forall_mem_singleton.2 trivial⟩⟩

/-- A value is read back from its text on one line. -/
theorem parse?_compact {value : Json} (h : value.WellFormed) :
    parse? value.compact = some value := by
  rw [parse?, compact, Token.ofText?_flatMap_toText h.writable, Option.bind_some, ofTokens?_tokens]

/-- A value is read back from its text on several lines. -/
theorem parse?_pretty {value : Json} (h : value.WellFormed) :
    parse? value.pretty = some value := by
  rw [parse?, pretty, Token.ofText?_layOut 0 h.writable, Option.bind_some, ofTokens?_tokens]

end ReefCards.Json
