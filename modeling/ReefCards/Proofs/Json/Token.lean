import ReefCards.Json.Printer
import ReefCards.Proofs.Json.Numeral
import Mathlib.Data.List.Chain

/-!
# Tokens read back

The text of a token is read back as that token, and so is a text in which several tokens stand in a
row, with or without spaces between them. Only a number needs care: it must not run into what comes
next, and in a JSON document it never does, because a comma or a closing bracket follows. Main
statements: `exists_stringUnits?_escaped`, `Token.read?_toText_append`,
`Token.ofText?_flatMap_toText` and `Token.ofText?_layOut`.
-/

namespace ReefCards.Json

/-- Two hexadecimal digits after two zeros are the code of a control character. -/
theorem hexCode?_twoHexDigits (n : Nat) (h : n < 0x20) :
    hexCode? '0' '0' (Nat.digitChar (n / 16)) (Nat.digitChar (n % 16)) = some n := by
  have hall : ∀ m < 0x20,
      hexCode? '0' '0' (Nat.digitChar (m / 16)) (Nat.digitChar (m % 16)) = some m := by decide
  exact hall n h

/-- The code of a control character is no part of a surrogate pair and stands for itself. -/
theorem unitsText?_code_cons {n : Nat} (h : n < 0x20) (units : List StringUnit) :
    unitsText? (.code n :: units) = (unitsText? units).map (Char.ofNat n :: ·) := by
  have hhigh : isHighSurrogate n = false := by
    simp only [isHighSurrogate, Bool.and_eq_false_iff, decide_eq_false_iff_not]
    omega
  have hlow : isLowSurrogate n = false := by
    simp only [isLowSurrogate, Bool.and_eq_false_iff, decide_eq_false_iff_not]
    omega
  rcases units with _ | ⟨_ | m, units⟩ <;> simp [unitsText?, hhigh, hlow]

/-- A character within a string is escaped with a letter, or as a control character with its number,
or stands as it is. -/
theorem escapeChar_cases (c : Char) :
    (∃ letter, letter ≠ 'u' ∧ shortEscape? letter = some c ∧ escapeChar c = ['\\', letter]) ∨
      (c.toNat < 0x20 ∧ escapeChar c = '\\' :: 'u' :: '0' :: '0' :: twoHexDigits c.toNat) ∨
      (¬c.toNat < 0x20 ∧ c ≠ '"' ∧ c ≠ '\\' ∧ escapeChar c = [c]) := by
  unfold escapeChar
  split
  · next h => exact .inl ⟨'"', by decide, by rw [h]; rfl, rfl⟩
  split
  · next h => exact .inl ⟨'\\', by decide, by rw [h]; rfl, rfl⟩
  split
  · next h => exact .inl ⟨'b', by decide, by rw [h]; rfl, rfl⟩
  split
  · next h => exact .inl ⟨'f', by decide, by rw [h]; rfl, rfl⟩
  split
  · next h => exact .inl ⟨'n', by decide, by rw [h]; rfl, rfl⟩
  split
  · next h => exact .inl ⟨'r', by decide, by rw [h]; rfl, rfl⟩
  split
  · next h => exact .inl ⟨'t', by decide, by rw [h]; rfl, rfl⟩
  split
  · next h => exact .inr (.inl ⟨h, rfl⟩)
  · next hquote hslash _ _ _ _ _ h => exact .inr (.inr ⟨h, hquote, hslash, rfl⟩)

/-- The form of a character within a string is read back as one element of the string, and this
element stands for the character. -/
theorem exists_stringUnits?_escapeChar (c : Char) :
    ∃ unit, (∀ rest, stringUnits? (escapeChar c ++ rest) =
        (stringUnits? rest).map fun found => (unit :: found.1, found.2)) ∧
      ∀ units, unitsText? (unit :: units) = (unitsText? units).map (c :: ·) := by
  rcases escapeChar_cases c with ⟨letter, hu, hletter, hform⟩ | ⟨hcode, hform⟩ |
    ⟨hcode, hquote, hslash, hform⟩
  · refine ⟨.char c, fun rest => ?_, fun units => rfl⟩
    simp only [hform, List.cons_append, List.nil_append]
    rw [stringUnits?]
    · rw [hletter]
      cases stringUnits? rest <;> rfl
    · exact fun _ _ _ _ _ heq _ => hu heq
  · refine ⟨.code c.toNat, fun rest => ?_, fun units => ?_⟩
    · simp only [hform, twoHexDigits, List.cons_append, List.nil_append]
      rw [stringUnits?, hexCode?_twoHexDigits c.toNat hcode]
      cases stringUnits? rest <;> rfl
    · rw [unitsText?_code_cons hcode, Char.ofNat_toNat]
  · refine ⟨.char c, fun rest => ?_, fun units => rfl⟩
    rw [hform, List.singleton_append, stringUnits?, if_neg hcode]
    · cases stringUnits? rest <;> rfl
    all_goals simp [hquote, hslash]

/-- The forms of the characters of a text are read back up to the closing quote. -/
theorem exists_stringUnits?_escaped (text rest : Text) :
    ∃ units, stringUnits? (text.flatMap escapeChar ++ '"' :: rest) = some (units, rest) ∧
      unitsText? units = some text := by
  induction text with
  | nil => exact ⟨[], rfl, rfl⟩
  | cons c text ih =>
    obtain ⟨units, hread, htext⟩ := ih
    obtain ⟨unit, hunit, hmeaning⟩ := exists_stringUnits?_escapeChar c
    refine ⟨unit :: units, ?_, ?_⟩
    · rw [List.flatMap_cons, List.append_assoc, hunit, hread, Option.map_some]
    · rw [hmeaning, htext, Option.map_some]

namespace Token

/-- A quote begins a string. -/
theorem read?_quote (rest : Text) : read? ('"' :: rest) =
    (stringUnits? rest).map fun found => (.string (unitsText? found.1), found.2) := rfl

/-- A string is read back, and so is one that stands for no text. -/
theorem read?_printString_append (value : Option Text) (rest : Text) :
    read? (printString value ++ rest) = some (.string value, rest) := by
  cases value with
  | none => rfl
  | some text =>
    obtain ⟨units, hread, htext⟩ := exists_stringUnits?_escaped text rest
    have hstring : printString (some text) ++ rest =
        '"' :: (text.flatMap escapeChar ++ '"' :: rest) :=
      congrArg ('"' :: ·) (List.append_assoc _ _ _)
    rw [hstring, read?_quote, hread, Option.map_some, htext]

/-- A digit or a minus sign begins a number. -/
theorem read?_cons_of_numeral {c : Char} (hc : c = '-' ∨ c.isDigit = true) (rest : Text) :
    read? (c :: rest) =
      (Numeral.read? (c :: rest)).map fun found => (.number found.1, found.2) := by
  unfold read?
  split
  case h_12 => rfl
  all_goals simp_all

/-- A token that can be written: a number keeps to the rules of numerals. -/
def WellFormed : Token → Prop
  | .number value => value.WellFormed
  | _ => True

/-- Whether the token is a number. -/
def isNumber : Token → Bool
  | .number _ => true
  | _ => false

/-- Every token that is no number can be written. -/
theorem wellFormed_of_not_isNumber {token : Token} (h : token.isNumber = false) :
    token.WellFormed := by
  cases token with
  | number => simp [isNumber] at h
  | _ => trivial

/-- A number begins with a digit or a minus sign. -/
theorem exists_numeral_toText {numeral : Numeral} (h : numeral.WellFormed) :
    ∃ c rest, numeral.toText = c :: rest ∧ (c = '-' ∨ c.isDigit = true) := by
  rw [Numeral.toText_eq]
  cases numeral.negative with
  | true => exact ⟨'-', _, rfl, .inl rfl⟩
  | false =>
    obtain ⟨first, others, hparts⟩ := List.exists_cons_of_ne_nil h.whole_ne_nil
    rw [hparts]
    exact ⟨first, _, rfl, .inr (h.isDigit_whole first (by simp [hparts]))⟩

/-- The text of a token is read back as the token, whatever follows; after a number nothing may
follow that carries it on. -/
theorem read?_toText_append {token : Token} (h : token.WellFormed) {rest : Text}
    (hrest : token.isNumber = true → Numeral.Breaks rest) :
    read? (token.toText ++ rest) = some (token, rest) := by
  cases token with
  | number value =>
    obtain ⟨c, others, htext, hc⟩ := exists_numeral_toText h
    have hread := Numeral.read?_toText_append h (hrest rfl)
    simp only [toText]
    rw [htext, List.cons_append] at hread ⊢
    rw [read?_cons_of_numeral hc, hread, Option.map_some]
  | string value => exact read?_printString_append value rest
  | bool value => cases value <;> rfl
  | openBrace | closeBrace | openBracket | closeBracket | comma | colon | null => rfl

/-- The tokens of a text are the first one after its spaces and then those after it. -/
theorem ofText?_eq (text : Text) :
    ofText? text = match text.dropWhile isSpace with
      | [] => some []
      | c :: rest => (read? (c :: rest)).bind fun found =>
          (ofText? found.2).map (found.1 :: ·) := by
  rw [ofText?]
  split
  · next hspace => rw [hspace]
  · next c rest hspace =>
    simp only [hspace]
    split
    · next hread => rw [hread, Option.bind_none]
    · next token after hread => rw [hread, Option.bind_some]

/-- Spaces before a text add no token. -/
theorem ofText?_spaces_append {spaces : Text} (h : ∀ c ∈ spaces, isSpace c = true) (text : Text) :
    ofText? (spaces ++ text) = ofText? text := by
  rw [ofText?_eq, ofText?_eq text, List.dropWhile_append_of_pos h]

/-- No token begins with a space. -/
theorem dropWhile_isSpace_of_read? {text : Text} {found : Token × Text}
    (h : read? text = some found) : text.dropWhile isSpace = text := by
  cases text with
  | nil => rfl
  | cons c rest =>
    cases hspace : isSpace c with
    | false => rw [List.dropWhile_cons_of_neg (by simp [hspace])]
    | true =>
      have hnone : read? (c :: rest) = none := by
        simp only [isSpace, Bool.or_eq_true, decide_eq_true_eq] at hspace
        rcases hspace with ((rfl | rfl) | rfl) | rfl <;> rfl
      rw [hnone] at h
      simp at h

/-- A token that is written before a text comes before the tokens of that text. -/
theorem ofText?_toText_append {token : Token} (h : token.WellFormed) {rest : Text}
    (hrest : token.isNumber = true → Numeral.Breaks rest) :
    ofText? (token.toText ++ rest) = (ofText? rest).map (token :: ·) := by
  have hread := read?_toText_append h hrest
  rw [ofText?_eq, dropWhile_isSpace_of_read? hread]
  cases htext : token.toText ++ rest with
  | nil => rw [htext] at hread; simp [read?] at hread
  | cons c others =>
    rw [htext] at hread
    simp only [hread, Option.bind_some]

/-- Whether the token may follow a number: a comma or a closing bracket. -/
def endsNumber : Token → Bool
  | .comma | .closeBracket | .closeBrace => true
  | _ => false

/-- Whether one token can be written right after another. -/
def Fits (first second : Token) : Prop := first.isNumber = true → second.endsNumber = true

/-- Whether tokens can be written in a row, so that they do not run into each other. -/
structure Writable (tokens : List Token) : Prop where
  wellFormed : ∀ token ∈ tokens, token.WellFormed
  fits : tokens.IsChain Fits

section Writable

variable {first : Token} {tokens : List Token}

/-- The first of some tokens can be written, and nothing but the end of a number follows one. -/
theorem writable_cons : Writable (first :: tokens) ↔ first.WellFormed ∧
    (∀ second ∈ tokens.head?, first.Fits second) ∧ Writable tokens := by
  constructor
  · rintro ⟨hwell, hfits⟩
    obtain ⟨hfirst, htokens⟩ := List.forall_mem_cons.1 hwell
    obtain ⟨hsecond, hrest⟩ := List.isChain_cons.1 hfits
    exact ⟨hfirst, hsecond, htokens, hrest⟩
  · rintro ⟨hfirst, hsecond, htokens, hrest⟩
    exact ⟨List.forall_mem_cons.2 ⟨hfirst, htokens⟩, List.isChain_cons.2 ⟨hsecond, hrest⟩⟩

/-- A number does not run into the next token when nothing stands between them. -/
theorem breaks_flatMap_toText (h : ∀ second ∈ tokens.head?, second.endsNumber = true) :
    Numeral.Breaks (tokens.flatMap toText) := by
  cases tokens with
  | nil => simp [Numeral.Breaks]
  | cons second rest =>
    have hsecond := h second rfl
    cases second with
    | comma | closeBracket | closeBrace => simp [Numeral.Breaks, toText]
    | _ => simp [endsNumber] at hsecond

/-- A number does not run into the next token when they are laid out on lines. -/
theorem breaks_layOut (depth : Nat) (h : ∀ second ∈ tokens.head?, second.endsNumber = true) :
    Numeral.Breaks (layOut depth tokens) := by
  cases tokens with
  | nil => simp [Numeral.Breaks, layOut]
  | cons second rest =>
    have hsecond := h second rfl
    cases second with
    | comma | closeBracket | closeBrace => simp [Numeral.Breaks, layOut, newLine]
    | _ => simp [endsNumber] at hsecond

/-- Tokens that are written without spaces are read back. -/
theorem ofText?_flatMap_toText (h : Writable tokens) :
    ofText? (tokens.flatMap toText) = some tokens := by
  induction tokens with
  | nil => rw [List.flatMap_nil, ofText?_eq]; rfl
  | cons first rest ih =>
    obtain ⟨hfirst, hfits, hrest⟩ := writable_cons.1 h
    have hbreak (hnumber : first.isNumber = true) : Numeral.Breaks (rest.flatMap toText) :=
      breaks_flatMap_toText fun second hsecond => hfits second hsecond hnumber
    rw [List.flatMap_cons, ofText?_toText_append hfirst hbreak, ih hrest, Option.map_some]

/-- The start of a line is made of spaces. -/
theorem isSpace_of_mem_newLine {depth : Nat} {c : Char} (h : c ∈ newLine depth) :
    isSpace c = true := by
  rcases List.mem_cons.1 h with rfl | h
  · rfl
  · rw [List.eq_of_mem_replicate h]
    rfl

/-- What comes after the first of some tokens can be written. -/
theorem Writable.tail (h : Writable (first :: tokens)) : Writable tokens :=
  (writable_cons.1 h).2.2

/-- A token that is no number is read back before the tokens that come after some spaces. -/
theorem ofText?_toText_spaces_append (first : Token) (h : first.isNumber = false)
    {spaces text : Text} (hspaces : ∀ c ∈ spaces, isSpace c = true)
    (htext : ofText? text = some tokens) :
    ofText? (first.toText ++ (spaces ++ text)) = some (first :: tokens) := by
  rw [ofText?_toText_append (wellFormed_of_not_isNumber h) (by simp [h]),
    ofText?_spaces_append hspaces, htext, Option.map_some]

/-- Tokens that are laid out on lines are read back. -/
theorem ofText?_layOut (depth : Nat) (h : Writable tokens) :
    ofText? (layOut depth tokens) = some tokens := by
  have hnone : ∀ c ∈ ([] : Text), isSpace c = true := by simp
  have hline (depth : Nat) : ∀ c ∈ newLine depth, isSpace c = true :=
    fun c hc => isSpace_of_mem_newLine hc
  fun_induction layOut depth tokens with
  | case1 => rw [ofText?_eq]; rfl
  | case2 depth rest ih =>
    have hclose := ofText?_toText_spaces_append .closeBracket rfl hnone (ih h.tail.tail)
    exact ofText?_toText_spaces_append .openBracket rfl hnone hclose
  | case3 depth rest ih =>
    have hclose := ofText?_toText_spaces_append .closeBrace rfl hnone (ih h.tail.tail)
    exact ofText?_toText_spaces_append .openBrace rfl hnone hclose
  | case4 depth rest _ ih =>
    exact ofText?_toText_spaces_append .openBracket rfl (hline _) (ih h.tail)
  | case5 depth rest _ ih =>
    exact ofText?_toText_spaces_append .openBrace rfl (hline _) (ih h.tail)
  | case6 depth rest ih =>
    rw [ofText?_spaces_append (hline _)]
    exact ofText?_toText_spaces_append .closeBracket rfl hnone (ih h.tail)
  | case7 depth rest ih =>
    rw [ofText?_spaces_append (hline _)]
    exact ofText?_toText_spaces_append .closeBrace rfl hnone (ih h.tail)
  | case8 depth rest ih =>
    exact ofText?_toText_spaces_append .comma rfl (hline _) (ih h.tail)
  | case9 depth rest ih =>
    have hspace : ∀ c ∈ [' '], isSpace c = true := List.forall_mem_singleton.2 rfl
    exact ofText?_toText_spaces_append .colon rfl hspace (ih h.tail)
  | case10 depth first rest _ _ _ _ _ _ _ _ ih =>
    obtain ⟨hfirst, hfits, hrest⟩ := writable_cons.1 h
    have hbreak (hnumber : first.isNumber = true) : Numeral.Breaks (layOut depth rest) :=
      breaks_layOut depth fun second hsecond => hfits second hsecond hnumber
    rw [ofText?_toText_append hfirst hbreak, ih hrest, Option.map_some]

end Writable
end Token
end ReefCards.Json
