import ReefCards.Json.Basic

/-!
# JSON tokens

The pieces of a JSON text between its spaces: brackets, separators, words, numbers and strings.
`Token.ofText?` gives them in order, or nothing when the text holds something else. Main statement:
`length_lt_of_read?`, every token takes at least one character.
-/

namespace ReefCards.Json

/-- One piece of a JSON text. -/
inductive Token where
  | openBrace
  | closeBrace
  | openBracket
  | closeBracket
  | comma
  | colon
  | null
  | bool (value : Bool)
  | number (value : Numeral)
  | string (value : Option Text)
  deriving DecidableEq, Repr

/-- One element of a string: a character, or the 16-bit code of a numbered escape. -/
inductive StringUnit where
  | char (c : Char)
  | code (n : Nat)
  deriving DecidableEq, Repr

/-- The value of a hexadecimal digit. -/
def hexValue? (c : Char) : Option Nat :=
  if c.isDigit then some (c.toNat - '0'.toNat)
  else if 'a' ≤ c ∧ c ≤ 'f' then some (c.toNat - 'a'.toNat + 10)
  else if 'A' ≤ c ∧ c ≤ 'F' then some (c.toNat - 'A'.toNat + 10)
  else none

/-- The code that four hexadecimal digits stand for. -/
def hexCode? (a b c d : Char) : Option Nat := do
  let a ← hexValue? a
  let b ← hexValue? b
  let c ← hexValue? c
  let d ← hexValue? d
  pure (((a * 16 + b) * 16 + c) * 16 + d)

/-- The character that a short escape stands for. -/
def shortEscape? : Char → Option Char
  | '"' => some '"'
  | '\\' => some '\\'
  | '/' => some '/'
  | 'b' => some '\x08'
  | 'f' => some '\x0c'
  | 'n' => some '\n'
  | 'r' => some '\r'
  | 't' => some '\t'
  | _ => none

/-- The elements of a string up to its closing quote, and the text after that. Control characters
do not stand in a string by themselves. -/
def stringUnits? : Text → Option (List StringUnit × Text)
  | [] => none
  | '"' :: rest => some ([], rest)
  | '\\' :: 'u' :: a :: b :: c :: d :: rest => do
    let n ← hexCode? a b c d
    let (units, after) ← stringUnits? rest
    pure (.code n :: units, after)
  | '\\' :: escape :: rest => do
    let c ← shortEscape? escape
    let (units, after) ← stringUnits? rest
    pure (.char c :: units, after)
  | c :: rest =>
    if c.toNat < 0x20 then none
    else do
      let (units, after) ← stringUnits? rest
      pure (.char c :: units, after)

/-- Whether the code is the first half of a surrogate pair. -/
def isHighSurrogate (n : Nat) : Bool := 0xD800 ≤ n && n < 0xDC00

/-- Whether the code is the second half of a surrogate pair. -/
def isLowSurrogate (n : Nat) : Bool := 0xDC00 ≤ n && n < 0xE000

/-- The text that the elements of a string stand for; two halves of a surrogate pair are one
character, and half a pair is none. -/
def unitsText? : List StringUnit → Option Text
  | [] => some []
  | .char c :: rest => (unitsText? rest).map (c :: ·)
  | .code high :: .code low :: rest =>
    if isHighSurrogate high then
      if isLowSurrogate low then
        (unitsText? rest).map
          (Char.ofNat (0x10000 + (high - 0xD800) * 0x400 + (low - 0xDC00)) :: ·)
      else none
    else if isLowSurrogate high then none
    else (unitsText? (.code low :: rest)).map (Char.ofNat high :: ·)
  | .code n :: rest =>
    if isHighSurrogate n || isLowSurrogate n then none
    else (unitsText? rest).map (Char.ofNat n :: ·)

namespace Token

/-- The token at the start of a text, and the text after it. -/
def read? (text : Text) : Option (Token × Text) :=
  match text with
  | [] => none
  | '{' :: rest => some (.openBrace, rest)
  | '}' :: rest => some (.closeBrace, rest)
  | '[' :: rest => some (.openBracket, rest)
  | ']' :: rest => some (.closeBracket, rest)
  | ',' :: rest => some (.comma, rest)
  | ':' :: rest => some (.colon, rest)
  | 'n' :: 'u' :: 'l' :: 'l' :: rest => some (.null, rest)
  | 't' :: 'r' :: 'u' :: 'e' :: rest => some (.bool true, rest)
  | 'f' :: 'a' :: 'l' :: 's' :: 'e' :: rest => some (.bool false, rest)
  | '"' :: rest => (stringUnits? rest).map fun found => (.string (unitsText? found.1), found.2)
  | _ => (Numeral.read? text).map fun found => (.number found.1, found.2)

/-- The text after a string is shorter than the text from its first element on. -/
theorem length_lt_of_stringUnits? (text : Text) (result : List StringUnit × Text)
    (h : stringUnits? text = some result) : result.2.length < text.length := by
  fun_induction stringUnits? text generalizing result with
  | case1 => simp at h
  | case2 rest =>
    obtain rfl := Option.some.inj h
    simp
  | case3 a b c d rest ih =>
    simp only [Option.bind_eq_bind, Option.bind_eq_some_iff, Option.pure_def,
      Option.some.injEq] at h
    obtain ⟨n, -, found, hfound, rfl⟩ := h
    have := ih found hfound
    simp only [List.length_cons]
    omega
  | case4 escape rest _ ih =>
    simp only [Option.bind_eq_bind, Option.bind_eq_some_iff, Option.pure_def,
      Option.some.injEq] at h
    obtain ⟨n, -, found, hfound, rfl⟩ := h
    have := ih found hfound
    simp only [List.length_cons]
    omega
  | case5 => simp at h
  | case6 c rest _ _ _ _ ih =>
    simp only [Option.bind_eq_bind, Option.bind_eq_some_iff, Option.pure_def,
      Option.some.injEq] at h
    obtain ⟨found, hfound, rfl⟩ := h
    have := ih found hfound
    simp only [List.length_cons]
    omega

/-- The text after a token is shorter. -/
theorem length_lt_of_read? (text : Text) (result : Token × Text)
    (h : read? text = some result) : result.2.length < text.length := by
  unfold read? at h
  split at h
  case h_1 => simp at h
  case h_11 rest =>
    obtain ⟨found, hfound, rfl⟩ := Option.map_eq_some_iff.1 h
    have := length_lt_of_stringUnits? rest found hfound
    simp only [List.length_cons]
    omega
  case h_12 =>
    obtain ⟨found, hfound, rfl⟩ := Option.map_eq_some_iff.1 h
    exact Numeral.length_lt_of_read? text found hfound
  all_goals
    obtain rfl := Option.some.inj h
    simp only [List.length_cons]
    omega

/-- Whether the character may stand between tokens. -/
def isSpace (c : Char) : Bool := c = ' ' || c = '\t' || c = '\n' || c = '\r'

/-- The tokens of a text, or nothing when something in it is no token. -/
def ofText? (text : Text) : Option (List Token) :=
  match _hspace : text.dropWhile isSpace with
  | [] => some []
  | c :: rest =>
    match _hread : read? (c :: rest) with
    | none => none
    | some (token, after) => (ofText? after).map (token :: ·)
termination_by text.length
decreasing_by
  have hafter : after.length < (c :: rest).length := length_lt_of_read? _ _ _hread
  have hdrop := Numeral.length_dropWhile_le isSpace text
  rw [_hspace] at hdrop
  exact Nat.lt_of_lt_of_le hafter hdrop

end Token
end ReefCards.Json
