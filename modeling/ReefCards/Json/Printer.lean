import ReefCards.Json.Token

/-!
# Writing JSON

A value is written token by token: `compact` puts nothing between tokens, and `pretty` puts every
item and every field on a line of its own, two spaces deeper than its container.
-/

namespace ReefCards.Json

/-- The lowercase hexadecimal digits of a number below 256, two of them. -/
def twoHexDigits (n : Nat) : Text := [Nat.digitChar (n / 16), Nat.digitChar (n % 16)]

/-- The form of a character within a string: quotes, backslashes and control characters are
escaped. -/
def escapeChar (c : Char) : Text :=
  if c = '"' then ['\\', '"']
  else if c = '\\' then ['\\', '\\']
  else if c = '\x08' then ['\\', 'b']
  else if c = '\x0c' then ['\\', 'f']
  else if c = '\n' then ['\\', 'n']
  else if c = '\r' then ['\\', 'r']
  else if c = '\t' then ['\\', 't']
  else if c.toNat < 0x20 then ['\\', 'u', '0', '0'] ++ twoHexDigits c.toNat
  else [c]

/-- A string between its quotes. A string that stands for no text is half a surrogate pair, so that
it stands for none when read back. -/
def printString : Option Text → Text
  | some text => '"' :: text.flatMap escapeChar ++ ['"']
  | none => "\"\\ud800\""

/-- The text of a token. -/
def Token.toText : Token → Text
  | .openBrace => ['{']
  | .closeBrace => ['}']
  | .openBracket => ['[']
  | .closeBracket => [']']
  | .comma => [',']
  | .colon => [':']
  | .null => "null"
  | .bool true => "true"
  | .bool false => "false"
  | .number value => value.toText
  | .string value => printString value

mutual

/-- The tokens of a value. -/
def tokens : Json → List Token
  | .null => [.null]
  | .bool value => [.bool value]
  | .number value => [.number value]
  | .string value => [.string value]
  | .array items => .openBracket :: itemTokens items ++ [.closeBracket]
  | .object fields => .openBrace :: fieldTokens fields ++ [.closeBrace]

/-- The tokens of the items of an array, with commas between them. -/
def itemTokens : List Json → List Token
  | [] => []
  | [item] => tokens item
  | item :: rest => tokens item ++ .comma :: itemTokens rest

/-- The tokens of the fields of an object, with commas between them. -/
def fieldTokens : List (Option Text × Json) → List Token
  | [] => []
  | [(key, value)] => .string key :: .colon :: tokens value
  | (key, value) :: rest => .string key :: .colon :: tokens value ++ .comma :: fieldTokens rest

end

/-- The value as text without spaces between its tokens. -/
def compact (value : Json) : Text := (tokens value).flatMap Token.toText

/-- The start of a line at the given depth. -/
def newLine (depth : Nat) : Text := '\n' :: List.replicate (2 * depth) ' '

/-- The text of tokens on several lines, where the first of them stands at the given depth. An empty
container stays on its line. -/
def layOut (depth : Nat) : List Token → Text
  | [] => []
  | .openBracket :: .closeBracket :: rest => '[' :: ']' :: layOut depth rest
  | .openBrace :: .closeBrace :: rest => '{' :: '}' :: layOut depth rest
  | .openBracket :: rest => '[' :: newLine (depth + 1) ++ layOut (depth + 1) rest
  | .openBrace :: rest => '{' :: newLine (depth + 1) ++ layOut (depth + 1) rest
  | .closeBracket :: rest => newLine (depth - 1) ++ ']' :: layOut (depth - 1) rest
  | .closeBrace :: rest => newLine (depth - 1) ++ '}' :: layOut (depth - 1) rest
  | .comma :: rest => ',' :: newLine depth ++ layOut depth rest
  | .colon :: rest => ':' :: ' ' :: layOut depth rest
  | token :: rest => token.toText ++ layOut depth rest

/-- The value as text on several lines. -/
def pretty (value : Json) : Text := layOut 0 (tokens value)

end ReefCards.Json
