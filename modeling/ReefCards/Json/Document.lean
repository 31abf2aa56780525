import ReefCards.Json.Token

/-!
# JSON documents

Building the value of a document from its tokens. The builder keeps the open arrays and objects on
a stack and takes one token at a time, so a document is a left fold over its tokens. Commas stand
only between values, and nothing follows the document's value.
-/

namespace ReefCards.Json

/-- An open array or object that waits for one of its values. The values so far come last first. -/
inductive Frame where
  | item (items : List Json)
  | field (fields : List (Option Text × Json)) (key : Option Text)

/-- What may come next, and the open arrays and objects around it, the innermost first. -/
inductive Builder where
  | beforeValue (stack : List Frame)
  | beforeFirstItem (stack : List Frame)
  | beforeFirstKey (stack : List Frame)
  | beforeKey (fields : List (Option Text × Json)) (stack : List Frame)
  | beforeColon (fields : List (Option Text × Json)) (key : Option Text) (stack : List Frame)
  | afterItem (items : List Json) (stack : List Frame)
  | afterField (fields : List (Option Text × Json)) (stack : List Frame)
  | finished (value : Json)

namespace Builder

/-- Hands a finished value to the innermost open array or object. -/
def give (value : Json) : List Frame → Builder
  | [] => .finished value
  | .item items :: stack => .afterItem (value :: items) stack
  | .field fields key :: stack => .afterField ((key, value) :: fields) stack

/-- Takes the first token of a value. -/
def beginValue? (stack : List Frame) : Token → Option Builder
  | .null => some (give .null stack)
  | .bool value => some (give (.bool value) stack)
  | .number value => some (give (.number value) stack)
  | .string value => some (give (.string value) stack)
  | .openBracket => some (.beforeFirstItem stack)
  | .openBrace => some (.beforeFirstKey stack)
  | _ => none

/-- Takes one token, or refuses one that may not stand here. -/
def step? : Builder → Token → Option Builder
  | .beforeValue stack, token => beginValue? stack token
  | .beforeFirstItem stack, .closeBracket => some (give (.array []) stack)
  | .beforeFirstItem stack, token => beginValue? (.item [] :: stack) token
  | .beforeFirstKey stack, .closeBrace => some (give (.object []) stack)
  | .beforeFirstKey stack, .string key => some (.beforeColon [] key stack)
  | .beforeKey fields stack, .string key => some (.beforeColon fields key stack)
  | .beforeColon fields key stack, .colon => some (.beforeValue (.field fields key :: stack))
  | .afterItem items stack, .comma => some (.beforeValue (.item items :: stack))
  | .afterItem items stack, .closeBracket => some (give (.array items.reverse) stack)
  | .afterField fields stack, .comma => some (.beforeKey fields stack)
  | .afterField fields stack, .closeBrace => some (give (.object fields.reverse) stack)
  | _, _ => none

/-- The value of a finished document. -/
def result? : Builder → Option Json
  | .finished value => some value
  | _ => none

end Builder

/-- The value of the document with these tokens. -/
def ofTokens? (tokens : List Token) : Option Json :=
  (tokens.foldlM Builder.step? (.beforeValue [])).bind Builder.result?

/-- The value of a JSON document, or nothing when the text is none. -/
def parse? (text : Text) : Option Json := (Token.ofText? text).bind ofTokens?

end ReefCards.Json
