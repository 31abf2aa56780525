import ReefCards.Text.Basic
import ReefCards.Text.Lowercase.Table

/-!
# Small letters

The lowercase form of a text under the full Unicode rules: a capital I with a dot becomes two
characters, and a capital sigma becomes the final sigma at the end of a word. Whether a sigma ends
a word is decided by the nearest characters on its two sides that are not ignored, so
`lowercaseFrom` carries the characters already passed, the nearest first.
-/

namespace ReefCards.Text

/-- The small form of a character within the run, by its distance from the run's first capital. -/
def CaseRun.apply? (run : CaseRun) (c : Char) : Option Char :=
  let n := c.toNat
  if run.first ≤ n ∧ n ≤ run.last ∧ (n - run.first) % run.stride = 0 then
    some (Char.ofNat (run.target + (n - run.first)))
  else none

/-- The small form of a single character; one without a small form stays. -/
def smallLetter (c : Char) : Char :=
  if c.toNat < 0x80 then c.toLower
  else (caseRuns.findSome? fun run => run.apply? c).getD c

/-- Whether the first character that is not ignored for case is a cased letter. -/
def beginsCased (text : Text) : Bool :=
  match text.dropWhile caseIgnorables.contains with
  | c :: _ => casedLetters.contains c
  | [] => false

/-- The small form of one character between what stands before it, nearest first, and what comes
after it. -/
def lowercaseChar (before : Text) (c : Char) (after : Text) : Text :=
  if c = 'Σ' then
    [if beginsCased before && !beginsCased after then 'ς' else 'σ']
  else if c = 'İ' then ['i', '\u0307']
  else [smallLetter c]

/-- The lowercase form of a text that continues `before`, whose nearest character is first. -/
def lowercaseFrom (before : Text) : Text → Text
  | [] => []
  | c :: rest => lowercaseChar before c rest ++ lowercaseFrom (c :: before) rest

/-- The lowercase form of a text. -/
def lowercase (text : Text) : Text := lowercaseFrom [] text

end ReefCards.Text
