import ReefCards.Markup.Segment
import ReefCards.Search.Tally
import ReefCards.Settings.Basic

/-!
# Reports

What a command has to tell: notices for the user, and the cards, segments, icons and so on that were
asked for.
-/

namespace ReefCards

/-- How a notice is meant. -/
inductive NoticeLevel where
  | info
  | success
  | warning
  | error
  deriving DecidableEq, Repr

/-- A line for the user. -/
structure Notice where
  level : NoticeLevel
  content : Text
  deriving DecidableEq, Repr

/-- The outcome of a command. -/
structure Report where
  cards : List Card := []
  segments : List Segment := []
  text : Option Text := none
  tally : Option Tally := none
  icons : List Text := []
  settings : Option Settings := none
  notices : List Notice := []

end ReefCards
