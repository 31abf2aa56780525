import ReefCards.Main
import ReefCards.Directory
import ReefCards.Proofs.OrderedMap
import ReefCards.Proofs.Text.Lowercase
import ReefCards.Proofs.Text.Trim
import ReefCards.Proofs.Text.Occurrence
import ReefCards.Proofs.SearchBox.Sanitize
import ReefCards.Proofs.SearchBox.Closing
import ReefCards.Proofs.SearchBox.Run
import ReefCards.Proofs.Markup.Shape
import ReefCards.Proofs.Markup.WrittenBack
import ReefCards.Proofs.Markup.Row
import ReefCards.Proofs.Markup.Ungrouped
import ReefCards.Proofs.Markup.Stray
import ReefCards.Proofs.Markup.Spaced
import ReefCards.Proofs.Markup.NormalForm
import ReefCards.Proofs.Search.Evaluate
import ReefCards.Proofs.Search.Run
import ReefCards.Proofs.Search.LateResults
import ReefCards.Proofs.Search.NetEdits
import ReefCards.Proofs.Markup.IconNames
import ReefCards.Proofs.Search.Tally
import ReefCards.Proofs.Search.Meet
import ReefCards.Proofs.Terminal.Browse
import ReefCards.Proofs.Terminal.FacetFlags
import ReefCards.Proofs.Search.Written
import ReefCards.Proofs.Settings.Run
import ReefCards.Proofs.Markup.WellFormed
import ReefCards.Proofs.Markup.Grouped
import ReefCards.Proofs.Markup.Shown
import ReefCards.Proofs.SearchBox.Backspace
import ReefCards.Proofs.SearchBox.Units
import ReefCards.Proofs.Search.Backspace
import ReefCards.Proofs.Text.Words
import ReefCards.Proofs.Text.FinalSigma
import ReefCards.Proofs.Search.Terms
import ReefCards.Proofs.Search.TallySum
import ReefCards.Proofs.Card.Named
import ReefCards.Proofs.Card.Deck
import ReefCards.Proofs.Text.Numeral
import ReefCards.Proofs.Except
import ReefCards.Proofs.Encyclopedia
import ReefCards.Proofs.Text.Columns
import ReefCards.Proofs.Terminal.Truncate
import ReefCards.Proofs.Settings.Shown
import ReefCards.Proofs.Markup.PrintedToken
import ReefCards.Proofs.SearchBox.Alternation
import ReefCards.Proofs.Icon.Listing
import ReefCards.Proofs.Markup.FirstMatch
import ReefCards.Proofs.Text.Slice
import ReefCards.Proofs.Markup.Partition
import ReefCards.Proofs.Markup.Scanner
