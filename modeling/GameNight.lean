import GameNight.Browser
import GameNight.Folder
import GameNight.Game.Json
import GameNight.Proofs.Condition.Order
import GameNight.Proofs.Listing.Stability
import GameNight.Settings.Json
import GameNight.Shortlist
import GameNight.Proofs.Listing.Cut
import GameNight.Proofs.Query.Clauses
import GameNight.Proofs.Query.Conjunction
import GameNight.Proofs.Browsing.History
import GameNight.Proofs.Browsing.Narrowing
import GameNight.Proofs.Browsing.Restart
import GameNight.Proofs.Column.Names
import GameNight.Proofs.Condition.Negation
import GameNight.Proofs.Condition.Printing
import GameNight.Proofs.Condition.SameName
import GameNight.Proofs.Shortlist.Refinement
import GameNight.Proofs.Query.LetterCase
import GameNight.Proofs.Shortlist.Finding
import GameNight.Proofs.Shortlist.Positions
import GameNight.Proofs.Folder.LineFiles
import GameNight.Proofs.Json.Records
import GameNight.Proofs.Condition.Trichotomy
import GameNight.Proofs.Text.Parts
import GameNight.Proofs.Condition.NamePart
import GameNight.Proofs.Shortlist.Spans
import GameNight.Proofs.Shortlist.Naming
import GameNight.Proofs.Condition.WholeNumbers
import GameNight.Proofs.Shortlist.Additions
import GameNight.Proofs.Listing.Rearrangement
import GameNight.Proofs.Listing.Mirror
import GameNight.Proofs.Condition.Location
import GameNight.Proofs.Settings.Defaults
