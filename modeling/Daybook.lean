import Daybook.Main
import Daybook.Program.Machine
import Daybook.Proofs.Ledger.FixedPoint
import Daybook.Proofs.Ledger.Rebuild
import Daybook.Proofs.Session.Unsaved
import Daybook.Proofs.Ledger.Arranged
import Daybook.Proofs.Booking.Exact
import Daybook.Proofs.Ledger.Balanced
import Daybook.Proofs.Ledger.Listed
import Daybook.Proofs.Session.Failure
import Daybook.Proofs.Ledger.Preserved
import Daybook.Proofs.Session.Reloaded
import Daybook.Proofs.Ledger.Shown
import Daybook.Proofs.Session.Selected
import Daybook.Proofs.Ledger.Accounts
import Daybook.Proofs.Ledger.ContactBalances
import Daybook.Proofs.Ledger.Register
import Daybook.Proofs.Ledger.Journal
import Daybook.Proofs.Ledger.Closure
import Daybook.Proofs.Booking.Splits
import Daybook.Proofs.Ledger.LoadFailure
import Daybook.Proofs.Session.Outcomes
import Daybook.Proofs.Ledger.Gaps
import Daybook.Proofs.Ledger.Unplaced
import Daybook.Proofs.Currency.Merged
import Daybook.Proofs.Ledger.Appended
import Daybook.Proofs.Ledger.Moved
import Daybook.Proofs.Ledger.Kept
import Daybook.Proofs.Currency.Names
import Daybook.Proofs.Currency.Compatible
import Daybook.Proofs.Money.Accepted
import Daybook.Proofs.Money.Rounded
import Daybook.Proofs.Ledger.Accounted
import Daybook.Proofs.Ledger.Remarks
import Daybook.Proofs.Ledger.Blamed
import Daybook.Proofs.Booking.TagPlaces
import Daybook.Proofs.Ledger.Matching
import Daybook.Proofs.Session.Questions
import Daybook.Proofs.Ledger.PostingLine
import Daybook.Proofs.Booking.TagForms
import Daybook.Proofs.Ledger.Paths
