import Sponsorship.Http.Respond
import Sponsorship.Id.Base62
import Sponsorship.Json.Canonical
import Sponsorship.Settings.Address
import Sponsorship.Sql.Products
import Sponsorship.Sql.Script
import Sponsorship.Sql.Store
import Sponsorship.Store.Memory
import Sponsorship.Proofs.Ends
import Sponsorship.Proofs.Supply
import Sponsorship.Proofs.Composed
import Sponsorship.Proofs.AllOrNothing
import Sponsorship.Proofs.Minted
import Sponsorship.Proofs.Rows
import Sponsorship.Proofs.Transition
import Sponsorship.Proofs.Sound
import Sponsorship.Proofs.Rules
import Sponsorship.Proofs.Advance
import Sponsorship.Proofs.Save
import Sponsorship.Proofs.Effect
import Sponsorship.Proofs.Numbered
import Sponsorship.Proofs.Failure
import Sponsorship.Proofs.Validity
import Sponsorship.Proofs.ReviewGate
import Sponsorship.Proofs.Ownership
import Sponsorship.Proofs.Leftovers
import Sponsorship.Proofs.Confined
import Sponsorship.Proofs.Isolation
import Sponsorship.Proofs.Editing
import Sponsorship.Proofs.Idle
import Sponsorship.Proofs.Workflow
import Sponsorship.Proofs.Resave
import Sponsorship.Proofs.Schedules
import Sponsorship.Proofs.Completion
import Sponsorship.Proofs.Retry
import Sponsorship.Proofs.Transcript
import Sponsorship.Proofs.Locking
import Sponsorship.Proofs.LockOrder
import Sponsorship.Proofs.Texts
import Sponsorship.Proofs.Paging
import Sponsorship.Proofs.Decoding
import Sponsorship.Proofs.Readback
import Sponsorship.Proofs.Reopening
import Sponsorship.Proofs.Reconciliation
import Sponsorship.Proofs.Reading
import Sponsorship.Proofs.Verdicts
import Sponsorship.Proofs.SubmissionLog
import Sponsorship.Proofs.Redaction
import Sponsorship.Proofs.Pointwise
import Sponsorship.Proofs.Splitting
import Sponsorship.Proofs.Sheets
import Sponsorship.Proofs.Roster
import Sponsorship.Proofs.Creation
import Sponsorship.Proofs.Listings
import Sponsorship.Proofs.Lettercase
import Sponsorship.Proofs.Wildcards
import Sponsorship.Proofs.StageCounts
import Sponsorship.Proofs.Participations
import Sponsorship.Proofs.Parcels
import Sponsorship.Proofs.StoredCodes
import Sponsorship.Proofs.StoredReplies
import Sponsorship.Proofs.CompactIds
import Sponsorship.Proofs.CompactIds
import Sponsorship.Proofs.ScheduleSets
