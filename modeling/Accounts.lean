import Accounts.World
import Accounts.Proofs.Store.Answers
import Accounts.Proofs.Store.Commit
import Accounts.Proofs.Store.Invisible
import Accounts.Proofs.Store.Shown
import Accounts.Proofs.Store.Undisturbed
import Accounts.Proofs.Delegate.Registrations
import Accounts.Proofs.Business.Authentication
import Accounts.Proofs.Business.Credentials
import Accounts.Proofs.Business.Deletion
import Accounts.Proofs.Business.Ended
import Accounts.Proofs.Business.Failure
import Accounts.Proofs.Business.Lifecycle
import Accounts.Proofs.Business.Reports
import Accounts.Proofs.Business.Requests
import Accounts.Proofs.Business.Secrets
import Accounts.Proofs.Business.Spans
import Accounts.Proofs.Business.Updates
import Accounts.Proofs.Email
import Accounts.Proofs.OrderBy
import Accounts.Proofs.Wire.Shapes
