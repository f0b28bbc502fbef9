import Emend.Files.Tree
import Emend.Main
import Emend.Proofs.Assembly.Agreement
import Emend.Proofs.Assembly.Commit
import Emend.Proofs.Assembly.Contribution
import Emend.Proofs.Assembly.Extent
import Emend.Proofs.Assembly.Opening
import Emend.Proofs.Assembly.SingleFile
import Emend.Proofs.Change.Legacy
import Emend.Proofs.Change.RoundTrip
import Emend.Proofs.Diff.Stats
import Emend.Proofs.Edit.Dropping
import Emend.Proofs.Edit.Incoming
import Emend.Proofs.Edit.Invariant
import Emend.Proofs.Edit.Rebuilding
import Emend.Proofs.Edit.Refusal
import Emend.Proofs.Text.Cutting
import Emend.Proofs.Uri.RoundTrip
