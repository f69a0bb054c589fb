import GoAtlas.Files.Faulty
import GoAtlas.Json.Printer
import GoAtlas.Main
import GoAtlas.Proofs.Custody
import GoAtlas.Proofs.Independence
import GoAtlas.Proofs.Ledger
import GoAtlas.Proofs.Removal
import GoAtlas.Proofs.Rescan
import GoAtlas.Proofs.Answers
import GoAtlas.Proofs.Downloads
import GoAtlas.Proofs.Naming
import GoAtlas.Proofs.Tracking
import GoAtlas.Proofs.Wire
import GoAtlas.Proofs.Settings
import GoAtlas.Proofs.ScanErrors
import GoAtlas.Proofs.Installation
import GoAtlas.Proofs.Uncovered
import GoAtlas.Proofs.Failures
import GoAtlas.Proofs.SharedRoot
import GoAtlas.Proofs.Versions
import GoAtlas.Proofs.Normalization
import GoAtlas.Proofs.Repositories
import GoAtlas.Proofs.Scopes
import GoAtlas.Proofs.Preorder
import GoAtlas.Proofs.Announcements
import GoAtlas.Proofs.Derivation
import GoAtlas.Proofs.Checkouts
import GoAtlas.Proofs.Quotation
import GoAtlas.Proofs.ImportComments
import GoAtlas.Proofs.FoundFolders
import GoAtlas.Proofs.Directives
import GoAtlas.Proofs.Registry
import GoAtlas.Proofs.Grammar
import GoAtlas.Proofs.Enclosure
import GoAtlas.Proofs.Traversal
import GoAtlas.Proofs.Components
