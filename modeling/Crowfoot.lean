import Crowfoot.Document.Draft
import Crowfoot.Layout.Slot
import Crowfoot.Main
import Crowfoot.Server.Handler
import Crowfoot.Proofs.Action.Integrity
import Crowfoot.Proofs.Action.Linking
import Crowfoot.Proofs.Command.Sparing
import Crowfoot.Proofs.Ddl.Alteration
import Crowfoot.Proofs.Ddl.Constraints
import Crowfoot.Proofs.Ddl.Enclosure
import Crowfoot.Proofs.Ddl.Extraction
import Crowfoot.Proofs.Ddl.Origin
import Crowfoot.Proofs.Ddl.Renaming
import Crowfoot.Proofs.Ddl.Rewriting
import Crowfoot.Proofs.Ddl.RoundTrip
import Crowfoot.Proofs.Decimal.Whole
import Crowfoot.Proofs.Document.Draft
import Crowfoot.Proofs.Document.Interchange
import Crowfoot.Proofs.Document.Refusal
import Crowfoot.Proofs.Editing.Commuting
import Crowfoot.Proofs.Editing.WellFormed
import Crowfoot.Proofs.Layout.Crossing
import Crowfoot.Proofs.Layout.Hierarchy
import Crowfoot.Proofs.Layout.Relayout
import Crowfoot.Proofs.Layout.Search
import Crowfoot.Proofs.Layout.Separation
import Crowfoot.Proofs.Schema.Bridging
import Crowfoot.Proofs.Schema.Naming
import Crowfoot.Proofs.Schema.Numbering
import Crowfoot.Proofs.Schema.Removal
import Crowfoot.Proofs.Schema.Reordering
import Crowfoot.Proofs.Server.Refusal
import Crowfoot.Proofs.Store.Batch
import Crowfoot.Proofs.Store.Capture
import Crowfoot.Proofs.Store.Chronicle
import Crowfoot.Proofs.Store.Listening
