import Munch.Main
import Munch.Proofs.Stability
import Munch.Proofs.Boundaries
import Munch.Proofs.Agreement
import Munch.Proofs.Naming
import Munch.Proofs.Calls
import Munch.Proofs.Delivery
import Munch.Proofs.Ignoring
import Munch.Proofs.Reload
import Munch.Proofs.Unknown
import Munch.Proofs.Csv
import Munch.Proofs.Listing
import Munch.Proofs.Overrides
import Munch.Proofs.Positions
import Munch.Proofs.Pattern.Denotation
import Munch.Proofs.Pattern.Bracket
import Munch.Proofs.Pattern.Parser
import Munch.Proofs.Pattern.Enclosing
import Munch.Proofs.Anchoring
import Munch.Proofs.Accounting
import Munch.Proofs.Reach
import Munch.Proofs.Json.Tree
import Munch.Proofs.Json.Grammar
import Munch.Proofs.Json.Meaning
import Munch.Proofs.Json.Strict
import Munch.Proofs.Json.Layout
import Munch.Proofs.Json.Edit
import Munch.Proofs.Presentation
