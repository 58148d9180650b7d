import Lineage.Main
import Lineage.Proofs.Capitals
import Lineage.Proofs.Coarsening
import Lineage.Proofs.Collapsing
import Lineage.Proofs.Connections
import Lineage.Proofs.Failures
import Lineage.Proofs.Folding
import Lineage.Proofs.HiddenColumns
import Lineage.Proofs.Keyed
import Lineage.Proofs.Merging
import Lineage.Proofs.Passes
import Lineage.Proofs.Reach
import Lineage.Proofs.Repetition
import Lineage.Proofs.Scoping
import Lineage.Proofs.Scripts
import Lineage.Proofs.Tidiness
import Lineage.Proofs.Together
import Lineage.Proofs.BuiltViews
import Lineage.Proofs.LinkIds
import Lineage.Proofs.Documents
import Lineage.Proofs.SavedDiagrams
import Lineage.Proofs.Names
import Lineage.Proofs.Paths
import Lineage.Proofs.Traces
import Lineage.Proofs.Occurrences
import Lineage.Proofs.ShownColumns
import Lineage.Proofs.Redrawing
import Lineage.Proofs.Filters
import Lineage.Proofs.Selecting
import Lineage.Proofs.JointSelections
import Lineage.Proofs.Toggling
import Lineage.Proofs.WrittenTables
import Lineage.Proofs.Rearranging
import Lineage.Proofs.AnalysisTexts
import Lineage.Proofs.Spellings
import Lineage.Proofs.Highlighting
import Lineage.Proofs.CsvTables
import Lineage.Proofs.QuotedNames
import Lineage.Proofs.CompletedColumns
