import Furthest.Checked.Parser
import Furthest.Counting
import Furthest.Custom
import Furthest.Parse
import Furthest.Proofs.Bounds
import Furthest.Proofs.Ledger
import Furthest.Proofs.QuotedGrammar
import Furthest.Proofs.Relabelling
import Furthest.Proofs.Translation
import Furthest.Proofs.Transparency
import Furthest.Proofs.LedgerAlgebra
import Furthest.Proofs.Sequencing
import Furthest.Proofs.Numerals
import Furthest.Proofs.Entries
import Furthest.Proofs.Parentheses
import Furthest.Proofs.RepetitionLaws
import Furthest.Proofs.Repetition
import Furthest.Proofs.Choices
import Furthest.Proofs.DecimalRuns
import Furthest.Proofs.Arithmetic
import Furthest.Proofs.WholeText
import Furthest.Proofs.Separators
import Furthest.Proofs.IntegerRuns
import Furthest.Proofs.Escapes
import Furthest.Proofs.LinesAndColumns
import Furthest.Proofs.RawStrings
import Furthest.Proofs.LengthPrefixed
import Furthest.Proofs.FloatTexts
import Furthest.Proofs.Carets
import Furthest.Proofs.Scanning
import Furthest.Proofs.Descriptions
import Furthest.Proofs.Lookaheads
import Furthest.Proofs.Merging
