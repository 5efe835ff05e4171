import SourceDigest.Files.Memory
import SourceDigest.Main
import SourceDigest.Proofs.Analysis.Selection
import SourceDigest.Proofs.Analysis.Insights
import SourceDigest.Proofs.Reply.Truncation
import SourceDigest.Proofs.Scan.Budget
import SourceDigest.Proofs.Reply.Unwrapping
import SourceDigest.Proofs.Json.Comma
import SourceDigest.Proofs.Json.Failing
import SourceDigest.Proofs.Reply.TrailingCommas
import SourceDigest.Proofs.Reply.DanglingKey
import SourceDigest.Proofs.Reply.Written
import SourceDigest.Proofs.Reply.Conservation
import SourceDigest.Proofs.Path.Components
import SourceDigest.Proofs.Path.Order
import SourceDigest.Proofs.Scan.Sorting
import SourceDigest.Proofs.Files.Listing
import SourceDigest.Proofs.Scan.Walk
import SourceDigest.Proofs.Scan.Discovery
import SourceDigest.Proofs.Scan.Entries
import SourceDigest.Proofs.Scan.Ranking
import SourceDigest.Proofs.Path.Relative
import SourceDigest.Proofs.Scan.Description
import SourceDigest.Proofs.Scan.Precedence
import SourceDigest.Proofs.Analysis.Preference
import SourceDigest.Proofs.Analysis.Ceiling
import SourceDigest.Proofs.Analysis.Verdict
import SourceDigest.Proofs.Syntax.Composition
import SourceDigest.Proofs.Snapshot.RoundTrip
import SourceDigest.Proofs.Reply.Prose
import SourceDigest.Proofs.Reply.FirstFence
import SourceDigest.Proofs.Extraction.Answer
import SourceDigest.Proofs.Analysis.SingleFile
import SourceDigest.Proofs.Scan.Containment
import SourceDigest.Proofs.Text.Splitting
import SourceDigest.Proofs.Scan.Glob
import SourceDigest.Proofs.Scan.Levels
import SourceDigest.Proofs.Scan.Naming
import SourceDigest.Proofs.Scan.Addressing
import SourceDigest.Proofs.Schema.Decoding
import SourceDigest.Proofs.Extraction.Shape
import SourceDigest.Proofs.Syntax.Specifier
import SourceDigest.Proofs.Syntax.Comments
import SourceDigest.Proofs.Syntax.Receiver
import SourceDigest.Proofs.Extraction.Prompt
import SourceDigest.Proofs.Scan.Estimate
import SourceDigest.Proofs.Syntax.Loading
import SourceDigest.Proofs.TechStack.Summary
import SourceDigest.Proofs.Snapshot.Replacement
import SourceDigest.Proofs.Syntax.LevelOrder
import SourceDigest.Proofs.Syntax.Parameters
import SourceDigest.Proofs.Configuration.Limit
import SourceDigest.Proofs.Decimal.Numeral
import SourceDigest.Proofs.Toml.Setting
import SourceDigest.Proofs.Analysis.PoolLimit
