import SqlTriggers.Declaration.Review
import SqlTriggers.Migration.Json
import SqlTriggers.Proofs.Trigger.Checked
import SqlTriggers.Workspace
import SqlTriggers.Proofs.Engine.Rendering
import SqlTriggers.Proofs.Migration.Diff
import SqlTriggers.Proofs.OrderedMap
import SqlTriggers.Proofs.Migration.Replay
import SqlTriggers.Proofs.Result
import SqlTriggers.Proofs.Trigger.DefaultName
import SqlTriggers.Proofs.Declaration.Built
import SqlTriggers.Proofs.Migration.Name
import SqlTriggers.Proofs.Migration.Regeneration
import SqlTriggers.Proofs.Catalog.Statement
import SqlTriggers.Proofs.Catalog.Execution
import SqlTriggers.Proofs.Catalog.Mirror
import SqlTriggers.Proofs.Workspace.Run
import SqlTriggers.Proofs.Json.Spaced
import SqlTriggers.Proofs.Json.Reader
import SqlTriggers.Proofs.Json.Value
import SqlTriggers.Proofs.Trigger.Json
import SqlTriggers.Proofs.Dump.Reader
import SqlTriggers.Proofs.Dump.RoundTrip
import SqlTriggers.Proofs.Trigger.Headline
import SqlTriggers.Proofs.Trigger.Statement
import SqlTriggers.Proofs.Declaration.Statements
import SqlTriggers.Proofs.Engine.Faithful
import SqlTriggers.Proofs.Migration.Acceptance
import SqlTriggers.Proofs.Catalog.Creation
import SqlTriggers.Proofs.Dump.Provenance
import SqlTriggers.Proofs.Workspace.Rollback
import SqlTriggers.Proofs.Declaration.Slots
import SqlTriggers.Proofs.Dump.Contents
import SqlTriggers.Proofs.Migration.Slots
import SqlTriggers.Proofs.Dump.Symbolic
import SqlTriggers.Proofs.Dump.Portability
import SqlTriggers.Proofs.Workspace.Lossless
import SqlTriggers.Proofs.Declaration.FirstMatch
import SqlTriggers.Proofs.Migration.Permutation
import SqlTriggers.Proofs.Migration.Ledger
import SqlTriggers.Proofs.Migration.Json
import SqlTriggers.Proofs.Catalog.Integrity
import SqlTriggers.Proofs.Declaration.Paths
import SqlTriggers.Proofs.Engine.Readback
import SqlTriggers.Proofs.Declaration.WellFormed
import SqlTriggers.Proofs.Declaration.Conditions
import SqlTriggers.Proofs.Text.Thinned
import SqlTriggers.Proofs.Trigger.Terminators
import SqlTriggers.Proofs.Declaration.Expansion
import SqlTriggers.Proofs.Migration.Reversal
import SqlTriggers.Proofs.Migration.AllOrNothing
import SqlTriggers.Proofs.Declaration.Review
import SqlTriggers.Proofs.Declaration.Settings
import SqlTriggers.Proofs.Trigger.Occasion
import SqlTriggers.Proofs.Migration.NameLists
import SqlTriggers.Proofs.Placeholder
import SqlTriggers.Proofs.Text.Words
import SqlTriggers.Proofs.Dump.LineEnds
import SqlTriggers.Proofs.Dump.RawText
import SqlTriggers.Proofs.Migration.Latest
import SqlTriggers.Proofs.Dump.Normal
import SqlTriggers.Proofs.NameGrammar
import SqlTriggers.Migration.Clock
import SqlTriggers.Proofs.Migration.NextVersion
