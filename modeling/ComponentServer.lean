import ComponentServer.Proofs.Editing.History
import ComponentServer.Proofs.Editing.Positions
import ComponentServer.Proofs.Import.Coherence
import ComponentServer.Proofs.Mapping.Ordered
import ComponentServer.Proofs.Mapping.Scan
import ComponentServer.Proofs.Markup.Shift
import ComponentServer.Proofs.Markup.Tiling
import ComponentServer.Proofs.Markup.WellFormed
import ComponentServer.Proofs.Session.Closing
import ComponentServer.Proofs.Snapshot.Exclusion
import ComponentServer.Proofs.Snapshot.Isolation
import ComponentServer.Proofs.SourceMap.Unbounded
import ComponentServer.Proofs.Text.Lines
import ComponentServer.Proofs.Tsx.Reported
import ComponentServer.Proofs.Block.Extraction
import ComponentServer.Proofs.Frontmatter.Partition
import ComponentServer.Proofs.Markup.ClosingTags
import ComponentServer.Proofs.Serving.Problems
import ComponentServer.Proofs.Serving.Regions
import ComponentServer.Proofs.Tsx.Naming
import ComponentServer.Proofs.Virtual.Trivia
