import TemplateScan.Golden.Difference
import TemplateScan.Golden.Manifest
import TemplateScan.Host.Parse
import TemplateScan.Main
import TemplateScan.Proofs.Document.Procedure
import TemplateScan.Proofs.Snapshot.RoundTrip
import TemplateScan.Proofs.Document.Reading
import TemplateScan.Proofs.Document.Checkpoint
import TemplateScan.Proofs.Lexing.LiteralSearch
import TemplateScan.Proofs.Lexing.TextRun
import TemplateScan.Proofs.Document.ContentScan
import TemplateScan.Proofs.Document.TextTiling
import TemplateScan.Proofs.Lexing.ElementName
import TemplateScan.Proofs.Lexing.Bodies
import TemplateScan.Proofs.Lexing.MustacheTag
import TemplateScan.Proofs.Document.Template
import TemplateScan.Proofs.Document.PieceReading
import TemplateScan.Proofs.Document.ContentReading
import TemplateScan.Proofs.Document.TemplateParse
import TemplateScan.Proofs.Lexing.Findings
import TemplateScan.Proofs.Text.Stretches
import TemplateScan.Proofs.Text.Marks
import TemplateScan.Proofs.Replay
import TemplateScan.Proofs.Document.Scans
import TemplateScan.Proofs.Document.Walk
import TemplateScan.Proofs.Document.Progress
import TemplateScan.Proofs.Document.Order
import TemplateScan.Proofs.Document.Termination
import TemplateScan.Proofs.Document.Directive
import TemplateScan.Proofs.Document.ImpliedEnds
import TemplateScan.Proofs.Snapshot.Clipping
import TemplateScan.Proofs.Lexing.Opening
import TemplateScan.Proofs.Document.DirectiveChain
import TemplateScan.Proofs.Document.Balance
import TemplateScan.Proofs.Document.OpenElements
import TemplateScan.Proofs.Lexing.Lookahead
import TemplateScan.Proofs.Rescan
import TemplateScan.Proofs.Snapshot.Truncation
import TemplateScan.Proofs.Document.Separation
import TemplateScan.Proofs.Document.NewElements
import TemplateScan.Proofs.Document.Containment
import TemplateScan.Proofs.Text.Utf8
import TemplateScan.Proofs.Snapshot.Clean
import TemplateScan.Proofs.Document.PartialOpening
import TemplateScan.Proofs.Canonical
import TemplateScan.Proofs.Document.WholeDirectives
import TemplateScan.Proofs.Document.FixedDelimiters
import TemplateScan.Proofs.Document.BodyScan
import TemplateScan.Proofs.Document.OpeningPaths
import TemplateScan.Proofs.Document.MissingEndTags
import TemplateScan.Proofs.Snapshot.Capacity
import TemplateScan.Proofs.Snapshot.Stability
import TemplateScan.Proofs.Snapshot.Announced
import TemplateScan.Proofs.Snapshot.Buffer
import TemplateScan.Proofs.Placement
import TemplateScan.Proofs.Admission
import TemplateScan.Proofs.Listing
import TemplateScan.Proofs.Golden.Expectation
import TemplateScan.Proofs.Golden.Difference
import TemplateScan.Proofs.Text.Cursor
import TemplateScan.Proofs.Lexing.Overflow
import TemplateScan.Proofs.Golden.Manifest
import TemplateScan.Proofs.Host.Follows
import TemplateScan.Proofs.Host.Loops
import TemplateScan.Proofs.Host.Reading
import TemplateScan.Proofs.Host.Safety
import TemplateScan.Proofs.Host.Checkpoint
import TemplateScan.Proofs.Host.Template
