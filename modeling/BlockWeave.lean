import BlockWeave.Main
import BlockWeave.Proofs.Discovery.Offsets
import BlockWeave.Proofs.Include.Building
import BlockWeave.Proofs.Marker.Grammar
import BlockWeave.Proofs.Marker.Scan
import BlockWeave.Proofs.Weaving.Chain
import BlockWeave.Proofs.Weaving.Settling
import BlockWeave.Proofs.Weaving.Transparency
import BlockWeave.Proofs.Marker.Writing
import BlockWeave.Proofs.Weaving.Cycle
import BlockWeave.Proofs.Weaving.Alone
import BlockWeave.Proofs.Weaving.Store
import BlockWeave.Proofs.Discovery.Shift
import BlockWeave.Proofs.Text.Tidy
import BlockWeave.Proofs.Weaving.Rebuild
import BlockWeave.Proofs.Builder.History
import BlockWeave.Proofs.Builder.Workshop
import BlockWeave.Proofs.Session.Interface
import BlockWeave.Proofs.Value.Keys
import BlockWeave.Proofs.Config.Schema
import BlockWeave.Proofs.Config.Options
import BlockWeave.Proofs.Config.Append
import BlockWeave.Proofs.Shorthand
import BlockWeave.Proofs.Weaving.Steps
import BlockWeave.Proofs.Weaving.Verbatim
import BlockWeave.Proofs.Processor.Alphabet
import BlockWeave.Proofs.Weaving.Encoded
import BlockWeave.Proofs.Text.Literal
import BlockWeave.Proofs.Weaving.Literal
import BlockWeave.Proofs.Marker.Attributes
import BlockWeave.Proofs.Text.Lines
import BlockWeave.Proofs.Value.Lookup
import BlockWeave.Proofs.Value.Merge
import BlockWeave.Proofs.Config.Environment
import BlockWeave.Proofs.Document.Overlay
import BlockWeave.Proofs.Disk
import BlockWeave.Proofs.Codec.Base64
import BlockWeave.Proofs.Processor.Lossless
import BlockWeave.Proofs.Signature
import BlockWeave.Proofs.Slice
import BlockWeave.Proofs.Marker.Comment
