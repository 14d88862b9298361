import ProtocolGate.Canonical.Context
import ProtocolGate.Canonical.Equivalence
import ProtocolGate.Canonical.Form
import ProtocolGate.Canonical.Rewrite
import ProtocolGate.Config
import ProtocolGate.Datum
import ProtocolGate.Decimal.Layout
import ProtocolGate.Decimal.Reader
import ProtocolGate.Decimal.Shortest
import ProtocolGate.Digest
import ProtocolGate.Document
import ProtocolGate.Document.Yaml
import ProtocolGate.Document.Yaml.Folding
import ProtocolGate.Document.Yaml.Style
import ProtocolGate.Engine
import ProtocolGate.Engine.Cached
import ProtocolGate.Engine.Session
import ProtocolGate.Fault
import ProtocolGate.Governance
import ProtocolGate.Pattern.Cache
import ProtocolGate.Pattern.Charset
import ProtocolGate.Pattern.Escape
import ProtocolGate.Pattern.Fault
import ProtocolGate.Pattern.Flags
import ProtocolGate.Pattern.Grammar
import ProtocolGate.Pattern.Matching
import ProtocolGate.Pattern.Node
import ProtocolGate.Pattern.Opening
import ProtocolGate.Pattern.Reading
import ProtocolGate.Pattern.Source
import ProtocolGate.Pattern.Width
import ProtocolGate.Record
import ProtocolGate.Record.Chain
import ProtocolGate.Registry
import ProtocolGate.Scan
import ProtocolGate.Specification
import ProtocolGate.Specification.Format
import ProtocolGate.Specification.Header
import ProtocolGate.Text
import ProtocolGate.Text.Quoted
import ProtocolGate.Unicode.Case
import ProtocolGate.Unicode.Identifier
import ProtocolGate.Unicode.Letter
import ProtocolGate.Unicode.Name
import ProtocolGate.Unicode.Printable
import ProtocolGate.Unicode.Ranges
import ProtocolGate.Vocabulary
import ProtocolGate.Proofs.Canonical.Rewriting
import ProtocolGate.Proofs.Canonical.Clean
import ProtocolGate.Proofs.Canonical.PercentForms
import ProtocolGate.Proofs.Canonical.Equivalence
import ProtocolGate.Proofs.Canonical.Holding
import ProtocolGate.Proofs.Engine.Events
import ProtocolGate.Proofs.Engine.Runs
import ProtocolGate.Proofs.Engine.Start
import ProtocolGate.Proofs.Registry
import ProtocolGate.Proofs.Registry.Calls
import ProtocolGate.Proofs.Scan.Cached
import ProtocolGate.Proofs.Scan.FirstMatch
import ProtocolGate.Proofs.Scan.Segmentation
import ProtocolGate.Proofs.Scan.States
import ProtocolGate.Proofs.Scan.Order
import ProtocolGate.Proofs.Engine.Failure
import ProtocolGate.Proofs.Engine.Equivalence
import ProtocolGate.Proofs.Engine.Lifecycle
import ProtocolGate.Proofs.Engine.Repetition
import ProtocolGate.Proofs.Engine.Independence
import ProtocolGate.Proofs.Canonical.Pieces
import ProtocolGate.Proofs.Decimal.Rounding
import ProtocolGate.Proofs.Engine.Accounting
import ProtocolGate.Proofs.Scan.Outcome
import ProtocolGate.Proofs.Engine.Gate
import ProtocolGate.Proofs.Canonical.Agreement
import ProtocolGate.Proofs.Canonical.Shadow
import ProtocolGate.Proofs.Canonical.Variants
import ProtocolGate.Proofs.Pattern.Longest
import ProtocolGate.Proofs.Pattern.Vocabulary
import ProtocolGate.Proofs.Scan.Coherence
import ProtocolGate.Proofs.Record.Path
import ProtocolGate.Proofs.Record.Chain
import ProtocolGate.Proofs.Specification.Described
import ProtocolGate.Proofs.Specification.Export
import ProtocolGate.Proofs.Specification.Literal
import ProtocolGate.Proofs.Specification.Header
import ProtocolGate.Proofs.Canonical.Termination
import ProtocolGate.Proofs.Registry.Admission
import ProtocolGate.Proofs.Engine.Batch
import ProtocolGate.Proofs.Decimal.Nearest
import ProtocolGate.Proofs.Decimal.Bits
import ProtocolGate.Proofs.Decimal.Reader
import ProtocolGate.Proofs.Decimal.Shortest
import ProtocolGate.Proofs.Document.Numeral
import ProtocolGate.Proofs.Document.Number
import ProtocolGate.Proofs.Document.Json
import ProtocolGate.Proofs.Document.Schema
import ProtocolGate.Proofs.Specification.Json
import ProtocolGate.Proofs.Specification.Snapshot
import ProtocolGate.Proofs.Decimal.Magnitude
import ProtocolGate.Proofs.Decimal.Order
import ProtocolGate.Proofs.Governance
import ProtocolGate.Proofs.Engine.Growth
import ProtocolGate.Proofs.Pattern.Calls
import ProtocolGate.Proofs.Registry.Cached
