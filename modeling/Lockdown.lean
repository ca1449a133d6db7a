import Lockdown.Bus.Capability
import Lockdown.Engine.Denotation
import Lockdown.Main
import Lockdown.Proofs.Access
import Lockdown.Proofs.Bus.Reading
import Lockdown.Proofs.Bytes
import Lockdown.Proofs.Check.Outcome
import Lockdown.Proofs.Check.Verdicts
import Lockdown.Proofs.Chipset
import Lockdown.Proofs.Engine.Failures
import Lockdown.Proofs.Engine.Reading
import Lockdown.Proofs.Field
import Lockdown.Proofs.Inspection
import Lockdown.Proofs.Latch
import Lockdown.Proofs.NameMap
import Lockdown.Proofs.Sequence
import Lockdown.Proofs.Store.Acceptance
import Lockdown.Proofs.Store.BaseChain
import Lockdown.Proofs.Store.Fields
import Lockdown.Proofs.Store.Layers
import Lockdown.Proofs.Bus.Writing
import Lockdown.Proofs.Bus.Cycles
import Lockdown.Proofs.Engine.ConfigField
import Lockdown.Proofs.Engine.ThreadField
import Lockdown.Proofs.Engine.Assignment
import Lockdown.Proofs.Check.Independence
import Lockdown.Proofs.Check.Handshake
import Lockdown.Proofs.Native.Agreement
import Lockdown.Proofs.Engine.Locality
import Lockdown.Proofs.Scan.Course
import Lockdown.Proofs.Check.Absence
import Lockdown.Proofs.Json.Literal
import Lockdown.Proofs.Json.Reading
import Lockdown.Proofs.Json.Record
import Lockdown.Proofs.Register.Json
import Lockdown.Proofs.Bus.Memory
import Lockdown.Proofs.Check.FeatureLock
import Lockdown.Proofs.Metrics
import Lockdown.Proofs.Engine.Refusal
import Lockdown.Proofs.Engine.Agreement
import Lockdown.Proofs.Engine.Wraparound
import Lockdown.Proofs.Engine.Width
import Lockdown.Proofs.Engine.ReadBack
import Lockdown.Proofs.Bus.Cells
import Lockdown.Proofs.Bus.Window
import Lockdown.Proofs.Engine.Sparing
import Lockdown.Proofs.Engine.Undo
import Lockdown.Proofs.Store.Search
import Lockdown.Proofs.Check.Acknowledged
import Lockdown.Proofs.Bus.Substitution
import Lockdown.Proofs.Engine.ThreadReads
import Lockdown.Proofs.Poll
import Lockdown.Proofs.Bus.Ports
import Lockdown.Proofs.Bus.Trace
import Lockdown.Proofs.Engine.Trace
import Lockdown.Proofs.Transfer.Minimal
import Lockdown.Proofs.Text.Pieces
import Lockdown.Proofs.Native.CpuList
import Lockdown.Proofs.Native.Halves
import Lockdown.Proofs.Json.Layout
import Lockdown.Proofs.Json.Scanned
import Lockdown.Proofs.Json.Fields
import Lockdown.Proofs.Register.Schema
import Lockdown.Proofs.Register.Steady
import Lockdown.Proofs.Register.Accepted
import Lockdown.Proofs.Register.Order
import Lockdown.Proofs.Field.Lens
import Lockdown.Proofs.Latch.Codec
import Lockdown.Proofs.Files.Cursor
import Lockdown.Proofs.Files.ByteMap
