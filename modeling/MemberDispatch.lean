import MemberDispatch.Annotation
import MemberDispatch.Attribute
import MemberDispatch.Callable
import MemberDispatch.Calling
import MemberDispatch.Catalog
import MemberDispatch.Class.DispatchMap
import MemberDispatch.Class.Hierarchy
import MemberDispatch.Class.Id
import MemberDispatch.Class.Intrinsic
import MemberDispatch.Class.Linearization
import MemberDispatch.CommandLine
import MemberDispatch.CommandLine.Arguments
import MemberDispatch.CommandLine.Literal
import MemberDispatch.CommandLine.Usage
import MemberDispatch.Configuration
import MemberDispatch.Converter.Basic
import MemberDispatch.Converter.Convert
import MemberDispatch.Converter.Table
import MemberDispatch.Declaration
import MemberDispatch.Display
import MemberDispatch.Document.Basic
import MemberDispatch.Document.Folder
import MemberDispatch.Document.Json
import MemberDispatch.Document.Toml
import MemberDispatch.Document.Toml.Table
import MemberDispatch.Document.Toml.Token
import MemberDispatch.Document.Yaml
import MemberDispatch.Document.Yaml.Place
import MemberDispatch.Document.Yaml.Scalar
import MemberDispatch.Document.Yaml.Text
import MemberDispatch.Engine
import MemberDispatch.Event
import MemberDispatch.Fault
import MemberDispatch.Host
import MemberDispatch.Intrinsic.Bytes
import MemberDispatch.Intrinsic.Collections
import MemberDispatch.Intrinsic.Decimals
import MemberDispatch.Intrinsic.Numbers
import MemberDispatch.Intrinsic.Texts
import MemberDispatch.Library.Collections
import MemberDispatch.Library.Modules
import MemberDispatch.Library.Numeric
import MemberDispatch.Library.Provider
import MemberDispatch.Library.Textual
import MemberDispatch.Machine
import MemberDispatch.Main
import MemberDispatch.Member.Basic
import MemberDispatch.Member.Index
import MemberDispatch.Member.IndexRequest
import MemberDispatch.Member.LazyIndex
import MemberDispatch.Member.Use
import MemberDispatch.Member.ValueIndex
import MemberDispatch.Module.Builtin
import MemberDispatch.Naming
import MemberDispatch.Number.Binary64
import MemberDispatch.Number.Decimal.Arithmetic
import MemberDispatch.Number.Decimal.Basic
import MemberDispatch.Number.FloatText
import MemberDispatch.Number.FractionText
import MemberDispatch.Number.HexFloat
import MemberDispatch.Number.Integer
import MemberDispatch.Number.IntegerFunctions
import MemberDispatch.Number.IntegerText
import MemberDispatch.Number.Power
import MemberDispatch.Number.RealFunctions
import MemberDispatch.Number.Shortest
import MemberDispatch.Operator
import MemberDispatch.PendingCall
import MemberDispatch.Proofs.Catalog.Binding
import MemberDispatch.Proofs.Catalog.Counts
import MemberDispatch.Proofs.Catalog.Declared
import MemberDispatch.Proofs.Catalog.Origin
import MemberDispatch.Proofs.Catalog.Steps
import MemberDispatch.Proofs.Class.Coherence
import MemberDispatch.Proofs.Class.Inheritance
import MemberDispatch.Proofs.Class.Walk
import MemberDispatch.Proofs.Converter.Coercions
import MemberDispatch.Proofs.Converter.Exactness
import MemberDispatch.Proofs.Converter.Growth
import MemberDispatch.Proofs.Converter.History
import MemberDispatch.Proofs.Converter.Likeness
import MemberDispatch.Proofs.Converter.Rule
import MemberDispatch.Proofs.Converter.Settling
import MemberDispatch.Proofs.Host.Evaluation
import MemberDispatch.Proofs.Host.Faults
import MemberDispatch.Proofs.Host.Feeding
import MemberDispatch.Proofs.Host.Memory
import MemberDispatch.Proofs.Host.Names
import MemberDispatch.Proofs.Index.FirstFit
import MemberDispatch.Proofs.Index.Landing
import MemberDispatch.Proofs.Index.Lazy
import MemberDispatch.Proofs.Index.Order
import MemberDispatch.Proofs.Index.Renumbering
import MemberDispatch.Proofs.Index.Stretches
import MemberDispatch.Proofs.Member.Receiving
import MemberDispatch.Proofs.Member.ValueIndex
import MemberDispatch.Proofs.Number.IntegerText
import MemberDispatch.Proofs.Number.Whole
import MemberDispatch.Proofs.Pending.Blame
import MemberDispatch.Proofs.Pending.Outcome
import MemberDispatch.Proofs.Registry.Arguments
import MemberDispatch.Proofs.Registry.Batches
import MemberDispatch.Proofs.Registry.Equality
import MemberDispatch.Proofs.Registry.Freshness
import MemberDispatch.Proofs.Registry.Likeness
import MemberDispatch.Proofs.Registry.Negation
import MemberDispatch.Proofs.Registry.Operation
import MemberDispatch.Proofs.Registry.Operators
import MemberDispatch.Proofs.Registry.Overriding
import MemberDispatch.Proofs.Registry.Reads
import MemberDispatch.Proofs.Registry.Rebuild
import MemberDispatch.Proofs.Registry.Receivers
import MemberDispatch.Proofs.Registry.Registration
import MemberDispatch.Proofs.Registry.Shares
import MemberDispatch.Proofs.Registry.Sources
import MemberDispatch.Proofs.Session.Looking
import MemberDispatch.Proofs.Session.Run
import MemberDispatch.Proofs.Value.Decision
import MemberDispatch.Proofs.Value.Inequality
import MemberDispatch.Registry
import MemberDispatch.Session
import MemberDispatch.Term
import MemberDispatch.Text.Blank
import MemberDispatch.Text.CaseTable
import MemberDispatch.Text.Encoding
import MemberDispatch.Text.Escape
import MemberDispatch.Text.Letter
import MemberDispatch.Text.LetterCase
import MemberDispatch.Text.Percent
import MemberDispatch.Text.Printable
import MemberDispatch.Text.Quoted
import MemberDispatch.Text.Ranges
import MemberDispatch.Text.Slice
import MemberDispatch.Text.Split
import MemberDispatch.Text.Utf8
import MemberDispatch.Text.Wrap
import MemberDispatch.Value
import MemberDispatch.Value.Argument
import MemberDispatch.Value.Arithmetic
import MemberDispatch.Value.Compare
import MemberDispatch.Value.Operate
import MemberDispatch.Value.Range
import MemberDispatch.Value.Written
import MemberDispatch.Width
import MemberDispatch.Proofs.Session.Tending
import MemberDispatch.Proofs.Registry.Configuring
import MemberDispatch.Proofs.Library.Calls
import MemberDispatch.Proofs.Library.Division
import MemberDispatch.Proofs.Library.Stretches
import MemberDispatch.Proofs.CommandLine.Literals
import MemberDispatch.Proofs.CommandLine.Making
import MemberDispatch.Proofs.Registry.Preparing
import MemberDispatch.Proofs.CommandLine.Order
import MemberDispatch.Proofs.Host.Chains
import MemberDispatch.Proofs.CommandLine.Endings
import MemberDispatch.Proofs.Routine.Basic
import MemberDispatch.Proofs.Routine.Values
import MemberDispatch.Proofs.Routine.Numeric
import MemberDispatch.Proofs.Routine.Textual
import MemberDispatch.Proofs.Routine.Collections
import MemberDispatch.Proofs.Routine.Calling
import MemberDispatch.Proofs.Routine.Upkeep
import MemberDispatch.Proofs.Routine.Naming
import MemberDispatch.Proofs.Host.Descriptions
import MemberDispatch.Proofs.Annotation.Wrappers
import MemberDispatch.Proofs.Pending.Interruption
import MemberDispatch.Proofs.Class.Priority
import MemberDispatch.Proofs.Routine.Lasting
import MemberDispatch.Proofs.Host.Paths
import MemberDispatch.Proofs.Library.UnsignedShift
import MemberDispatch.Proofs.Registry.Provided
import MemberDispatch.Proofs.Registry.Standard
import MemberDispatch.Proofs.Converter.Ranging
import MemberDispatch.Proofs.Host.ShiftCounts
import MemberDispatch.Proofs.Catalog.Voids
import MemberDispatch.Proofs.Pending.Watching
import MemberDispatch.Proofs.Pending.Inspection
