import ShardScript.ByteCode.Boundaries
import ShardScript.Source.Loops
import ShardScript.Source.HandlerStack
import ShardScript.Semantic.FallThrough
import ShardScript.Async.Resume
import ShardScript.Async.Suspension
import ShardScript.Semantic.Effects
import ShardScript.Hoisting.Correctness
import ShardScript.Hoisting.Connectives
import ShardScript.Calls.Restoration
import ShardScript.Calls.Reception
import ShardScript.Frames.Slots
import ShardScript.Heap.Runs
import ShardScript.Heap.Accounting
import ShardScript.Tasks.Delivery
import ShardScript.Libraries.Resolution
import ShardScript.Libraries.Selection
import ShardScript.Runtime.RuntimeErrors
import ShardScript.Runtime.Propagation
import ShardScript.Runtime.Returns
import ShardScript.Closures.Integrity
import ShardScript.Lexical.Interchange
import ShardScript.Types.MemberLookup
import ShardScript.Types.Inference
import ShardScript.Types.Preorder
import ShardScript.Types.Constraints
import ShardScript.Types.Shapes
import ShardScript.Types.Canonical
import ShardScript.Types.LayoutGenerator
import ShardScript.Library.Precedence
import ShardScript.Parsing.SyntaxFacts
import ShardScript.Parsing.SourceParser
import ShardScript.Library.Convergence
import ShardScript.Parsing.Chains
import ShardScript.Parsing.TypeArguments
import ShardScript.Parsing.Blocks
import ShardScript.Binding.Imports
import ShardScript.Binding.NameUses
import ShardScript.Binding.UsingOrder
import ShardScript.Binding.Access
import ShardScript.Binding.AccessControl
import ShardScript.Binding.AccessorUses
import ShardScript.Binding.LambdaCaptures
import ShardScript.Declarations.Collection
import ShardScript.Declarations.Completeness
import ShardScript.Declarations.EnumValues
import ShardScript.Declarations.EnumOperators
import ShardScript.Semantic.LeastEffects
import ShardScript.ByteCode.Disassembler
import ShardScript.Emitter.Switch
import ShardScript.Source.Switching
import ShardScript.Lexical.Locations
import ShardScript.Async.Storage
import ShardScript.Library.FirstUse
import ShardScript.Semantic.DefiniteAssignment
import ShardScript.Runtime.Registrations
import ShardScript.Emitter.TrySites
import ShardScript.Source.Catching
import ShardScript.Primitive.Comparison
import ShardScript.Primitive.Integers
import ShardScript.Passing.Delegates
import ShardScript.Passing.Operators
import ShardScript.Passing.Indexers
import ShardScript.Host.Creation
import ShardScript.Primitive.Casts
import ShardScript.Primitive.IntegerLiterals
import ShardScript.Tasks.Shutdown
import ShardScript.Frames.EvalStack
import ShardScript.Frames.Construction
import ShardScript.Arrays.Ranges
import ShardScript.Arrays.Creation
import ShardScript.Arrays.Elements
import ShardScript.Arrays.Enumeration
import ShardScript.Host.Enumeration
import ShardScript.Tasks.NativeAwait
import ShardScript.Tasks.Observation
