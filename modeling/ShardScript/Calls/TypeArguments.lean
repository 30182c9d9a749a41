import ShardScript.Calls.Denotation

/-! The type arguments that the frames of generic methods and constructors receive. -/
namespace ShardScript.Calls

section Syntax

inductive Owner where
  | receiver (arguments : List TypeSymbol)
  /-- They are not named with the receiver: the method belongs to the type of the caller, or to a base type. A type
  without type parameters has none, and those of the receiver of an extension method do not count. -/
  | implied (arguments : List TypeSymbol)

structure Invocation where
  symbol : MethodSymbol
  isInterfaceMember : Bool
  owner : Owner
  boundTypeArguments : List TypeSymbol
  thisGenericArguments : List TypeSymbol

structure Creation where
  symbol : TypeSymbol
  ctorSymbol : MethodSymbol

inductive Expression where
  | operand
  | both (first second : Expression)
  | invocationExpression (invocation : Invocation) (argumentsList previousExpression body : Expression)
  | objectExpression (creation : Creation) (argumentsList body : Expression)

end Syntax

section Execution

def loadTypeArguments : (index : Nat) → List TypeSymbol → VirtualMachine → VirtualMachine
  | _,[],machine => machine
  | index,type :: types,machine => loadTypeArguments (index + 1) types (machine.loadTypeArgument index type)

namespace Invocation

def load (invocation : Invocation) (machine : VirtualMachine) : VirtualMachine :=
  if invocation.isInterfaceMember then machine
  else match invocation.owner with
  | .receiver arguments =>
      loadTypeArguments arguments.length invocation.boundTypeArguments (loadTypeArguments 0 arguments machine)
  | .implied arguments => loadTypeArguments arguments.length invocation.boundTypeArguments machine

def call (invocation : Invocation) : Call := ⟨.invokeMethod,invocation.symbol,invocation.thisGenericArguments⟩

end Invocation

namespace Creation

def loaded (creation : Creation) : List TypeSymbol :=
  match creation.symbol with
  | .generic _ arguments => arguments
  | _ => []

/-- `NEWOBJECT` resolves the type. The instance has the type arguments that the frame of the constructor falls back to. -/
def call (creation : Creation) (machine : VirtualMachine) : Call where
  entry := .instantiateObject
    ((machine.currentFrame.bind fun frame => frame.resolveType creation.symbol).getD creation.symbol)
  method := creation.ctorSymbol
  thisGenericArguments := []

end Creation

/-- The virtual machine behind an expression. The type arguments of a method are loaded behind its arguments and its
receiver, those of a constructor in front of its arguments. -/
@[grind] def Expression.run : Expression → VirtualMachine → VirtualMachine
  | operand,machine => machine
  | both first second,machine => second.run (first.run machine)
  | invocationExpression invocation argumentsList previousExpression body,machine =>
      (invoke invocation.call none (fun machine => (.completed,body.run machine))
        (invocation.load (previousExpression.run (argumentsList.run machine)))).2
  | objectExpression creation argumentsList body,machine =>
      let prepared := argumentsList.run (loadTypeArguments 0 creation.loaded machine)
      (invoke (creation.call prepared) none (fun machine => (.completed,body.run machine)) prepared).2

end Execution

section Conditions

namespace Invocation

variable (invocation : Invocation)

/-- What the static type arguments denote. The type of an interface method is that of the receiver. -/
def denoted (instantiation : List TypeSymbol) : List TypeSymbol :=
  if invocation.isInterfaceMember then
    invocation.thisGenericArguments ++ denoteAll instantiation invocation.boundTypeArguments
  else match invocation.owner with
  | .receiver arguments | .implied arguments => denoteAll instantiation (arguments ++ invocation.boundTypeArguments)

def hidden : List TypeSymbol :=
  match invocation.owner with
  | .receiver _ => []
  | .implied arguments => arguments

def loaded (invocation : Invocation) : List TypeSymbol :=
  if invocation.isInterfaceMember then []
  else match invocation.owner with
  | .receiver arguments => arguments ++ invocation.boundTypeArguments
  | .implied _ => invocation.boundTypeArguments

def isScoped (count : Nat) : Bool :=
  areConcrete invocation.thisGenericArguments && areScoped count invocation.hidden &&
    areScoped count invocation.loaded && areScoped count invocation.boundTypeArguments

/-- If nothing is loaded, nothing is pending and the receiver has the type arguments, or the same are pending for an
object creation around it. Otherwise no type parameter occurs in what is loaded, it is all, and no more is pending. -/
def IsServed (instantiation : List TypeSymbol) (pending : TypeArguments) : Prop :=
  if invocation.loaded = [] then
    (pending = [] ∧ invocation.thisGenericArguments = invocation.denoted instantiation) ∨
      (pending ≠ [] ∧ pending = (invocation.denoted instantiation).map some)
  else areConcrete invocation.loaded = true ∧
    pending.length ≤ invocation.hidden.length + invocation.loaded.length ∧
    pending.take invocation.hidden.length = (denoteAll instantiation invocation.hidden).map some

end Invocation

namespace Creation

def denoted (creation : Creation) (instantiation : List TypeSymbol) : List TypeSymbol :=
  match denote instantiation creation.symbol with
  | .generic _ arguments => arguments
  | _ => []

/-- No type parameter occurs inside of a type argument, and nothing else is pending if the arguments do not take it. -/
def IsServed (creation : Creation) (instantiation : List TypeSymbol) (pending : TypeArguments) (taken : Bool) : Prop :=
  if taken = false ∧ creation.loaded = [] then
    pending = [] ∨ (pending ≠ [] ∧ pending.map (Option.map (resolveRuntimeTypeArgument (resolverOf instantiation))) =
      (creation.denoted instantiation).map some)
  else creation.loaded.all isShallow = true ∧ (taken = true ∨ pending.length ≤ creation.loaded.length)

end Creation

namespace Expression

def pushes : Expression → Bool
  | operand => false
  | both first second => first.pushes || second.pushes
  | invocationExpression .. | objectExpression .. => true

def leaves (expression : Expression) (pending : TypeArguments) : TypeArguments :=
  if expression.pushes then [] else pending

@[grind] def isScoped : Expression → (instantiation : List TypeSymbol) → Bool
  | operand,_ => true
  | both first second,instantiation => first.isScoped instantiation && second.isScoped instantiation
  | invocationExpression invocation argumentsList previousExpression body,instantiation =>
      argumentsList.isScoped instantiation && previousExpression.isScoped instantiation &&
        (invocation.isScoped instantiation.length && body.isScoped (invocation.denoted instantiation))
  | objectExpression creation argumentsList body,instantiation =>
      argumentsList.isScoped instantiation &&
        (Calls.isScoped instantiation.length creation.symbol && body.isScoped (creation.denoted instantiation))

@[grind] def IsServed : Expression → (instantiation : List TypeSymbol) → (pending : TypeArguments) → Prop
  | operand,_,_ => True
  | both first second,instantiation,pending =>
      first.IsServed instantiation pending ∧ second.IsServed instantiation (first.leaves pending)
  | invocationExpression invocation argumentsList previousExpression body,instantiation,pending =>
      argumentsList.IsServed instantiation pending ∧
        previousExpression.IsServed instantiation (argumentsList.leaves pending) ∧
        invocation.IsServed instantiation (previousExpression.leaves (argumentsList.leaves pending)) ∧
        body.IsServed (invocation.denoted instantiation) []
  | objectExpression creation argumentsList body,instantiation,pending =>
      argumentsList.IsServed instantiation
          (creation.loaded.map some ++ pending.drop creation.loaded.length) ∧
        creation.IsServed instantiation pending argumentsList.pushes ∧
        body.IsServed (creation.denoted instantiation) []

end Expression

def VirtualMachine.typeArguments (machine : VirtualMachine) : Option TypeArguments :=
  machine.currentFrame.map CallStackFrame.typeArguments

@[grind] def Expression.Receives : Expression → (instantiation : List TypeSymbol) → VirtualMachine → Prop
  | operand,_,_ => True
  | both first second,instantiation,machine =>
      first.Receives instantiation machine ∧ second.Receives instantiation (first.run machine)
  | invocationExpression invocation argumentsList previousExpression body,instantiation,machine =>
      let between := argumentsList.run machine
      let inside := entered invocation.call (invocation.load (previousExpression.run between))
      argumentsList.Receives instantiation machine ∧ previousExpression.Receives instantiation between ∧
        inside.typeArguments = some ((invocation.denoted instantiation).map some) ∧
        body.Receives (invocation.denoted instantiation) inside
  | objectExpression creation argumentsList body,instantiation,machine =>
      let loaded := loadTypeArguments 0 creation.loaded machine
      let prepared := argumentsList.run loaded
      let inside := entered (creation.call prepared) prepared
      argumentsList.Receives instantiation loaded ∧
        inside.typeArguments = some ((creation.denoted instantiation).map some) ∧
        body.Receives (creation.denoted instantiation) inside

end Conditions

end ShardScript.Calls
