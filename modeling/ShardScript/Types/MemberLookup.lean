import ShardScript.Library.Objects
import ShardScript.Types.Agreement

/-! How `GenericTypeSymbol` finds the methods and the indexators of its underlaying type. -/
namespace ShardScript.Types

open Library (Object Verdict)

section Search

variable {Member : Type}

def findFirst (test : Member → Verdict) : List Member → Option (Option Member)
  | [] => some none
  | member :: members =>
      match test member with
      | some true => some (some member)
      | some false => findFirst test members
      | none => none

theorem findFirst_congr {first second : Member → Verdict} {members : List Member}
    (same : ∀ member ∈ members,first member = second member) : findFirst first members = findFirst second members := by
  induction members with
  | nil => rfl
  | cons member members ih =>
      rw [List.forall_mem_cons] at same
      rw [findFirst,findFirst,same.1,ih same.2]

end Search

section Lookup

structure GenericTypeSymbol where
  address : Nat
  underlayingType : Nat
  typeArguments : List TypeSymbol
  deriving DecidableEq

def GenericTypeSymbol.toType (symbol : GenericTypeSymbol) : TypeSymbol :=
  .generic symbol.address symbol.underlayingType symbol.typeArguments

variable (table : SymbolTable) (fuel : Nat)

/-- The symbols that have been destroyed, and the receivers that the `static` predicates have captured. -/
structure LookupState where
  findMethodThis : Option GenericTypeSymbol := none
  findIndexatorThis : Option GenericTypeSymbol := none
  destroyed : List GenericTypeSymbol := []

/-- The test of a parameter, where `this` is the captured receiver. There is no verdict where the receiver is gone or the
parameter has no type. -/
def predicate (destroyed : List GenericTypeSymbol) (this : GenericTypeSymbol) (leftType right : TypeSymbol) : Verdict :=
  if leftType = .declared table.any then some true
  else match leftType with
    | .null => none
    | .typeParameter parent index =>
        if this ∈ destroyed then none
        else areTypesEqual table fuel (this.toType.substituteTypeParameters parent index) right
    | leftType => areTypesEqual table fuel leftType right

def matchParameters (test : TypeSymbol → TypeSymbol → Verdict) (parameters parameterTypes : List TypeSymbol) : Verdict :=
  Verdict.every (fun pair => test pair.1 pair.2) (parameters.zip parameterTypes)

def candidates {Member : Type} (parameters : Member → List TypeSymbol) (members : List Member)
    (parameterTypes : List TypeSymbol) : List Member :=
  members.filter fun member => (parameters member).length == parameterTypes.length

def findMember {Member : Type} (parameters : Member → List TypeSymbol) (members : List Member)
    (test : TypeSymbol → TypeSymbol → Verdict) (parameterTypes : List TypeSymbol) : Option (Option Member) :=
  findFirst (fun member => matchParameters test (parameters member) parameterTypes)
    (candidates parameters members parameterTypes)

def methodsNamed (receiver : GenericTypeSymbol) (name : String) : List MethodSymbol :=
  (table.declaration receiver.underlayingType).methods.filter fun method => method.name == name

def indexators (receiver : GenericTypeSymbol) : List IndexatorSymbol :=
  (table.declaration receiver.underlayingType).indexators

inductive LookupCall where
  | findMethod (receiver : GenericTypeSymbol) (name : String) (parameterTypes : List TypeSymbol)
  | findIndexator (receiver : GenericTypeSymbol) (parameterTypes : List TypeSymbol)
  | destroy (receiver : GenericTypeSymbol)

inductive LookupAnswer where
  | method (found : Option (Option MethodSymbol))
  | indexator (found : Option (Option IndexatorSymbol))
  | done
  deriving DecidableEq

def findMethod (receiver : GenericTypeSymbol) (name : String) (parameterTypes : List TypeSymbol) (state : LookupState) :
    Option (Option MethodSymbol) × LookupState :=
  let this := state.findMethodThis.getD receiver
  (findMember MethodSymbol.parameters (methodsNamed table receiver name) (predicate table fuel state.destroyed this)
    parameterTypes,{ state with findMethodThis := some this })

def findIndexator (receiver : GenericTypeSymbol) (parameterTypes : List TypeSymbol) (state : LookupState) :
    Option (Option IndexatorSymbol) × LookupState :=
  let this := state.findIndexatorThis.getD receiver
  (findMember IndexatorSymbol.parameters (indexators table receiver) (predicate table fuel state.destroyed this)
    parameterTypes,{ state with findIndexatorThis := some this })

def lookup : Object LookupCall LookupAnswer LookupState
  | .findMethod receiver name parameterTypes,state =>
      (findMethod table fuel receiver name parameterTypes state).map .method id
  | .findIndexator receiver parameterTypes,state =>
      (findIndexator table fuel receiver parameterTypes state).map .indexator id
  | .destroy receiver,state => (.done,{ state with destroyed := receiver :: state.destroyed })

end Lookup

section Meaning

variable (table : SymbolTable) (fuel : Nat)

/-- The arguments of the receiver stand for its type parameters, and other type parameters for themselves. -/
def GenericTypeSymbol.assignment (receiver : GenericTypeSymbol) (parent : Parent) (index : Nat) : TypeSymbol :=
  let argument := receiver.toType.substituteTypeParameters parent index
  if argument = .null then .typeParameter parent index else argument

def suits (receiver : GenericTypeSymbol) (leftType right : TypeSymbol) : Verdict :=
  if leftType = .declared table.any then some true
  else areTypesEqual table fuel (leftType.instantiate receiver.assignment) right

def memberOfReceiver : Object LookupCall LookupAnswer Unit
  | .findMethod receiver name parameterTypes,_ =>
      (.method (findMember MethodSymbol.parameters (methodsNamed table receiver name) (suits table fuel receiver)
        parameterTypes),())
  | .findIndexator receiver parameterTypes,_ =>
      (.indexator (findMember IndexatorSymbol.parameters (indexators table receiver) (suits table fuel receiver)
        parameterTypes),())
  | .destroy _,_ => (.done,())

end Meaning

section Independence

mutual

def isFree (parent : Parent) : TypeSymbol → Bool
  | .null | .declared _ => true
  | .typeParameter parent' _ => parent' != parent
  | .array _ underlayingType _ => isFree parent underlayingType
  | .generic _ _ typeArguments => areFree parent typeArguments

def areFree (parent : Parent) : List TypeSymbol → Bool
  | [] => true
  | type :: types => isFree parent type && areFree parent types

end

/-- The predicate of the captured receiver is right for another receiver at this parameter: a bare type parameter is one
that both have the same argument for, and the captured one still lives; any other type mentions no type parameter. -/
def isSpared (destroyed : List GenericTypeSymbol) (this receiver : GenericTypeSymbol) : TypeSymbol → Bool
  | .null => false
  | .typeParameter parent index =>
      let argument := receiver.toType.substituteTypeParameters parent index
      this ∉ destroyed && this.toType.substituteTypeParameters parent index == argument && argument != .null
  | type => isFree (.type receiver.underlayingType) type

def isSparedCall (table : SymbolTable) (state : LookupState) : LookupCall → Bool
  | .findMethod receiver name parameterTypes =>
      (candidates MethodSymbol.parameters (methodsNamed table receiver name) parameterTypes).all fun method =>
        method.parameters.all (isSpared state.destroyed (state.findMethodThis.getD receiver) receiver)
  | .findIndexator receiver parameterTypes =>
      (candidates IndexatorSymbol.parameters (indexators table receiver) parameterTypes).all fun indexator =>
        indexator.parameters.all (isSpared state.destroyed (state.findIndexatorThis.getD receiver) receiver)
  | .destroy _ => true

variable {table : SymbolTable} {fuel : Nat} {destroyed : List GenericTypeSymbol} {this receiver : GenericTypeSymbol}

mutual

theorem instantiate_of_isFree : ∀ {type : TypeSymbol},isFree (.type receiver.underlayingType) type = true →
    type.instantiate receiver.assignment = type.erase
  | .null,_ => rfl
  | .declared _,_ => rfl
  | .typeParameter parent index,free => by
      have foreign : receiver.toType.substituteTypeParameters parent index = .null := if_neg (bne_iff_ne.mp free)
      simp only [TypeSymbol.instantiate,GenericTypeSymbol.assignment,foreign,if_true]
  | .array _ _ _,free => congrArg (TypeSymbol.array 0 · 0) (instantiate_of_isFree free)
  | .generic _ underlayingType _,free => congrArg (TypeSymbol.generic 0 underlayingType) (instantiateAll_of_areFree free)

theorem instantiateAll_of_areFree : ∀ {types : List TypeSymbol},areFree (.type receiver.underlayingType) types = true →
    instantiateAll receiver.assignment types = eraseAll types
  | [],_ => rfl
  | _ :: _,free => by
      rw [areFree,Bool.and_eq_true] at free
      rw [instantiateAll,eraseAll,instantiate_of_isFree free.1,instantiateAll_of_areFree free.2]

end

theorem predicate_eq_suits {leftType : TypeSymbol} (spared : isSpared destroyed this receiver leftType = true)
    (right : TypeSymbol) :
    predicate table fuel destroyed this leftType right = suits table fuel receiver leftType right := by
  cases leftType with
  | null => cases spared
  | typeParameter parent index =>
      simp only [isSpared,Bool.and_eq_true,decide_eq_true_eq,beq_iff_eq,bne_iff_ne] at spared
      obtain ⟨⟨alive,alike⟩,bound⟩ := spared
      have meant : (TypeSymbol.typeParameter parent index).instantiate receiver.assignment =
          (receiver.toType.substituteTypeParameters parent index).erase := by
        simp only [TypeSymbol.instantiate,GenericTypeSymbol.assignment,if_neg bound]
      have other : TypeSymbol.typeParameter parent index ≠ .declared table.any := nofun
      simp only [predicate,suits,if_neg other,if_neg alive,alike,meant]
      exact areTypesEqual_of_erase (erase_erase _).symm rfl
  | _ =>
      have meant := instantiate_of_isFree spared
      simp only [predicate,suits,meant]
      split
      · rfl
      · exact areTypesEqual_of_erase (erase_erase _).symm rfl

theorem matchParameters_congr {first second : TypeSymbol → TypeSymbol → Verdict} {parameters parameterTypes : List TypeSymbol}
    (same : ∀ parameter ∈ parameters,∀ right,first parameter right = second parameter right) :
    matchParameters first parameters parameterTypes = matchParameters second parameters parameterTypes :=
  Verdict.every_congr fun pair member => same pair.1 (List.of_mem_zip member).1 pair.2

theorem findMember_congr {Member : Type} {parameters : Member → List TypeSymbol} {members : List Member}
    {parameterTypes : List TypeSymbol}
    (spared : (candidates parameters members parameterTypes).all
      (fun member => (parameters member).all (isSpared destroyed this receiver)) = true) :
    findMember parameters members (predicate table fuel destroyed this) parameterTypes =
      findMember parameters members (suits table fuel receiver) parameterTypes := by
  apply findFirst_congr
  intro member candidate
  apply matchParameters_congr
  intro parameter inside right
  exact predicate_eq_suits (List.all_eq_true.mp (List.all_eq_true.mp spared member candidate) parameter inside) right

theorem lookup_simulates :
    (lookup table fuel).Simulates (memberOfReceiver table fuel) (fun _ _ => True)
      (fun state _ call => isSparedCall table state call = true) := by
  intro state _ call _ spared
  refine ⟨?_,trivial⟩
  cases call with
  | findMethod receiver name parameterTypes => exact congrArg LookupAnswer.method (findMember_congr spared)
  | findIndexator receiver parameterTypes => exact congrArg LookupAnswer.indexator (findMember_congr spared)
  | destroy => rfl

/-- As long as every call is spared, the answers depend on the receivers only, and not on the calls before. -/
theorem lookups_depend_on_receiver (calls : List LookupCall)
    (spared : (lookup table fuel).Throughout (memberOfReceiver table fuel)
      (fun state _ call => isSparedCall table state call = true) {} () calls) :
    (lookup table fuel).answers {} calls = (memberOfReceiver table fuel).answers () calls :=
  lookup_simulates.answers_eq trivial spared

section Boxes

/-- `class Box<T>` with a method `Put(T value)` and an indexator of an `int` -/
def box : TypeDeclaration where
  typeParameters := ["T"]
  methods := [⟨0,"Put",true,[],[.typeParameter (.type 0) 0]⟩]
  indexators := [⟨0,[.declared 1]⟩]
  byReference := TypeDeclaration.plainClass.byReference
  delegateOnly := TypeDeclaration.plainClass.delegateOnly

def boxes : SymbolTable where
  declarations := [box,.plainStruct,.plainClass]
  any := 3
  null := 4
  array := 5
  iEnumerable := 6
  any_ne_null := three_ne_four

def boxOf (type : TypeSymbol) (address : Nat) : GenericTypeSymbol := ⟨address,0,[type]⟩

theorem lookups_depend_on_receiver_boxes :
    (lookup boxes 2).answers {} [.findMethod (boxOf (.declared 1) 0) "Put" [.declared 1],
        .findMethod (boxOf (.declared 1) 1) "Put" [.declared 2],.findIndexator (boxOf (.declared 2) 2) [.declared 1],
        .destroy (boxOf (.declared 2) 2),.findIndexator (boxOf (.declared 1) 0) [.declared 1]] =
      (memberOfReceiver boxes 2).answers () [.findMethod (boxOf (.declared 1) 0) "Put" [.declared 1],
        .findMethod (boxOf (.declared 1) 1) "Put" [.declared 2],.findIndexator (boxOf (.declared 2) 2) [.declared 1],
        .destroy (boxOf (.declared 2) 2),.findIndexator (boxOf (.declared 1) 0) [.declared 1]] :=
  lookups_depend_on_receiver _ (by decide)

/-- A method that was found for `Box<int>` with an `int` is then not found for a box of another class with an object of that
class. -/
theorem first_receiver_captured :
    (lookup boxes 2).answers {} [.findMethod (boxOf (.declared 1) 0) "Put" [.declared 1],
        .findMethod (boxOf (.declared 2) 1) "Put" [.declared 2]] ≠
      (memberOfReceiver boxes 2).answers () [.findMethod (boxOf (.declared 1) 0) "Put" [.declared 1],
        .findMethod (boxOf (.declared 2) 1) "Put" [.declared 2]] := by decide

end Boxes

end Independence

end ShardScript.Types
