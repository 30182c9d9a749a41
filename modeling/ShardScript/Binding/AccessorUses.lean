import Mathlib.Tactic.Tauto
import ShardScript.Semantic.Expression

/-! Through which accessor a property or an indexer is resolved, by the parents that the parser gives to the nodes. -/
namespace ShardScript.Binding.Accessors

open Semantic (TokenType)

section Trees

structure AccessorSymbol where
  isAccessible : Bool
  isStatic : Bool

structure PropertySymbol where
  name : String
  isTypeResolved : Bool
  getter : Option AccessorSymbol
  setter : Option AccessorSymbol

inductive Role where
  | getter
  | setter

structure Access where
  property : PropertySymbol
  isStaticContext : Bool
  argumentsMatch : Bool

inductive Expression where
  | node (parts : List Expression)
  /-- A member access, to a property or to something else. In front of a simple name there is an empty node. -/
  | memberAccess (access : Option Access) (previous : Expression)
  | indexator (access : Access) (previous : Expression) (arguments : List Expression)
  | invokation (previous : Expression) (arguments : List Expression)
  | binary (operator : TokenType) (left right : Expression)
  | range (left right : Expression)
  | bracketedRange (left right : Expression)
  | cast (operand : Expression)
  | isType (operand : Expression)
  | rightUnary (operand : Expression)

inductive Parent where
  | other
  | binary (operator : TokenType) (isLeft : Bool)
  | freed

structure Occurrence where
  access : Access
  isIndexator : Bool
  parent : Parent
  isTarget : Bool

mutual

/-- The occurrences in a tree. What is read before the operator behind it is read with the parent of the whole expression: of
that only the left side of a binary expression gets another one. -/
@[grind] def occurrences (context own : Parent) (isTarget : Bool) : Expression → List Occurrence
  | .node parts => occurrencesAll parts
  | .memberAccess (some access) previous => ⟨access,false,own,isTarget⟩ :: occurrences context context false previous
  | .memberAccess none previous => occurrences context context false previous
  | .indexator access previous arguments =>
      ⟨access,true,own,isTarget⟩ :: (occurrences context context false previous ++ occurrencesAll arguments)
  | .invokation previous arguments => occurrences context context false previous ++ occurrencesAll arguments
  | .binary operator left right =>
      -- the parser does not set the parent of what stands in front of `??`
      (if operator = .nullCoalescingOperator then occurrences context context false left
        else occurrences context (.binary operator true) operator.isAssignmentOperator left) ++
        occurrences (.binary operator false) (.binary operator false) false right
  | .range left right => occurrences context context false left ++ occurrences .other .other false right
  | .bracketedRange left right => occurrences .freed .freed false left ++ occurrences .other .other false right
  | .cast operand | .isType operand | .rightUnary operand => occurrences context context false operand

@[grind] def occurrencesAll : List Expression → List Occurrence
  | [] => []
  | part :: parts => occurrences .other .other false part ++ occurrencesAll parts

end

end Trees

section Roles

-- Whether a collection that has been deleted is taken for an assignment.
variable (freed : Bool)

def isAssignmentOperator : TokenType → Bool
  | .assignOperator | .addAssignOperator | .subAssignOperator | .multAssignOperator | .divAssignOperator
  | .modAssignOperator | .powAssignOperator => true
  | _ => false

def isAssignmentContext : Parent → Bool
  | .other => false
  | .binary operator _ => operator == .assignOperator
  | .freed => freed

def isIndexatorContext : Parent → Bool
  | .other => false
  | .binary operator isLeft => isAssignmentOperator operator && isLeft
  | .freed => freed

def roleOf (requiresSetter : Bool) : Role := if requiresSetter then .setter else .getter

def PropertySymbol.accessor (property : PropertySymbol) : Role → Option AccessorSymbol
  | .getter => property.getter
  | .setter => property.setter

def analyzePropertyAccessExpression (access : Access) (role : Role) : Option String :=
  let name := access.property.name
  if access.property.isTypeResolved = false then some ("Property '" ++ name ++ "' type not resolved")
  else match access.property.accessor role with
    | none => some ("Property '" ++ name ++ "' does not have a " ++ (match role with
        | .setter => "set"
        | .getter => "get") ++ " accessor")
    | some accessor =>
        if accessor.isAccessible = false then some ((match role with
          | .setter => "Setter"
          | .getter => "Getter") ++ " of property '" ++ name ++ "' is not accessible")
        else if access.isStaticContext ∧ accessor.isStatic = false then
          some ("Cannot access instance property '" ++ name ++ "' from type context")
        else if access.isStaticContext = false ∧ accessor.isStatic then
          some ("Cannot access static property '" ++ name ++ "' from instance reference")
        else none

namespace Occurrence

variable (occurrence : Occurrence)

def memberRole : Role := roleOf (isAssignmentContext freed occurrence.parent)

def indexatorRole : Role := roleOf (isIndexatorContext freed occurrence.parent)

def roles : List Role :=
  if occurrence.isIndexator then [occurrence.memberRole freed,occurrence.indexatorRole freed] else [occurrence.memberRole freed]

/-- `AnalyzeIndexatorExpression` goes through `AnalyzePropertyAccessExpression`, which takes the node for a member access. -/
def isAccepted : Bool :=
  (analyzePropertyAccessExpression occurrence.access (occurrence.memberRole freed)).isNone &&
    (!occurrence.isIndexator || (occurrence.access.property.accessor (occurrence.indexatorRole freed)).isNone ||
      occurrence.access.argumentsMatch)

end Occurrence

structure Access.IsGetOnly (access : Access) : Prop where
  resolved : access.property.isTypeResolved = true
  setter : access.property.setter = none
  getter : ∃ getter,access.property.getter = some getter ∧ getter.isAccessible = true ∧ getter.isStatic = access.isStaticContext
  arguments : access.argumentsMatch = true

/-- It is resolved through the setter where it is assigned to, and through the getter elsewhere. -/
structure Occurrence.IsResolved (occurrence : Occurrence) : Prop where
  roles : ∀ role ∈ occurrence.roles freed,role = roleOf occurrence.isTarget
  getOnly : occurrence.access.IsGetOnly → (occurrence.isAccepted freed = true ↔ occurrence.isTarget = false)

def IsResolved (expression : Expression) : Prop :=
  ∀ occurrence ∈ occurrences .other .other false expression,occurrence.IsResolved freed

end Roles

section Condition

def isAccess : Expression → Bool
  | .memberAccess access _ => access.isSome
  | .indexator _ _ _ => true
  | .node _ | .invokation _ _ | .binary _ _ _ | .range _ _ | .bracketedRange _ _ | .cast _ | .isType _ | .rightUnary _ => false

/-- There is an access further in front that is read with the parent of the whole expression. -/
@[grind] def isBehindAccess : Expression → Bool
  | .node _ | .bracketedRange _ _ => false
  | .memberAccess _ previous | .indexator _ previous _ | .invokation previous _ => isAccess previous || isBehindAccess previous
  | .binary operator left _ => (operator == .nullCoalescingOperator && isAccess left) || isBehindAccess left
  | .range left _ => isAccess left || isBehindAccess left
  | .cast operand | .isType operand | .rightUnary operand => isAccess operand || isBehindAccess operand

def beginsWithAccess (expression : Expression) : Bool := isAccess expression || isBehindAccess expression

mutual

/-- No value that is assigned begins with an access, and nothing but `=` assigns to one. -/
@[grind] def IsPlain (freed : Bool) : Expression → Prop
  | .node parts => ArePlain freed parts
  | .memberAccess _ previous => IsPlain freed previous
  | .indexator _ previous arguments | .invokation previous arguments => IsPlain freed previous ∧ ArePlain freed arguments
  | .binary operator left right =>
      (operator = .assignOperator → beginsWithAccess right = false) ∧
        (operator.isAssignmentOperator = true → operator ≠ .assignOperator → isAccess left = false) ∧
        IsPlain freed left ∧ IsPlain freed right
  | .range left right => IsPlain freed left ∧ IsPlain freed right
  | .bracketedRange left right => (freed = true → beginsWithAccess left = false) ∧ IsPlain freed left ∧ IsPlain freed right
  | .cast operand | .isType operand | .rightUnary operand => IsPlain freed operand

def ArePlain (freed : Bool) : List Expression → Prop
  | [] => True
  | part :: parts => IsPlain freed part ∧ ArePlain freed parts

end

end Condition

section Resolution

variable {freed : Bool}

theorem roleOf_inj {requiresSetter other : Bool} : roleOf requiresSetter = roleOf other ↔ requiresSetter = other := by
  cases requiresSetter <;> cases other <;> simp [roleOf]

theorem isAccepted_getOnly {occurrence : Occurrence} (getOnly : occurrence.access.IsGetOnly) :
    occurrence.isAccepted freed = true ↔ isAssignmentContext freed occurrence.parent = false := by
  obtain ⟨resolved,setter,⟨getter,present,accessible,linking⟩,arguments⟩ := getOnly
  rw [Occurrence.isAccepted,arguments,Bool.or_true,Bool.and_true,Occurrence.memberRole]
  cases isAssignmentContext freed occurrence.parent with
  | true => simp [roleOf,analyzePropertyAccessExpression,resolved,PropertySymbol.accessor,setter]
  | false =>
      cases context : occurrence.access.isStaticContext <;>
        simp [roleOf,analyzePropertyAccessExpression,resolved,PropertySymbol.accessor,present,accessible,linking,context]

theorem Occurrence.isResolved_iff {occurrence : Occurrence} : occurrence.IsResolved freed ↔
    isAssignmentContext freed occurrence.parent = occurrence.isTarget ∧
      (occurrence.isIndexator = true → isIndexatorContext freed occurrence.parent = occurrence.isTarget) := by
  have roles : (∀ role ∈ occurrence.roles freed,role = roleOf occurrence.isTarget) ↔
      isAssignmentContext freed occurrence.parent = occurrence.isTarget ∧
        (occurrence.isIndexator = true → isIndexatorContext freed occurrence.parent = occurrence.isTarget) := by
    unfold Occurrence.roles
    split
    · next indexator =>
        simp [indexator,Occurrence.memberRole,Occurrence.indexatorRole,roleOf_inj]
    · next member =>
        simp [member,Occurrence.memberRole,roleOf_inj]
  rw [← roles]
  refine ⟨IsResolved.roles,fun every => ⟨every,fun getOnly => ?_⟩⟩
  rw [isAccepted_getOnly getOnly,(roles.mp every).1]

def Consistent (freed : Bool) (parent : Parent) (isTarget : Bool) : Prop :=
  isAssignmentContext freed parent = isTarget → isIndexatorContext freed parent = isTarget

theorem consistent_other : Consistent freed .other false := fun _ => rfl

theorem consistent_freed : Consistent freed .freed false := id

theorem consistent_right (operator : TokenType) : Consistent freed (.binary operator false) false :=
  fun _ => Bool.and_false _

theorem consistent_left (operator : TokenType) :
    Consistent freed (.binary operator true) operator.isAssignmentOperator := by
  cases operator <;> simp [Consistent,isAssignmentContext,isIndexatorContext,isAssignmentOperator,
    TokenType.isAssignmentOperator]

theorem isResolved_of_consistent {access : Access} {isIndexator isTarget : Bool} {parent : Parent}
    (consistent : Consistent freed parent isTarget) :
    Occurrence.IsResolved freed ⟨access,isIndexator,parent,isTarget⟩ ↔ isAssignmentContext freed parent = isTarget := by
  rw [Occurrence.isResolved_iff]
  exact ⟨And.left,fun same => ⟨same,fun _ => consistent same⟩⟩

theorem isAssignmentContext_left {operator : TokenType} (isLeft : Bool) :
    isAssignmentContext freed (.binary operator isLeft) = operator.isAssignmentOperator ↔
      (operator.isAssignmentOperator = true → operator = .assignOperator) := by
  cases operator <;> simp [isAssignmentContext,TokenType.isAssignmentOperator]

theorem isAssignmentContext_right {operator : TokenType} (isLeft : Bool) :
    isAssignmentContext freed (.binary operator isLeft) = false ↔ operator ≠ .assignOperator := by
  rw [isAssignmentContext,beq_eq_false_iff_ne]

theorem beginsWithAccess_iff {expression : Expression} {claim : Prop} :
    (beginsWithAccess expression = true → claim) ↔ (isAccess expression = true → claim) ∧ (isBehindAccess expression = true → claim) := by
  rw [beginsWithAccess,Bool.or_eq_true,or_imp]

mutual

theorem occurrences_iff : ∀ (expression : Expression) {context own : Parent} {isTarget : Bool},
    Consistent freed context false → Consistent freed own isTarget →
    ((∀ occurrence ∈ occurrences context own isTarget expression,occurrence.IsResolved freed) ↔
      (isAccess expression = true → isAssignmentContext freed own = isTarget) ∧
        (isBehindAccess expression = true → isAssignmentContext freed context = false) ∧ IsPlain freed expression)
  | .node parts,_,_,_,_,_ => by
      rw [occurrences,occurrencesAll_iff parts,IsPlain]
      simp [isAccess,isBehindAccess]
  | .memberAccess access previous,context,own,isTarget,inContext,consistent => by
      have front := occurrences_iff previous inContext inContext
      rw [IsPlain,isAccess,isBehindAccess,← beginsWithAccess,beginsWithAccess_iff]
      cases access with
      | none =>
          rw [occurrences,front]
          simp [and_assoc]
      | some access =>
          rw [occurrences,List.forall_mem_cons,front,isResolved_of_consistent consistent]
          simp [and_assoc]
  | .indexator access previous arguments,context,own,isTarget,inContext,consistent => by
      have front := occurrences_iff previous inContext inContext
      rw [IsPlain,isAccess,isBehindAccess,← beginsWithAccess,beginsWithAccess_iff,occurrences,List.forall_mem_cons,
        List.forall_mem_append,front,isResolved_of_consistent consistent,occurrencesAll_iff arguments]
      simp [and_assoc]
  | .invokation previous arguments,context,own,isTarget,inContext,consistent => by
      have front := occurrences_iff previous inContext inContext
      rw [IsPlain,isAccess,isBehindAccess,← beginsWithAccess,beginsWithAccess_iff,occurrences,List.forall_mem_append,front,
        occurrencesAll_iff arguments]
      simp [and_assoc]
  | .binary operator left right,context,own,isTarget,inContext,_ => by
      have behind : (∀ occurrence ∈ occurrences (.binary operator false) (.binary operator false) false right,
          occurrence.IsResolved freed) ↔ (beginsWithAccess right = true → operator ≠ .assignOperator) ∧ IsPlain freed right := by
        rw [occurrences_iff right (consistent_right operator) (consistent_right operator),isAssignmentContext_right,
          beginsWithAccess_iff,and_assoc]
      rw [IsPlain,isAccess,isBehindAccess,occurrences,List.forall_mem_append,behind]
      by_cases coalescing : operator = .nullCoalescingOperator
      · subst coalescing
        rw [if_pos rfl,occurrences_iff left inContext inContext]
        simp [TokenType.isAssignmentOperator,or_imp,and_assoc]
      · rw [if_neg coalescing,occurrences_iff left inContext (consistent_left operator),isAssignmentContext_left]
        simp only [beq_eq_false_iff_ne.mpr coalescing,Bool.false_and,Bool.false_or,Bool.false_eq_true,false_imp_iff,true_and]
        have assigned : (isAccess left = true → operator.isAssignmentOperator = true → operator = .assignOperator) ↔
            (operator.isAssignmentOperator = true → operator ≠ .assignOperator → isAccess left = false) := by
          rw [← Bool.not_eq_true]
          tauto
        have value : (beginsWithAccess right = true → operator ≠ .assignOperator) ↔
            (operator = .assignOperator → beginsWithAccess right = false) := by
          rw [← Bool.not_eq_true]
          tauto
        rw [assigned,value]
        tauto
  | .range left right,context,own,isTarget,inContext,_ => by
      rw [IsPlain,isAccess,isBehindAccess,← beginsWithAccess,beginsWithAccess_iff,occurrences,List.forall_mem_append,
        occurrences_iff left inContext inContext,occurrences_iff right consistent_other consistent_other]
      simp [and_assoc,isAssignmentContext]
  | .bracketedRange left right,context,own,isTarget,inContext,_ => by
      have front : (∀ occurrence ∈ occurrences .freed .freed false left,occurrence.IsResolved freed) ↔
          (freed = true → beginsWithAccess left = false) ∧ IsPlain freed left := by
        rw [occurrences_iff left consistent_freed consistent_freed,← and_assoc,← beginsWithAccess_iff,isAssignmentContext,
          ← Bool.not_eq_true,← Bool.not_eq_true]
        tauto
      rw [IsPlain,isAccess,isBehindAccess,occurrences,List.forall_mem_append,front,
        occurrences_iff right consistent_other consistent_other]
      simp [and_assoc,isAssignmentContext]
  | .cast operand,context,own,isTarget,inContext,_ => by
      rw [IsPlain,isAccess,isBehindAccess,← beginsWithAccess,beginsWithAccess_iff,occurrences,
        occurrences_iff operand inContext inContext]
      simp [and_assoc]
  | .isType operand,context,own,isTarget,inContext,_ => by
      rw [IsPlain,isAccess,isBehindAccess,← beginsWithAccess,beginsWithAccess_iff,occurrences,
        occurrences_iff operand inContext inContext]
      simp [and_assoc]
  | .rightUnary operand,context,own,isTarget,inContext,_ => by
      rw [IsPlain,isAccess,isBehindAccess,← beginsWithAccess,beginsWithAccess_iff,occurrences,
        occurrences_iff operand inContext inContext]
      simp [and_assoc]

theorem occurrencesAll_iff : ∀ parts : List Expression,
    (∀ occurrence ∈ occurrencesAll parts,occurrence.IsResolved freed) ↔ ArePlain freed parts
  | [] => by simp [occurrencesAll,ArePlain]
  | part :: parts => by
      rw [occurrencesAll,List.forall_mem_append,occurrences_iff part consistent_other consistent_other,
        occurrencesAll_iff parts,ArePlain]
      simp [isAssignmentContext]

end

/-- The two tests agree with the role where no value that `=` assigns begins with an access and no other operator
assigns to one. -/
theorem isResolved_iff_isPlain (freed : Bool) (expression : Expression) : IsResolved freed expression ↔ IsPlain freed expression := by
  rw [IsResolved,occurrences_iff expression consistent_other consistent_other]
  simp [isAssignmentContext]

section Reading

def read : Access := ⟨⟨"Q",true,some ⟨true,false⟩,none⟩,false,true⟩

def written : Access := ⟨⟨"P",true,some ⟨true,false⟩,some ⟨true,false⟩⟩,false,true⟩

/-- In `a.P = b.Q` the getter of `Q` is not looked at. -/
theorem not_isResolved_assigned : ¬IsResolved false
    (.binary .assignOperator (.memberAccess (some written) (.node [])) (.memberAccess (some read) (.node []))) := by
  intro resolved
  have right := (resolved ⟨read,false,.binary .assignOperator false,false⟩ (by simp [occurrences,occurrencesAll])).roles
    .setter (by simp [Occurrence.roles,Occurrence.memberRole,isAssignmentContext,roleOf])
  exact absurd right (by simp [roleOf])

end Reading

end Resolution

end ShardScript.Binding.Accessors
