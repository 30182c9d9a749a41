import ShardScript.Emitter.Layout
import ShardScript.ByteCode.Code

/-! The try bodies and the deferred bodies of a method in its code, and the jumps of its
`break`s and `continue`s. -/
namespace ShardScript.Emitter
open ByteCode

inductive Mark where
  | tryBody (handlerOffset : Nat)
  | deferred
  deriving DecidableEq

inductive Part where
  | enclosing (first last : Nat) (mark : Mark)
  | exitJump (offset : Nat)
  deriving DecidableEq

namespace Part

def mark? (offset : Nat) : Part → Option Mark
  | enclosing first last mark => if first ≤ offset ∧ offset < last then some mark else none
  | exitJump _ => none

end Part

def marksAt (parts : List Part) (offset : Nat) : List Mark := parts.filterMap (Part.mark? offset)

namespace Statement

def filterSize : Option Emission → Nat
  | some filter => filter.size + 10
  | none => 0

/-- The parts of the statement's code at an offset, the inner ones first. A `LEAVE_TRY` is the
last instruction of its body, a `DEFER_BREAK` that of a deferred body. -/
@[grind] def parts : {kind : StatementKind} → Statement kind → List DeferScope → Nat → List Part
  | _,simple _,_,_ | _,returnStatement _,_,_ | _,throwStatement _,_,_ => []
  | _,breakStatement,open_,start => [.exitJump (start + drainSize (totalCount (scopesUntilLoop open_).1))]
  | _,continueStatement,_,start => [.exitJump start]
  | _,whileStatement condition body,open_,start | _,untilStatement condition body,open_,start =>
      body.parts (⟨0,true⟩ :: open_) (start + condition.size + 10)
  | _,forStatement initializer condition _ body,open_,start =>
      body.parts (⟨0,true⟩ :: open_) (start + initializer.size + condition.size + 10)
  | _,enumeration forEach enumerator moveNext current body,open_,start =>
      body.parts (⟨0,forEach⟩ :: open_) (start + enumerator.size + moveNext.size + 10 + current.size)
  | _,conditional first,open_,start => first.parts open_ start
  | _,switchStatement scrutinee cases,open_,start =>
      if cases.isNoCase then [] else cases.parts open_ (start + scrutinee.size)
  | _,tryStatement body catches,open_,start =>
      let inner : List DeferScope := ⟨0,false⟩ :: open_
      let leave := start + 10 + body.size inner + drainSize (headCount (body.scopes inner))
      let handler := leave + 2 + 10
      if catches.isNoCatch then body.parts inner start
      else body.parts inner (start + 10) ++ .enclosing (start + 10) (leave + 2) (.tryBody handler) ::
        catches.parts (body.scopes inner).tail handler
  | _,deferStatement resource body,_,start =>
      let entry := start + resource.size + 10 + 10
      [.enclosing entry (entry + body.size + 2) .deferred]
  | _,empty,_,_ | _,noNext,_,_ | _,noCase,_,_ | _,noCatch,_,_ => []
  | _,cons first rest,open_,start =>
      first.parts open_ start ++ rest.parts (first.scopes open_) (start + first.size open_)
  | _,ifClause _ condition body next,open_,start =>
      let inner : List DeferScope := ⟨0,false⟩ :: open_
      let entry := start + condition.size + 10
      let bodied := entry + body.size inner + drainSize (headCount (body.scopes inner))
      body.parts inner entry ++
        if next.isNoNext then [] else next.parts (body.scopes inner).tail (bodied + 10)
  | _,elseClause body,open_,start => body.parts (⟨0,false⟩ :: open_) start
  | _,elseIf clause,open_,start => clause.parts open_ start
  | _,defaultClause body rest,open_,start =>
      let inner : List DeferScope := ⟨0,false⟩ :: open_
      let bodied := start + body.size inner + drainSize (headCount (body.scopes inner))
      body.parts inner start ++ rest.parts (body.scopes inner).tail (bodied + 10)
  | _,caseClause test bind body rest,open_,start =>
      let inner : List DeferScope := ⟨0,false⟩ :: open_
      let entry := start + test.size + 10 + bind.size
      let bodied := entry + body.size inner + drainSize (headCount (body.scopes inner))
      body.parts inner entry ++ rest.parts (body.scopes inner).tail (bodied + 10)
  | _,catchClause filter bind body rest,open_,start =>
      let inner : List DeferScope := ⟨0,false⟩ :: open_
      let entry := start + filterSize filter + bind.size
      let bodied := entry + body.size inner + drainSize (headCount (body.scopes inner))
      body.parts inner entry ++ rest.parts (body.scopes inner).tail (bodied + 10)

end Statement

def Within (first last : Nat) (parts : List Part) : Prop :=
  ∀ low high mark, .enclosing low high mark ∈ parts → first < low ∧ high ≤ last

namespace Within

variable {first last : Nat} {parts other : List Part}

theorem nil : Within first last [] := by
  intro low high mark member
  cases member

theorem exitJump (offset : Nat) : Within first last [.exitJump offset] := by
  intro low high mark member
  simp at member

theorem mono {first' last' : Nat} (h : Within first last parts) (before : first' ≤ first)
    (after : last ≤ last') : Within first' last' parts := by
  intro low high mark member
  obtain ⟨lower,upper⟩ := h low high mark member
  omega

theorem append (left : Within first last parts) (right : Within first last other) :
    Within first last (parts ++ other) := by
  intro low high mark member
  rcases List.mem_append.mp member with member | member
  · exact left low high mark member
  · exact right low high mark member

theorem cons {low high : Nat} {mark : Mark} (lower : first < low) (upper : high ≤ last)
    (rest : Within first last parts) : Within first last (.enclosing low high mark :: parts) := by
  intro low' high' mark' member
  rcases List.mem_cons.mp member with same | member
  · cases same
    exact ⟨lower,upper⟩
  · exact rest low' high' mark' member

theorem marksAt_eq_nil (h : Within first last parts) {offset : Nat} (outside : offset ≤ first ∨ last ≤ offset) :
    marksAt parts offset = [] := by
  unfold marksAt
  rw [List.filterMap_eq_nil_iff]
  intro part member
  cases part with
  | exitJump => rfl
  | enclosing low high mark =>
    have within := h low high mark member
    rw [Part.mark?,if_neg (by omega)]

end Within

theorem marksAt_append (left right : List Part) (offset : Nat) :
    marksAt (left ++ right) offset = marksAt left offset ++ marksAt right offset :=
  List.filterMap_append

theorem Statement.parts_within {kind : StatementKind} (statement : Statement kind) (open_ : List DeferScope)
    (start : Nat) : Within start (start + statement.size open_) (statement.parts open_ start) := by
  induction statement generalizing open_ start with
  | simple | returnStatement | throwStatement | empty | noNext | noCase | noCatch => exact .nil
  | breakStatement | continueStatement => exact .exitJump _
  | whileStatement condition body ih | untilStatement condition body ih =>
    apply (ih _ _).mono
    · omega
    · simp only [size]
      omega
  | forStatement initializer condition afterRepeat body ih =>
    apply (ih _ _).mono
    · omega
    · simp only [size]
      omega
  | enumeration forEach enumerator moveNext current body ih =>
    apply (ih _ _).mono
    · omega
    · simp only [size]
      omega
  | conditional first ih | elseIf first ih => exact ih open_ start
  | elseClause body ih =>
    apply (ih _ _).mono
    · omega
    · simp only [size]
      omega
  | switchStatement scrutinee cases ih =>
    simp only [parts,size]
    split
    · exact .nil
    · apply (ih _ _).mono
      · omega
      · omega
  | tryStatement body catches ihBody ihCatches =>
    simp only [parts,size]
    split
    · apply (ihBody _ _).mono
      · omega
      · omega
    · refine .append ((ihBody _ _).mono ?_ ?_) (.cons ?_ ?_ ((ihCatches _ _).mono ?_ ?_))
      all_goals omega
  | deferStatement resource body =>
    refine .cons ?_ ?_ .nil
    · omega
    · simp only [size]
      omega
  | cons first rest ihFirst ihRest =>
    simp only [parts,size]
    refine .append ((ihFirst _ _).mono ?_ ?_) ((ihRest _ _).mono ?_ ?_)
    all_goals omega
  | ifClause negated condition body next ihBody ihNext =>
    simp only [parts,size]
    split
    · apply ((ihBody _ _).mono _ _).append .nil
      · omega
      · omega
    · refine .append ((ihBody _ _).mono ?_ ?_) ((ihNext _ _).mono ?_ ?_)
      all_goals omega
  | catchClause filter bind body rest ihBody ihRest =>
    have filtered : size (.catchClause filter bind body rest) open_ = filterSize filter + bind.size +
        body.size (⟨0,false⟩ :: open_) + drainSize (headCount (body.scopes (⟨0,false⟩ :: open_))) + 10 +
        rest.size (body.scopes (⟨0,false⟩ :: open_)).tail := by cases filter <;> rfl
    simp only [parts,filtered]
    refine .append ((ihBody _ _).mono ?_ ?_) ((ihRest _ _).mono ?_ ?_)
    all_goals omega
  | defaultClause body rest ihBody ihRest | caseClause test bind body rest ihBody ihRest =>
    simp only [parts,size]
    refine .append ((ihBody _ _).mono ?_ ?_) ((ihRest _ _).mono ?_ ?_)
    all_goals omega

/-- A code with its marks, and the offsets of the jumps of `break`s and `continue`s. -/
structure Chart where
  code : Code
  marks : Nat → List Mark
  isExit : Nat → Prop

/-- In an interval the marks are those of the parts, under marks of try bodies that enclose it all. -/
structure Surrounds (chart : Chart) (parts : List Part) (first last : Nat) (outer : List Mark) : Prop where
  marks : ∀ offset, first ≤ offset → offset ≤ last → chart.marks offset = marksAt parts offset ++ outer
  regular : .deferred ∉ outer
  exits : ∀ offset, .exitJump offset ∈ parts → chart.isExit offset

namespace Surrounds

variable {chart : Chart} {parts other : List Part} {first middle last : Nat} {outer : List Mark}

theorem narrow {first' last' : Nat} (h : Surrounds chart parts first last outer)
    (before : first ≤ first') (after : last' ≤ last) : Surrounds chart parts first' last' outer := by
  refine ⟨?_,h.regular,h.exits⟩
  intro offset lower upper
  exact h.marks offset (by omega) (by omega)

theorem left (h : Surrounds chart (parts ++ other) first last outer) (within : Within middle last other)
    (le : middle ≤ last) : Surrounds chart parts first middle outer := by
  refine ⟨?_,h.regular,?_⟩
  · intro offset lower upper
    rw [h.marks offset lower (by omega),marksAt_append,within.marksAt_eq_nil (.inl upper),List.append_nil]
  · intro offset member
    exact h.exits offset (List.mem_append_left _ member)

theorem right (h : Surrounds chart (parts ++ other) first last outer) (within : Within first middle parts)
    (le : first ≤ middle) : Surrounds chart other middle last outer := by
  refine ⟨?_,h.regular,?_⟩
  · intro offset lower upper
    rw [h.marks offset (by omega) upper,marksAt_append,within.marksAt_eq_nil (.inr lower),List.nil_append]
  · intro offset member
    exact h.exits offset (List.mem_append_right _ member)

theorem outside {low high offset : Nat} (h : Surrounds chart parts first last outer)
    (within : Within low high parts) (lower : first ≤ offset) (upper : offset ≤ last)
    (apart : offset ≤ low ∨ high ≤ offset) : chart.marks offset = outer := by
  rw [h.marks offset lower upper,within.marksAt_eq_nil apart,List.nil_append]

end Surrounds
end ShardScript.Emitter
