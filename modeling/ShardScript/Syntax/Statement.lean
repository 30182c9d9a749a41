

/-! The statement trees that the passes in front of the emitter work on, for any kind of
expression and of exception type. -/
namespace ShardScript.Syntax

inductive StatementKind where
  | statement | block | clause | next | cases | catches

inductive Simple (Expression : Type) where
  | expressionStatement (expression : Expression)
  | variableStatement (name : String) (value : Option Expression)

def Simple.all {Expression : Type} (holds : Expression → Bool) : Simple Expression → Bool
  | expressionStatement expression => holds expression
  | variableStatement _ value => value.all holds

inductive Statement (Expression TypeSymbol : Type) : StatementKind → Type where
  | simple (statement : Simple Expression) : Statement Expression TypeSymbol .statement
  | returnStatement (value : Option Expression) : Statement Expression TypeSymbol .statement
  | throwStatement (exception : Option Expression) : Statement Expression TypeSymbol .statement
  | breakStatement : Statement Expression TypeSymbol .statement
  | continueStatement : Statement Expression TypeSymbol .statement
  | whileStatement (condition : Expression) (body : Statement Expression TypeSymbol .block) :
      Statement Expression TypeSymbol .statement
  | untilStatement (condition : Expression) (body : Statement Expression TypeSymbol .block) :
      Statement Expression TypeSymbol .statement
  | forStatement (initializer : Option (Simple Expression)) (condition : Option Expression)
      (afterRepeat : Option (Simple Expression)) (body : Statement Expression TypeSymbol .block) :
      Statement Expression TypeSymbol .statement
  | forEachStatement (name : String) (range : Expression)
      (body : Statement Expression TypeSymbol .block) : Statement Expression TypeSymbol .statement
  | forInStatement (name : String) (range : Expression)
      (body : Statement Expression TypeSymbol .block) : Statement Expression TypeSymbol .statement
  | conditional (first : Statement Expression TypeSymbol .clause) :
      Statement Expression TypeSymbol .statement
  | switchStatement (scrutinee : Expression) (cases : Statement Expression TypeSymbol .cases) :
      Statement Expression TypeSymbol .statement
  | tryStatement (body : Statement Expression TypeSymbol .block)
      (catches : Statement Expression TypeSymbol .catches) : Statement Expression TypeSymbol .statement
  /-- A resource defer runs its statement at once and disposes of the resource later. -/
  | deferStatement (isResource : Bool) (statement : Simple Expression) :
      Statement Expression TypeSymbol .statement
  | empty : Statement Expression TypeSymbol .block
  | cons (first : Statement Expression TypeSymbol .statement)
      (rest : Statement Expression TypeSymbol .block) : Statement Expression TypeSymbol .block
  | ifClause (negated : Bool) (condition : Simple Expression)
      (body : Statement Expression TypeSymbol .block) (next : Statement Expression TypeSymbol .next) :
      Statement Expression TypeSymbol .clause
  | noNext : Statement Expression TypeSymbol .next
  | elseClause (body : Statement Expression TypeSymbol .block) : Statement Expression TypeSymbol .next
  | elseIf (clause : Statement Expression TypeSymbol .clause) : Statement Expression TypeSymbol .next
  | noCase : Statement Expression TypeSymbol .cases
  | defaultClause (body : Statement Expression TypeSymbol .block)
      (rest : Statement Expression TypeSymbol .cases) : Statement Expression TypeSymbol .cases
  | caseClause (pattern : Expression) (body : Statement Expression TypeSymbol .block)
      (rest : Statement Expression TypeSymbol .cases) : Statement Expression TypeSymbol .cases
  | noCatch : Statement Expression TypeSymbol .catches
  | catchClause (type : Option TypeSymbol) (name : Option String)
      (body : Statement Expression TypeSymbol .block)
      (rest : Statement Expression TypeSymbol .catches) : Statement Expression TypeSymbol .catches

namespace Statement

variable {Expression TypeSymbol : Type}

def isEmpty : Statement Expression TypeSymbol .block → Bool
  | empty => true
  | _ => false

def isNoCase : Statement Expression TypeSymbol .cases → Bool
  | noCase => true
  | _ => false

@[grind] def all (holds : Expression → Bool) : {kind : StatementKind} → Statement Expression TypeSymbol kind → Bool
  | _,simple statement | _,deferStatement _ statement => statement.all holds
  | _,returnStatement value | _,throwStatement value => value.all holds
  | _,breakStatement | _,continueStatement | _,empty | _,noNext | _,noCase | _,noCatch => true
  | _,whileStatement condition body | _,untilStatement condition body => holds condition && all holds body
  | _,forStatement initializer condition afterRepeat body =>
      initializer.all (Simple.all holds) && (condition.all holds && (afterRepeat.all (Simple.all holds) && all holds body))
  | _,forEachStatement _ range body | _,forInStatement _ range body => holds range && all holds body
  | _,conditional first => all holds first
  | _,switchStatement scrutinee cases => holds scrutinee && all holds cases
  | _,tryStatement body catches => all holds body && all holds catches
  | _,cons first rest => all holds first && all holds rest
  | _,ifClause _ condition body next => condition.all holds && (all holds body && all holds next)
  | _,elseClause body => all holds body
  | _,elseIf clause => all holds clause
  | _,defaultClause body rest => all holds body && all holds rest
  | _,caseClause pattern body rest => holds pattern && (all holds body && all holds rest)
  | _,catchClause _ _ body rest => all holds body && all holds rest

def isNoCatch : Statement Expression TypeSymbol .catches → Bool
  | noCatch => true
  | _ => false

end Statement

abbrev Path := List Nat

namespace Path

def Inside (outer inner : Path) : Prop := ∃ steps, steps ≠ [] ∧ inner = steps ++ outer

theorem child_inside (child : Nat) (path : Path) : Inside path (child :: path) :=
  ⟨[child],by simp,rfl⟩

theorem Inside.child {child : Nat} {path inner : Path} (inside : Inside (child :: path) inner) :
    Inside path inner := by
  rcases inside with ⟨steps,_,rfl⟩
  exact ⟨steps ++ [child],by simp,by simp⟩

theorem Inside.ne {outer inner : Path} (inside : Inside outer inner) : inner ≠ outer := by
  rcases inside with ⟨steps,some,rfl⟩
  intro same
  exact some (by simpa using same)

theorem Inside.disjoint {left right : Nat} {path inner : Path} (apart : left ≠ right)
    (one : Inside (left :: path) inner) : ¬ Inside (right :: path) inner := by
  rintro ⟨steps,_,same⟩
  rcases one with ⟨steps',_,rfl⟩
  have lengths : steps'.length = steps.length := by
    have := congrArg List.length same
    simp only [List.length_append,List.length_cons] at this
    omega
  have tails := (List.append_inj same lengths).2
  exact apart (by simpa using tails)

theorem Inside.not_sibling {left right : Nat} {path : Path} :
    ¬ Inside (left :: path) (right :: path) := by
  rintro ⟨steps,some,same⟩
  have := congrArg List.length same
  cases steps with
  | nil => exact some rfl
  | cons step steps =>
    simp only [List.length_append,List.length_cons] at this
    omega

end Path

end ShardScript.Syntax

/-! The nodes of a statement tree with their places. -/
namespace ShardScript.Syntax

abbrev Node (Expression TypeSymbol : Type) := (kind : StatementKind) × Statement Expression TypeSymbol kind

namespace Statement

variable {Expression TypeSymbol : Type}

def heads (child : Nat) (path : Path) (statement : Option (Simple Expression)) :
    List (Path × Node Expression TypeSymbol) :=
  statement.toList.map fun statement => (child :: path,⟨_,simple statement⟩)

@[grind] def nodes : {kind : StatementKind} → Statement Expression TypeSymbol kind → Path →
    List (Path × Node Expression TypeSymbol)
  | _,simple statement,path => [(path,⟨_,simple statement⟩)]
  | _,returnStatement value,path => [(path,⟨_,returnStatement value⟩)]
  | _,throwStatement exception,path => [(path,⟨_,throwStatement exception⟩)]
  | _,breakStatement,path => [(path,⟨_,breakStatement⟩)]
  | _,continueStatement,path => [(path,⟨_,continueStatement⟩)]
  | _,whileStatement condition body,path =>
      (path,⟨_,whileStatement condition body⟩) :: nodes body (0 :: path)
  | _,untilStatement condition body,path =>
      (path,⟨_,untilStatement condition body⟩) :: nodes body (0 :: path)
  | _,forStatement initializer condition afterRepeat body,path =>
      (path,⟨_,forStatement initializer condition afterRepeat body⟩) ::
        (heads 1 path initializer ++ (heads 2 path afterRepeat ++ nodes body (0 :: path)))
  | _,forEachStatement name range body,path =>
      (path,⟨_,forEachStatement name range body⟩) :: nodes body (0 :: path)
  | _,forInStatement name range body,path =>
      (path,⟨_,forInStatement name range body⟩) :: nodes body (0 :: path)
  | _,conditional first,path => (path,⟨_,conditional first⟩) :: nodes first (0 :: path)
  | _,switchStatement scrutinee cases,path =>
      (path,⟨_,switchStatement scrutinee cases⟩) :: nodes cases (0 :: path)
  | _,tryStatement body catches,path =>
      (path,⟨_,tryStatement body catches⟩) :: (nodes body (0 :: path) ++ nodes catches (1 :: path))
  | _,deferStatement isResource statement,path =>
      (path,⟨_,deferStatement isResource statement⟩) :: heads 0 path (some statement)
  | _,empty,path => [(path,⟨_,empty⟩)]
  | _,cons first rest,path =>
      (path,⟨_,cons first rest⟩) :: (nodes first (0 :: path) ++ nodes rest (1 :: path))
  | _,ifClause negated condition body next,path =>
      (path,⟨_,ifClause negated condition body next⟩) ::
        (heads 2 path (some condition) ++ (nodes body (0 :: path) ++ nodes next (1 :: path)))
  | _,noNext,path => [(path,⟨_,noNext⟩)]
  | _,elseClause body,path => (path,⟨_,elseClause body⟩) :: nodes body (0 :: path)
  | _,elseIf clause,path => (path,⟨_,elseIf clause⟩) :: nodes clause (0 :: path)
  | _,noCase,path => [(path,⟨_,noCase⟩)]
  | _,defaultClause body rest,path =>
      (path,⟨_,defaultClause body rest⟩) :: (nodes body (0 :: path) ++ nodes rest (1 :: path))
  | _,caseClause pattern body rest,path =>
      (path,⟨_,caseClause pattern body rest⟩) :: (nodes body (0 :: path) ++ nodes rest (1 :: path))
  | _,noCatch,path => [(path,⟨_,noCatch⟩)]
  | _,catchClause type name body rest,path =>
      (path,⟨_,catchClause type name body rest⟩) :: (nodes body (0 :: path) ++ nodes rest (1 :: path))

end Statement

end ShardScript.Syntax
