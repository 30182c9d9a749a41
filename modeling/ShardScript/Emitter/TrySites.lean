import ShardScript.Emitter.StatementFlow

/-! The catch clauses of a method in its code: where the handler of each try statement starts, and where
its clauses end. -/
namespace ShardScript.Emitter
open ByteCode

structure TrySite where
  handler : Nat
  catches : Statement .catches
  openScopes : List DeferScope

namespace TrySite

def stop (site : TrySite) : Nat := site.handler + site.catches.size site.openScopes

def encloses (offset : Nat) (site : TrySite) : Bool := decide (site.handler ≤ offset ∧ offset < site.stop)

end TrySite

namespace Statement

@[grind] def trySites : {kind : StatementKind} → Statement kind → List DeferScope → Nat → List TrySite
  | _,simple _,_,_ | _,returnStatement _,_,_ | _,throwStatement _,_,_ | _,breakStatement,_,_
  | _,continueStatement,_,_ | _,deferStatement _ _,_,_ => []
  | _,whileStatement condition body,open_,start | _,untilStatement condition body,open_,start =>
      body.trySites (⟨0,true⟩ :: open_) (start + condition.size + 10)
  | _,forStatement initializer condition _ body,open_,start =>
      body.trySites (⟨0,true⟩ :: open_) (start + initializer.size + condition.size + 10)
  | _,enumeration forEach enumerator moveNext current body,open_,start =>
      body.trySites (⟨0,forEach⟩ :: open_) (start + enumerator.size + moveNext.size + 10 + current.size)
  | _,conditional first,open_,start => first.trySites open_ start
  | _,switchStatement scrutinee cases,open_,start =>
      if cases.isNoCase then [] else cases.trySites open_ (start + scrutinee.size)
  | _,tryStatement body catches,open_,start =>
      let inner : List DeferScope := ⟨0,false⟩ :: open_
      let outer := (body.scopes inner).tail
      let leave := start + 10 + body.size inner + drainSize (headCount (body.scopes inner))
      let handler := leave + 2 + 10
      if catches.isNoCatch then body.trySites inner start
      else body.trySites inner (start + 10) ++ (catches.trySites outer handler ++ [⟨handler,catches,outer⟩])
  | _,empty,_,_ | _,noNext,_,_ | _,noCase,_,_ | _,noCatch,_,_ => []
  | _,cons first rest,open_,start =>
      first.trySites open_ start ++ rest.trySites (first.scopes open_) (start + first.size open_)
  | _,ifClause _ condition body next,open_,start =>
      let inner : List DeferScope := ⟨0,false⟩ :: open_
      let entry := start + condition.size + 10
      let bodied := entry + body.size inner + drainSize (headCount (body.scopes inner))
      body.trySites inner entry ++
        if next.isNoNext then [] else next.trySites (body.scopes inner).tail (bodied + 10)
  | _,elseClause body,open_,start => body.trySites (⟨0,false⟩ :: open_) start
  | _,elseIf clause,open_,start => clause.trySites open_ start
  | _,defaultClause body rest,open_,start =>
      let inner : List DeferScope := ⟨0,false⟩ :: open_
      let bodied := start + body.size inner + drainSize (headCount (body.scopes inner))
      body.trySites inner start ++ rest.trySites (body.scopes inner).tail (bodied + 10)
  | _,caseClause test bind body rest,open_,start =>
      let inner : List DeferScope := ⟨0,false⟩ :: open_
      let entry := start + test.size + 10 + bind.size
      let bodied := entry + body.size inner + drainSize (headCount (body.scopes inner))
      body.trySites inner entry ++ rest.trySites (body.scopes inner).tail (bodied + 10)
  | _,catchClause filter bind body rest,open_,start =>
      let inner : List DeferScope := ⟨0,false⟩ :: open_
      let entry := start + filterSize filter + bind.size
      let bodied := entry + body.size inner + drainSize (headCount (body.scopes inner))
      body.trySites inner entry ++ rest.trySites (body.scopes inner).tail (bodied + 10)

end Statement

/-- The clauses of a site stand in a code, between the targets of some loop scope and before an `END_CATCH`. -/
def TrySite.Placed (code : Code) (site : TrySite) : Prop :=
  (∃ target, site.catches.Placed code target site.openScopes site.handler) ∧ code.fetch site.stop = some .endCatch

def SitesPlaced (code : Code) (sites : List TrySite) : Prop := ∀ site ∈ sites, site.Placed code

namespace SitesPlaced

variable {code : Code} {sites other : List TrySite}

theorem nil : SitesPlaced code [] := by
  intro site member
  cases member

theorem append (left : SitesPlaced code sites) (right : SitesPlaced code other) : SitesPlaced code (sites ++ other) := by
  intro site member
  rcases List.mem_append.mp member with member | member
  · exact left site member
  · exact right site member

theorem one {site : TrySite} (placed : site.Placed code) : SitesPlaced code [site] := by
  intro other member
  rw [List.mem_singleton.mp member]
  exact placed

end SitesPlaced

namespace Statement

theorem trySites_placed {code : Code} {kind : StatementKind} (statement : Statement kind) {target : Option Targets}
    {open_ : List DeferScope} {start : Nat} (placed : statement.Placed code target open_ start) :
    SitesPlaced code (statement.trySites open_ start) := by
  induction statement generalizing target open_ start with
  | simple | returnStatement | throwStatement | breakStatement | continueStatement | deferStatement | empty | noNext
  | noCase | noCatch => exact .nil
  | whileStatement condition body ih | untilStatement condition body ih => exact ih placed.2.2.1.1
  | forStatement initializer condition afterRepeat body ih => exact ih placed.2.2.2.1.1
  | enumeration forEach enumerator moveNext current body ih => exact ih placed.2.2.2.2.1.1
  | conditional first ih | elseIf first ih => exact ih placed
  | elseClause body ih => exact ih placed.1
  | switchStatement scrutinee cases ih =>
    simp only [Placed,trySites] at placed ⊢
    split
    · exact .nil
    · rename_i some_
      rw [if_neg some_] at placed
      exact ih placed.2
  | tryStatement body catches ihBody ihCatches =>
    by_cases none_ : catches.isNoCatch = true
    · simp only [Placed,trySites,if_pos none_] at placed ⊢
      exact ihBody placed.1
    · simp only [Placed,trySites,if_neg none_] at placed ⊢
      obtain ⟨_,block,_,_,catchesPlaced,endCatch⟩ := placed
      exact (ihBody block.1).append ((ihCatches catchesPlaced).append (.one ⟨⟨target,catchesPlaced⟩,endCatch⟩))
  | cons first rest ihFirst ihRest => exact (ihFirst placed.1).append (ihRest placed.2)
  | ifClause negated condition body next ihBody ihNext =>
    obtain ⟨_,_,block,nextPlaced⟩ := placed
    apply (ihBody block.1).append
    split
    · exact .nil
    · rename_i some_
      rw [if_neg some_] at nextPlaced
      exact ihNext (nextPlaced (by simpa using some_)).2
  | defaultClause body rest ihBody ihRest => exact (ihBody placed.1.1).append (ihRest placed.2.2)
  | caseClause test bind body rest ihBody ihRest =>
    obtain ⟨_,_,_,block,_,restPlaced⟩ := placed
    exact (ihBody block.1).append (ihRest restPlaced)
  | catchClause filter bind body rest ihBody ihRest =>
    cases filter with
    | none =>
      obtain ⟨_,block,_,restPlaced⟩ := placed
      exact (ihBody block.1).append (ihRest restPlaced)
    | some filter =>
      obtain ⟨_,_,_,block,_,restPlaced⟩ := placed
      simp only [trySites,filterSize,← Nat.add_assoc]
      exact (ihBody block.1).append (ihRest restPlaced)

end Statement

def SiteAt (sites : List TrySite) (handler : Nat) : Prop := ∃ site ∈ sites, site.handler = handler

namespace SiteAt

variable {sites other : List TrySite} {handler : Nat}

theorem left (found : SiteAt sites handler) : SiteAt (sites ++ other) handler := by
  obtain ⟨site,member,same⟩ := found
  exact ⟨site,List.mem_append_left _ member,same⟩

theorem right (found : SiteAt other handler) : SiteAt (sites ++ other) handler := by
  obtain ⟨site,member,same⟩ := found
  exact ⟨site,List.mem_append_right _ member,same⟩

end SiteAt

namespace Statement

theorem append_site {low high handler : Nat} {parts others : List Part} {sites other : List TrySite}
    (member : .enclosing low high (.tryBody handler) ∈ parts ++ others)
    (first : .enclosing low high (.tryBody handler) ∈ parts → SiteAt sites handler)
    (second : .enclosing low high (.tryBody handler) ∈ others → SiteAt other handler) :
    SiteAt (sites ++ other) handler := by
  rcases List.mem_append.mp member with member | member
  · exact (first member).left
  · exact (second member).right

theorem site_of_part {kind : StatementKind} (statement : Statement kind) {open_ : List DeferScope} {start low high handler : Nat}
    (member : .enclosing low high (.tryBody handler) ∈ statement.parts open_ start) :
    SiteAt (statement.trySites open_ start) handler := by
  induction statement generalizing open_ start with
  | simple | returnStatement | throwStatement | empty | noNext | noCase | noCatch => cases member
  | breakStatement | continueStatement | deferStatement => simp [parts] at member
  | whileStatement condition body ih | untilStatement condition body ih => exact ih member
  | forStatement initializer condition afterRepeat body ih => exact ih member
  | enumeration forEach enumerator moveNext current body ih => exact ih member
  | conditional first ih | elseIf first ih | elseClause body ih => exact ih member
  | switchStatement scrutinee cases ih =>
    simp only [parts,trySites] at member ⊢
    split at member
    next => cases member
    next some_ =>
      rw [if_neg some_]
      exact ih member
  | tryStatement body catches ihBody ihCatches =>
    simp only [parts,trySites] at member ⊢
    split at member
    next none_ =>
      rw [if_pos none_]
      exact ihBody member
    next some_ =>
      rw [if_neg some_]
      refine append_site member ihBody fun member => ?_
      rcases List.mem_cons.mp member with same | member
      · cases same
        exact SiteAt.right ⟨_,List.mem_singleton_self _,rfl⟩
      · exact (ihCatches member).left
  | cons first rest ihFirst ihRest => exact append_site member ihFirst ihRest
  | ifClause negated condition body next ihBody ihNext =>
    refine append_site member ihBody fun member => ?_
    split at member
    next => cases member
    next some_ =>
      rw [if_neg some_]
      exact ihNext member
  | defaultClause body rest ihBody ihRest | caseClause test bind body rest ihBody ihRest
  | catchClause filter bind body rest ihBody ihRest => exact append_site member ihBody ihRest

end Statement

def bodySites (body : Statement .block) : List TrySite := body.trySites bodyScopes 0

def catchAt (body : Statement .block) (offset : Nat) : Option Nat :=
  ((bodySites body).find? (TrySite.encloses offset)).map TrySite.handler

variable {body : Statement .block}

theorem bodySites_placed (accepts : Accepts body) : SitesPlaced (visitBody body).code (bodySites body) :=
  body.trySites_placed (visitBody_placed accepts).1.1

theorem enterTry_site (accepts : Accepts body) {offset handler : Nat}
    (fetched : (visitBody body).code.fetch offset = some (.enterTry handler)) : SiteAt (bodySites body) handler := by
  have flows := visitBody_flows accepts offset _ (Nat.zero_le _) (Code.lt_size_of_fetch fetched) fetched
  have member : Mark.tryBody handler ∈ marksAt (bodyParts body) (offset + Instruction.size (.enterTry handler)) := by
    rw [show marksAt (bodyParts body) _ = _ from flows.2.1]
    exact List.mem_cons_self
  obtain ⟨part,listed,mark⟩ := List.mem_filterMap.mp member
  cases part with
  | exitJump => cases mark
  | enclosing low high other =>
    rw [Part.mark?] at mark
    split at mark
    · obtain rfl := Option.some.inj mark
      exact body.site_of_part listed
    · cases mark

end ShardScript.Emitter
