import Mathlib.Data.List.Flatten
import Mathlib.Data.List.Perm.Subperm
import ShardScript.Declarations.Collection

/-! What a program has to be like for the binders to find a symbol, and a slot of its own, for every node that they come to. -/
namespace ShardScript.Declarations

section Slots

theorem uint16_add (first second : Nat) : uint16 (uint16 first + second) = uint16 (first + second) := Nat.mod_add_mod _ _ _

theorem uint16_add_right (first second : Nat) : uint16 (first + uint16 second) = uint16 (first + second) :=
  Nat.add_mod_mod _ _ _

theorem uint16_of_lt {value : Nat} (bound : value < 65536) : uint16 value = value := Nat.mod_eq_of_lt bound

def parameterCount (isStatic : Bool) (parameters : Nat) : Nat := parameters + if isStatic then 0 else 1

theorem getEvalStackArgumentsCount_eq (isStatic : Bool) (parameters : Nat) :
    getEvalStackArgumentsCount isStatic parameters = uint16 (parameterCount isStatic parameters) := by
  cases isStatic with
  | false => exact uint16_add parameters 1
  | true => rfl

theorem parameterSlots_eq (isStatic : Bool) (parameters : Nat) :
    parameterSlots isStatic parameters = (List.range (parameterCount isStatic parameters)).map uint16 := by
  cases isStatic with
  | true => rfl
  | false =>
    simp only [parameterSlots,parameterCount,Bool.false_eq_true,↓reduceIte]
    rw [List.range_succ_eq_map,List.map_cons,List.map_map]
    rfl

theorem map_node_declareAll (argumentsCount : Nat) (nodes : List SyntaxNode) (variablesCount : Nat) :
    (declareAll argumentsCount variablesCount nodes).map DeclaredSymbol.node = nodes := by
  induction nodes generalizing variablesCount with
  | nil => rfl
  | cons node nodes ih =>
    rw [declareAll]
    split
    · rw [List.map_cons,ih]
    · rw [List.map_cons,ih]

theorem kind_of_slot (argumentsCount : Nat) (nodes : List SyntaxNode) (variablesCount : Nat) :
    ∀ symbol ∈ declareAll argumentsCount variablesCount nodes, symbol.slotIndex ≠ none →
      symbol.node.kind ≠ .lambdaExpression := by
  induction nodes generalizing variablesCount with
  | nil => exact List.forall_mem_nil _
  | cons node nodes ih =>
    rw [declareAll]
    split
    · exact List.forall_mem_cons.2 ⟨fun hasSlot => absurd rfl hasSlot,ih _⟩
    · rename_i other
      exact List.forall_mem_cons.2 ⟨fun _ => other,ih _⟩

theorem slots_declareAll (count : Nat) (nodes : List SyntaxNode) (variablesCount : Nat) :
    (declareAll (uint16 count) (uint16 variablesCount) nodes).filterMap DeclaredSymbol.slotIndex =
      (List.range (nodes.filter fun node => node.kind ≠ .lambdaExpression).length).map
        fun index => uint16 (count + variablesCount + index) := by
  induction nodes generalizing variablesCount with
  | nil => rfl
  | cons node nodes ih =>
    rw [declareAll]
    by_cases lambda : node.kind = .lambdaExpression
    · rw [if_pos lambda,List.filter_cons_of_neg (by simpa using lambda),List.filterMap_cons,ih]
    · rw [if_neg lambda,List.filter_cons_of_pos (by simpa using lambda),List.filterMap_cons,uint16_add variablesCount 1,ih,
        List.length_cons,List.range_succ_eq_map,List.map_cons,List.map_map]
      refine congrArg₂ List.cons ?_ (List.map_congr_left fun index _ => ?_)
      · rw [uint16_add_right,uint16_add,Nat.add_zero]
      · exact congrArg uint16 (by omega)

theorem slots_method (isStatic : Bool) (parameters : Nat) (body : Tree .block) :
    (Member.method isStatic parameters body).slots =
      (List.range (parameterCount isStatic parameters + (Member.method isStatic parameters body).variableNodes.length)).map
        uint16 := by
  have variableSlots := slots_declareAll (parameterCount isStatic parameters) (visit declarationCollector body) 0
  rw [Member.slots,Member.symbols,parameterSlots_eq,getEvalStackArgumentsCount_eq,List.range_add,List.map_append,
    List.map_map]
  exact congrArg _ variableSlots

theorem count_slot_eq_one {total : Nat} (enough : total ≤ 65536) {slot : Nat} (mem : slot ∈ (List.range total).map uint16) :
    ((List.range total).map uint16).count slot = 1 := by
  have same : (List.range total).map uint16 = List.range total := by
    refine (List.map_congr_left fun index bound => ?_).trans (List.map_id _)
    exact uint16_of_lt (lt_of_lt_of_le (List.mem_range.1 bound) enough)
  rw [same] at mem ⊢
  exact List.count_eq_one_of_mem List.nodup_range mem

theorem count_last_slot {total : Nat} (many : 65536 ≤ total) :
    1 < ((List.range (total + 1)).map uint16).count (uint16 total) := by
  have earlier : uint16 total ∈ (List.range total).map uint16 :=
    List.mem_map.2 ⟨total - 65536,List.mem_range.2 (by omega),by unfold uint16; omega⟩
  rw [List.range_succ,List.map_append,List.count_append,List.map_singleton,List.count_singleton_self]
  exact Nat.succ_lt_succ (List.count_pos_iff.2 earlier)

end Slots

namespace Member

theorem visit_sublist {first second : Visitor} (below : first.Below second) (member : Member) :
    (member.visit first).Sublist (member.visit second) := by
  cases member with
  | field initializer => exact Declarations.visit_sublist below initializer
  | method _ _ body => exact Declarations.visit_sublist below body
  | property initializer getter setter =>
    exact (within_sublist below.propertyInitializers (Declarations.visit_sublist below initializer)).append
      (within_sublist below.accessorBodies
        ((Declarations.visit_sublist below getter).append (Declarations.visit_sublist below setter)))

theorem visit_meets (first second : Visitor) (member : Member) :
    Meets (member.visit first) (member.visit second) (member.visit everything) (member.visit (first.meet second)) := by
  cases member with
  | field initializer => exact Declarations.visit_meets first second initializer
  | method _ _ body => exact Declarations.visit_meets first second body
  | property initializer getter setter =>
    exact (Declarations.visit_meets first second initializer).within_and.append
      ((Declarations.visit_meets first second getter).append (Declarations.visit_meets first second setter)).within_and

theorem map_node_symbols (member : Member) : member.symbols.map DeclaredSymbol.node = member.visit declarationCollector := by
  cases member with
  | method isStatic parameters body => exact map_node_declareAll _ _ _
  | field | property => exact List.map_map.trans (List.map_id _)

theorem exists_symbol {member : Member} {node : SyntaxNode} (collected : node ∈ member.visit declarationCollector) :
    ∃ symbol ∈ member.symbols, symbol.node = node := by
  rw [← map_node_symbols,List.mem_map] at collected
  exact collected

theorem node_mem {member : Member} {symbol : DeclaredSymbol} (mem : symbol ∈ member.symbols) :
    symbol.node ∈ member.visit declarationCollector := by
  rw [← map_node_symbols]
  exact List.mem_map_of_mem mem

theorem count_slots {member : Member} (fits : member.Fits) {symbol : DeclaredSymbol} (mem : symbol ∈ member.symbols)
    {slot : Nat} (hasSlot : slot ∈ symbol.slotIndex) : member.slots.count slot = 1 := by
  cases member with
  | field | property =>
    obtain ⟨_,_,rfl⟩ := List.mem_map.1 mem
    exact absurd hasSlot (Option.not_mem_none slot)
  | method isStatic parameters body =>
    have slotMem : slot ∈ (method isStatic parameters body).symbols.filterMap DeclaredSymbol.slotIndex :=
      List.mem_filterMap.2 ⟨symbol,mem,hasSlot⟩
    have listed : slot ∈ (method isStatic parameters body).slots := List.mem_append_right _ slotMem
    obtain none | enough := fits
    · rw [symbols,getEvalStackArgumentsCount_eq] at slotMem
      have noSlots := slots_declareAll (parameterCount isStatic parameters) (Declarations.visit declarationCollector body) 0
      have noNodes : ((Declarations.visit declarationCollector body).filter fun node => node.kind ≠ .lambdaExpression) = [] :=
        none
      rw [noNodes] at noSlots
      exact absurd (noSlots ▸ slotMem) List.not_mem_nil
    · rw [slots_method] at listed ⊢
      exact count_slot_eq_one enough listed

theorem exists_taken {member : Member} (unfit : ¬ member.Fits) :
    ∃ symbol ∈ member.symbols, symbol.node ∈ member.visit typeBinder ∧ ∃ slot ∈ symbol.slotIndex, 1 < member.slots.count slot := by
  cases member with
  | field | property => exact absurd trivial unfit
  | method isStatic parameters body =>
    rw [Fits,not_or,not_le] at unfit
    obtain ⟨some,many⟩ := unfit
    obtain ⟨last,count⟩ : ∃ last, (method isStatic parameters body).variableNodes.length = last + 1 :=
      Nat.exists_eq_succ_of_ne_zero (mt List.length_eq_zero_iff.1 some)
    have slotMem : uint16 (parameterCount isStatic parameters + last) ∈
        (method isStatic parameters body).symbols.filterMap DeclaredSymbol.slotIndex := by
      have variableSlots :=
        slots_declareAll (parameterCount isStatic parameters) (Declarations.visit declarationCollector body) 0
      have inRange : last < (method isStatic parameters body).variableNodes.length := by omega
      rw [symbols,getEvalStackArgumentsCount_eq]
      exact variableSlots ▸ List.mem_map.2 ⟨last,List.mem_range.2 inRange,rfl⟩
    obtain ⟨symbol,mem,hasSlot⟩ := List.mem_filterMap.1 slotMem
    have kind : symbol.node.kind ≠ .lambdaExpression :=
      kind_of_slot _ _ _ symbol mem fun none => by rw [none] at hasSlot; cases hasSlot
    have visited : symbol.node ∈ (method isStatic parameters body).visit typeBinder :=
      (visit_covered rfl (fun _ => rfl) (fun _ => rfl) body symbol.node (node_mem mem)).resolve_left kind
    refine ⟨symbol,mem,visited,_,hasSlot,?_⟩
    rw [slots_method,count]
    rw [count] at many
    exact count_last_slot (Nat.le_of_lt_succ many)

end Member

theorem Visitor.confined_below (visitor : Visitor) : visitor.confined.Below visitor where
  receivers := id
  indexatorReceivers := Bool.noConfusion
  lambdaBodies := Bool.noConfusion
  namelessCatches := Bool.noConfusion
  accessorBodies := Bool.noConfusion
  propertyInitializers := id
  goesOn := id

structure Visitor.IsBinder (visitor : Visitor) : Prop where
  below : visitor.confined.Below declarationCollector
  meet_eq : visitor.meet declarationCollector = visitor.confined

theorem typeBinder_isBinder : typeBinder.IsBinder where
  below := ⟨fun _ => rfl,Bool.noConfusion,Bool.noConfusion,Bool.noConfusion,Bool.noConfusion,fun _ => rfl,fun _ => rfl⟩
  meet_eq := rfl

theorem expressionBinder_isBinder : expressionBinder.IsBinder where
  below := ⟨fun _ => rfl,Bool.noConfusion,Bool.noConfusion,Bool.noConfusion,Bool.noConfusion,fun _ => rfl,fun _ => rfl⟩
  meet_eq := rfl

variable {member : Member} {visitor : Visitor}

theorem Member.visit_subset_iff (binder : visitor.IsBinder)
    (distinct : (member.visit everything).Nodup) :
    member.visit visitor ⊆ member.visit declarationCollector ↔ member.visit visitor = member.visit visitor.confined := by
  constructor
  · intro subset
    have confined : member.visit visitor ⊆ member.visit visitor.confined := fun node mem =>
      binder.meet_eq ▸ (visit_meets visitor declarationCollector member).mem_both distinct node mem (subset mem)
    have nodup : (member.visit visitor).Nodup := distinct.sublist (visit_sublist visitor.below_everything member)
    have length := (List.subperm_of_subset nodup confined).length_le
    exact ((visit_sublist visitor.confined_below member).eq_of_length_le length).symm
  · intro same
    rw [same]
    exact (visit_sublist binder.below member).subset

namespace Program

variable {program : Program}

theorem nodup_visit (mem : member ∈ program.members) : (member.visit everything).Nodup :=
  (List.nodup_flatMap.1 program.distinct).1 member mem

variable {node : SyntaxNode}

theorem member_unique {first second : Member} (firstMem : first ∈ program.members) (secondMem : second ∈ program.members)
    (inFirst : node ∈ first.visit everything) (inSecond : node ∈ second.visit everything) :
    first = second := by
  by_contra other
  have symmetric : Std.Symm (Function.onFun List.Disjoint (Member.visit everything)) :=
    ⟨fun _ _ disjoint _ inFirst inSecond => disjoint inSecond inFirst⟩
  have apart := (List.nodup_flatMap.1 program.distinct).2.forall firstMem secondMem other
  exact apart inFirst inSecond

theorem isDeclared_iff (mem : member ∈ program.members)
    (visited : node ∈ member.visit visitor) :
    program.IsDeclared node ↔
      ∃ symbol ∈ member.symbols, symbol.node = node ∧ ∀ slot ∈ symbol.slotIndex, member.slots.count slot = 1 := by
  constructor
  · rintro ⟨other,otherMem,symbol,symbolMem,rfl,apart⟩
    have inOther : symbol.node ∈ other.visit everything :=
      (Member.visit_sublist declarationCollector.below_everything other).subset (Member.node_mem symbolMem)
    have inMember : symbol.node ∈ member.visit everything :=
      (Member.visit_sublist visitor.below_everything member).subset visited
    obtain rfl := member_unique otherMem mem inOther inMember
    exact ⟨symbol,symbolMem,rfl,apart⟩
  · rintro ⟨symbol,symbolMem,found⟩
    exact ⟨member,mem,symbol,symbolMem,found⟩

theorem lookupSymbol_ne_none (declared : program.IsDeclared node) : program.lookupSymbol node ≠ none := by
  obtain ⟨member,mem,symbol,symbolMem,same,_⟩ := declared
  intro none
  exact List.find?_eq_none.1 none symbol (List.mem_flatMap.2 ⟨member,mem,symbolMem⟩) (decide_eq_true same)

theorem walk_of_isDeclared {nodes : List SyntaxNode} (declared : ∀ node ∈ nodes, program.IsDeclared node) :
    program.walk nodes = (nodes,false) := by
  induction nodes with
  | nil => rfl
  | cons node nodes ih =>
    obtain ⟨here,later⟩ := List.forall_mem_cons.1 declared
    rw [walk,if_neg fun missing => lookupSymbol_ne_none here missing.2,ih later]

theorem walk_of_not_throws {nodes : List SyntaxNode} (completes : (program.walk nodes).2 = false) :
    (program.walk nodes).1 = nodes := by
  induction nodes with
  | nil => rfl
  | cons node nodes ih =>
    rw [walk] at completes ⊢
    split at completes
    · exact Bool.noConfusion completes
    · rename_i found
      rw [if_neg found,ih completes]

theorem isComplete_iff_declared :
    program.IsComplete ↔ (program.isCollected = true →
      (∀ member ∈ program.members, ∀ node ∈ member.visit typeBinder, program.IsDeclared node) ∧
        (program.isTypeBound = true →
          ∀ member ∈ program.members, ∀ node ∈ member.visit expressionBinder, program.IsDeclared node)) := by
  have ways (visitor : Visitor) : (∀ node ∈ program.members.flatMap (Member.visit visitor), program.IsDeclared node) ↔
      ∀ member ∈ program.members, ∀ node ∈ member.visit visitor, program.IsDeclared node := List.forall_mem_flatMap
  rw [← ways,← ways,IsComplete,analyze]
  cases program.isCollected with
  | false => simp
  | true =>
    simp only [↓reduceIte,forall_const]
    constructor
    · rintro ⟨completes,declared⟩
      cases throwsTyped : (program.walkOf typeBinder).2 with
      | true =>
        rw [throwsTyped,Bool.true_or,if_pos rfl,throwsTyped] at completes
        exact Bool.noConfusion completes
      | false =>
        have typed : (program.walkOf typeBinder).1 = _ := walk_of_not_throws throwsTyped
        rw [throwsTyped,Bool.false_or] at completes declared
        cases bindsTypes : program.isTypeBound with
        | false =>
          rw [bindsTypes,Bool.not_false,if_pos rfl,typed] at declared
          exact ⟨declared,Bool.noConfusion⟩
        | true =>
          rw [bindsTypes,Bool.not_true,if_neg Bool.false_ne_true] at completes declared
          rw [typed,show (program.walkOf expressionBinder).1 = _ from walk_of_not_throws completes,
            List.forall_mem_append] at declared
          exact ⟨declared.1,fun _ => declared.2⟩
    · rintro ⟨typed,bound⟩
      rw [walkOf,walk_of_isDeclared typed]
      cases bindsTypes : program.isTypeBound with
      | false => exact ⟨rfl,typed⟩
      | true =>
        rw [walkOf,walk_of_isDeclared (bound bindsTypes)]
        exact ⟨rfl,List.forall_mem_append.2 ⟨typed,bound bindsTypes⟩⟩

theorem fits_of_isDeclared (mem : member ∈ program.members)
    (declared : ∀ node ∈ member.visit typeBinder, program.IsDeclared node) : member.Fits := by
  by_contra unfit
  obtain ⟨symbol,symbolMem,visited,slot,hasSlot,taken⟩ := Member.exists_taken unfit
  obtain ⟨other,otherMem,same,apart⟩ := (isDeclared_iff mem visited).1 (declared _ visited)
  have nodup : (member.symbols.map DeclaredSymbol.node).Nodup := by
    rw [Member.map_node_symbols]
    exact (nodup_visit mem).sublist (Member.visit_sublist declarationCollector.below_everything member)
  obtain rfl := List.inj_on_of_nodup_map nodup otherMem symbolMem same
  exact absurd (apart slot hasSlot) (ne_of_gt taken)

theorem forall_isDeclared_iff (binder : visitor.IsBinder)
    (mem : member ∈ program.members) (fits : member.Fits) :
    (∀ node ∈ member.visit visitor, program.IsDeclared node) ↔ member.visit visitor = member.visit visitor.confined := by
  rw [← Member.visit_subset_iff binder (nodup_visit mem)]
  constructor
  · intro declared node visited
    obtain ⟨symbol,symbolMem,rfl,_⟩ := (isDeclared_iff mem visited).1 (declared node visited)
    exact Member.node_mem symbolMem
  · intro subset node visited
    obtain ⟨symbol,symbolMem,same⟩ := Member.exists_symbol (subset visited)
    exact ⟨member,mem,symbol,symbolMem,same,fun slot hasSlot => Member.count_slots fits symbolMem hasSlot⟩

theorem isComplete_iff (program : Program) : program.IsComplete ↔ program.IsPlain := by
  rw [isComplete_iff_declared,IsPlain]
  refine forall_congr' fun _ => ⟨?_,?_⟩
  · rintro ⟨typed,bound⟩
    have fits {member : Member} (mem : member ∈ program.members) := fits_of_isDeclared mem (typed member mem)
    constructor
    · intro member mem
      exact ⟨(forall_isDeclared_iff typeBinder_isBinder mem (fits mem)).1 (typed member mem),fits mem⟩
    · intro isTypeBound member mem
      exact (forall_isDeclared_iff expressionBinder_isBinder mem (fits mem)).1 (bound isTypeBound member mem)
  · rintro ⟨typed,bound⟩
    constructor
    · intro member mem
      exact (forall_isDeclared_iff typeBinder_isBinder mem (typed member mem).2).2 (typed member mem).1
    · intro isTypeBound member mem
      exact (forall_isDeclared_iff expressionBinder_isBinder mem (typed member mem).2).2 (bound isTypeBound member mem)

def accessorProgram : Program where
  members := [.property (.leaf .null)
    (.cons (.variableStatement 0 true (.leaf .literalExpression))
      (.cons (.returnStatement true (.memberAccessExpression (.leaf .null))) .empty))
    .empty]
  distinct := by decide
  isCollected := true
  isTypeBound := true

theorem accessorProgram_throws : ¬ accessorProgram.IsComplete := fun complete => Bool.noConfusion complete.1

end Program

end ShardScript.Declarations
