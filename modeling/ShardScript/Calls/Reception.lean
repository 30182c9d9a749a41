import ShardScript.Calls.TypeArguments

/-! Which frames receive the type arguments that are denoted for them. -/
namespace ShardScript.Calls
open VirtualMachine

section Loads

variable (index : Nat)

def front (pending : TypeArguments) : TypeArguments :=
  pending.take index ++ List.replicate (index - pending.length) none

theorem length_front (pending : TypeArguments) : (front index pending).length = index := by
  rw [front,List.length_append,List.length_take,List.length_replicate]
  omega

theorem loadTypeArgument_pending (type : TypeSymbol) (machine : VirtualMachine) :
    (machine.loadTypeArgument index type).pendingTypeArguments =
      front index machine.pendingTypeArguments ++ some type :: machine.pendingTypeArguments.drop (index + 1) := by
  have inside : index < (machine.pendingTypeArguments ++
      List.replicate (index + 1 - machine.pendingTypeArguments.length) (none : Option TypeSymbol)).length := by
    rw [List.length_append,List.length_replicate]
    omega
  rw [loadTypeArgument,List.set_eq_take_append_cons_drop,if_pos inside,front,List.take_append,List.drop_append,
    List.take_replicate,List.drop_replicate]
  have count : min (index - machine.pendingTypeArguments.length) (index + 1 - machine.pendingTypeArguments.length) =
      index - machine.pendingTypeArguments.length := by omega
  rw [count,Nat.sub_self,List.replicate_zero,List.append_nil]

theorem loadTypeArguments_callStack (types : List TypeSymbol) (machine : VirtualMachine) :
    (loadTypeArguments index types machine).callStack = machine.callStack := by
  induction types generalizing index machine with
  | nil => rfl
  | cons type types ih => exact ih _ _

theorem front_loaded (type : Option TypeSymbol) (pending behind : TypeArguments) :
    front (index + 1) (front index pending ++ type :: behind) = front index pending ++ [type] := by
  have long : index + 1 - (front index pending ++ type :: behind).length = 0 := by
    rw [List.length_append,length_front,List.length_cons]
    omega
  rw [front.eq_1 (index + 1),long,List.replicate_zero,List.append_nil,List.take_append,length_front,
    List.take_of_length_le (by rw [length_front]; omega),Nat.add_sub_cancel_left]
  rfl

theorem drop_loaded (index count : Nat) (type : Option TypeSymbol) (pending : TypeArguments) :
    (front index pending ++ type :: pending.drop (index + 1)).drop (index + 1 + count) = pending.drop (index + 1 + count) := by
  have count_eq : index + 1 + count - index = count + 1 := by omega
  rw [List.drop_append,length_front,List.drop_eq_nil_of_le (by rw [length_front]; omega),List.nil_append,count_eq,
    List.drop_succ_cons,List.drop_drop]

theorem loadTypeArguments_pending {types : List TypeSymbol} (some : types ≠ []) (machine : VirtualMachine) :
    (loadTypeArguments index types machine).pendingTypeArguments =
      front index machine.pendingTypeArguments ++ types.map .some ++
        machine.pendingTypeArguments.drop (index + types.length) := by
  induction types generalizing index machine with
  | nil => exact absurd rfl some
  | cons type types ih =>
    rw [loadTypeArguments]
    by_cases last : types = []
    · subst last
      rw [loadTypeArguments,loadTypeArgument_pending,List.append_assoc]
      rfl
    · rw [ih (index + 1) last,loadTypeArgument_pending,front_loaded,drop_loaded,List.length_cons,Nat.add_right_comm,
        Nat.add_assoc,List.map_cons,List.append_assoc (front _ _),List.singleton_append]

theorem loadTypeArguments_append (first second : List TypeSymbol) (machine : VirtualMachine) :
    loadTypeArguments index (first ++ second) machine =
      loadTypeArguments (index + first.length) second (loadTypeArguments index first machine) := by
  induction first generalizing index machine with
  | nil => rfl
  | cons type first ih =>
    rw [List.cons_append,loadTypeArguments,loadTypeArguments,ih,List.length_cons,Nat.add_right_comm,Nat.add_assoc]

variable (invocation : Invocation) (machine : VirtualMachine)

theorem load_eq : invocation.load machine =
    loadTypeArguments invocation.hidden.length invocation.loaded machine := by
  unfold Invocation.load Invocation.loaded Invocation.hidden
  split
  · rfl
  · split
    · rw [loadTypeArguments_append,List.length_nil,Nat.zero_add]
    · rfl

end Loads

section Frames

variable (call : Call) (machine : VirtualMachine)

theorem typeArguments_adopt (arguments : List TypeSymbol) {known : TypeArguments}
    (frame : machine.typeArguments = some known) : (machine.adoptTypeArguments arguments).typeArguments =
      some (if known = [] then arguments.map some else known) := by
  obtain ⟨callStack,pending,pushed⟩ := machine
  cases callStack with
  | nil => cases frame
  | cons top frames =>
    cases frame
    by_cases none : top.typeArguments = []
    · rw [if_pos none]
      simp only [adoptTypeArguments,none,if_true]
      rfl
    · rw [if_neg none]
      simp only [adoptTypeArguments,none,if_false]
      rfl

theorem entered_invokeMethod {call : Call} (entry : call.entry = .invokeMethod) :
    (entered call machine).typeArguments = some (if machine.pendingTypeArguments = [] then
      call.thisGenericArguments.map some else machine.pendingTypeArguments) := by
  rw [entered,entry]
  exact typeArguments_adopt _ _ rfl

theorem entered_instantiateObject {call : Call} {type : TypeSymbol} (entry : call.entry = .instantiateObject type)
    (none : call.thisGenericArguments = []) :
    (entered call machine).typeArguments = some (if machine.pendingTypeArguments = [] then
      ((tryResolveGenericArguments machine.resolver (machine.rangeOfTypeArguments + 1) type).getD []).map some
      else machine.pendingTypeArguments.map (Option.map (resolveRuntimeTypeArgument machine.resolver))) := by
  rw [entered,entry,none,typeArguments_adopt _ _ (typeArguments_adopt _ _ rfl),List.map_nil,ite_eq_right_iff.2 Eq.symm]
  simp only [resolvePendingTypeArguments,List.map_eq_nil_iff]

theorem invoke_completed (run : VirtualMachine → VirtualMachine) :
    (invoke call none (fun machine => (.completed,run machine)) machine).2 = (run (entered call machine)).popFrame := by
  obtain ⟨entry,method,arguments⟩ := call
  cases entry with
  | invokeMethod | instantiateObject | tryInvokeMethod => rfl

end Frames

section Runs

theorem leaves_nil (expression : Expression) : expression.leaves [] = [] := ite_self _

theorem run_keeps (expression : Expression) (machine : VirtualMachine) :
    (expression.run machine).callStack = machine.callStack ∧
      (expression.run machine).pendingTypeArguments = expression.leaves machine.pendingTypeArguments := by
  have inner : ∀ (call : Call) (body : Expression) (prepared : VirtualMachine),
      ((body.run (entered call prepared)).callStack = (entered call prepared).callStack ∧
        (body.run (entered call prepared)).pendingTypeArguments = body.leaves (entered call prepared).pendingTypeArguments) →
      (invoke call none (fun machine => (.completed,body.run machine)) prepared).2.callStack = prepared.callStack ∧
        (invoke call none (fun machine => (.completed,body.run machine)) prepared).2.pendingTypeArguments = [] := by
    intro call body prepared known
    rw [invoke_completed]
    refine ⟨?_,?_⟩
    · rw [popFrame,known.1,entered_tail]
    · rw [popFrame,known.2,entered_pending,leaves_nil]
  induction expression generalizing machine with
  | operand => exact ⟨rfl,rfl⟩
  | both first second ihFirst ihSecond =>
    obtain ⟨stack,pending⟩ := ihFirst machine
    obtain ⟨stack',pending'⟩ := ihSecond (first.run machine)
    refine ⟨stack'.trans stack,?_⟩
    rw [Expression.run,pending',pending,Expression.leaves,Expression.leaves,Expression.leaves,Expression.pushes]
    cases first.pushes
    · rfl
    · exact ite_self _
  | invocationExpression invocation argumentsList previousExpression body ihArguments ihPrevious ihBody =>
    obtain ⟨stack,pending⟩ := inner invocation.call body
      (invocation.load (previousExpression.run (argumentsList.run machine))) (ihBody _)
    refine ⟨?_,pending⟩
    rw [Expression.run,stack,load_eq,loadTypeArguments_callStack,(ihPrevious _).1,(ihArguments _).1]
  | objectExpression creation argumentsList body ihArguments ihBody =>
    obtain ⟨stack,pending⟩ := inner
      (creation.call (argumentsList.run (loadTypeArguments 0 creation.loaded machine))) body
      (argumentsList.run (loadTypeArguments 0 creation.loaded machine)) (ihBody _)
    refine ⟨?_,pending⟩
    rw [Expression.run,stack,(ihArguments _).1,loadTypeArguments_callStack]

theorem typeArguments_of_callStack {machine after : VirtualMachine} (stack : after.callStack = machine.callStack) :
    after.typeArguments = machine.typeArguments := by
  rw [typeArguments,currentFrame,stack]
  rfl

end Runs

section Reception

variable {instantiation : List TypeSymbol}

theorem resolver_eq {machine : VirtualMachine} (frame : machine.typeArguments = some (instantiation.map some)) :
    machine.resolver = resolverOf instantiation := by
  funext index
  obtain ⟨top,known,given⟩ := Option.map_eq_some_iff.1 frame
  rw [resolver,known,Option.bind_some,CallStackFrame.resolveParameter,given,List.length_map,resolverOf]
  by_cases inside : index < instantiation.length
  · rw [if_pos inside,List.getD_eq_getElem _ _ inside,List.getD_eq_getElem _ _ (by simpa using inside),List.getElem_map]
  · rw [if_neg inside,List.getD_eq_default _ _ (by omega)]

theorem map_some_inj {first second : List TypeSymbol} : first.map some = second.map some ↔ first = second :=
  (List.map_injective_iff.2 fun _ _ => Option.some.inj).eq_iff

variable {types : List TypeSymbol} {pending : TypeArguments}

theorem front_eq_iff {index : Nat} (length : types.length = index) :
    front index pending = types.map some ↔ pending.take index = types.map some := by
  by_cases long : index ≤ pending.length
  · rw [front,Nat.sub_eq_zero_of_le long,List.replicate_zero,List.append_nil]
  · constructor
    · intro same
      have member : (none : Option TypeSymbol) ∈ types.map some := by
        rw [← same,front,List.mem_append,List.mem_replicate]
        exact .inr ⟨by omega,rfl⟩
      simp at member
    · intro same
      have count := congrArg List.length same
      rw [List.length_take,List.length_map] at count
      omega

theorem loaded_eq_iff {index : Nat} :
    types.map some ++ pending.drop (index + types.length) = (denoteAll instantiation types).map some ↔
      types = denoteAll instantiation types ∧ pending.length ≤ index + types.length := by
  rw [← List.drop_eq_nil_iff,← map_some_inj]
  constructor
  · intro same
    rw [← List.append_nil ((denoteAll instantiation types).map some)] at same
    exact List.append_inj same (by simp)
  · intro known
    rw [known.2,List.append_nil]
    exact known.1

theorem denoted_eq {invocation : Invocation} (loads : invocation.loaded ≠ []) : invocation.denoted instantiation =
    denoteAll instantiation invocation.hidden ++ denoteAll instantiation invocation.loaded := by
  unfold Invocation.loaded at loads
  unfold Invocation.denoted Invocation.hidden Invocation.loaded
  split
  · rename_i member
    rw [if_pos member] at loads
    exact absurd rfl loads
  · split
    · rfl
    · rw [denoteAll_append]

theorem invocation_served_iff (concrete : areConcrete instantiation = true) (invocation : Invocation)
    (inside : invocation.isScoped instantiation.length = true) (machine : VirtualMachine) :
    (entered invocation.call (invocation.load machine)).typeArguments = some ((invocation.denoted instantiation).map some) ↔
      invocation.IsServed instantiation machine.pendingTypeArguments := by
  rw [entered_invokeMethod _ rfl,Option.some.injEq,load_eq]
  unfold Invocation.IsServed
  by_cases nothing : invocation.loaded = []
  · rw [if_pos nothing,nothing,loadTypeArguments]
    by_cases none : machine.pendingTypeArguments = []
    · rw [if_pos none]
      simp only [none,true_and,ne_eq,not_true_eq_false,false_and,or_false]
      exact map_some_inj
    · rw [if_neg none]
      simp only [none,false_and,ne_eq,not_false_eq_true,true_and,false_or]
  · rw [if_neg nothing,loadTypeArguments_pending _ nothing,if_neg (by simp [nothing])]
    simp only [Invocation.isScoped,Bool.and_eq_true] at inside
    rw [denoted_eq nothing,List.map_append,List.append_assoc,areConcrete_iff_denoteAll concrete inside.1.2]
    have length := length_denoteAll instantiation invocation.hidden
    constructor
    · intro same
      obtain ⟨before,loaded⟩ := List.append_inj same (by rw [length_front,List.length_map,length])
      obtain ⟨loaded,none⟩ := loaded_eq_iff.1 loaded
      exact ⟨loaded,none,(front_eq_iff length).1 before⟩
    · intro served
      rw [(front_eq_iff length).2 served.2.2]
      exact congrArg _ (loaded_eq_iff.2 ⟨served.1,served.2.1⟩)

theorem map_resolve_eq_iff (concrete : areConcrete instantiation = true)
    (inside : areScoped instantiation.length types = true) :
    types.map (resolveRuntimeTypeArgument (resolverOf instantiation)) = denoteAll instantiation types ↔
      types.all isShallow = true := by
  rw [denoteAll_eq_map,List.map_inj_left,List.all_eq_true]
  exact forall₂_congr fun type member =>
    resolveRuntimeTypeArgument_eq_iff concrete ((areScoped_iff _ _).1 inside type member)

theorem fallback_eq_iff (concrete : areConcrete instantiation = true) (creation : Creation)
    (inside : isScoped instantiation.length creation.symbol = true) {prepared : VirtualMachine}
    (frame : prepared.typeArguments = some (instantiation.map some)) :
    (tryResolveGenericArguments prepared.resolver (prepared.rangeOfTypeArguments + 1)
      ((prepared.currentFrame.bind fun frame => frame.resolveType creation.symbol).getD creation.symbol)).getD [] =
        creation.denoted instantiation ↔ creation.loaded.all isShallow = true := by
  rw [resolver_eq frame]
  obtain ⟨top,known,given⟩ := Option.map_eq_some_iff.1 frame
  rw [known,Option.bind_some]
  obtain ⟨symbol,ctor⟩ := creation
  cases symbol with
  | named | array => exact ⟨fun _ => rfl,fun _ => rfl⟩
  | generic underlayingType arguments => exact map_resolve_eq_iff concrete inside
  | typeParameter index =>
    rw [isScoped,decide_eq_true_iff] at inside
    refine ⟨fun _ => rfl,fun _ => ?_⟩
    have resolved : (top.resolveType (.typeParameter index)).getD (.typeParameter index) = instantiation[index] := by
      rw [CallStackFrame.resolveType,CallStackFrame.resolveParameter,given,List.length_map,if_pos inside,
        List.getD_eq_getElem _ _ (by simpa using inside),List.getElem_map,Option.getD_some]
    have member := (areConcrete_iff instantiation).1 concrete _ (List.getElem_mem inside)
    rw [resolved,Creation.denoted,denote,List.getD_eq_getElem _ _ inside]
    generalize instantiation[index] = type at member
    cases type with
    | named | array => rfl
    | typeParameter => cases member
    | generic underlayingType arguments =>
      rw [isConcrete,areConcrete_iff] at member
      exact (List.map_congr_left fun type known => resolve_of_isConcrete _ (member type known)).trans (List.map_id _)

theorem creation_served_iff (concrete : areConcrete instantiation = true) (creation : Creation)
    (inside : isScoped instantiation.length creation.symbol = true) {prepared : VirtualMachine}
    (frame : prepared.typeArguments = some (instantiation.map some)) (taken : Bool)
    (left : prepared.pendingTypeArguments =
      if taken then [] else creation.loaded.map some ++ pending.drop creation.loaded.length) :
    (entered (creation.call prepared) prepared).typeArguments = some ((creation.denoted instantiation).map some) ↔
      creation.IsServed instantiation pending taken := by
  have fallback := fallback_eq_iff concrete creation inside frame
  rw [← map_some_inj] at fallback
  rw [entered_instantiateObject prepared rfl rfl,Option.some.injEq]
  unfold Creation.IsServed
  cases taken with
  | true =>
    rw [left,if_pos rfl,if_pos rfl,if_neg (by simp)]
    simpa using fallback
  | false =>
    rw [if_neg Bool.false_ne_true] at left
    by_cases nothing : creation.loaded = []
    · rw [nothing,List.map_nil,List.nil_append,List.length_nil,List.drop_zero] at left
      rw [left]
      by_cases none : pending = []
      · rw [if_pos none,if_pos ⟨rfl,nothing⟩]
        exact ⟨fun _ => .inl none,fun _ => fallback.2 (by simp [nothing])⟩
      · rw [if_neg none,if_pos ⟨rfl,nothing⟩,resolver_eq frame]
        simp only [none,false_or,ne_eq,not_false_eq_true,true_and]
    · rw [left,if_neg (by simp [nothing]),if_neg (by simp [nothing]),resolver_eq frame]
      obtain ⟨symbol,ctor⟩ := creation
      cases symbol with
      | named | array | typeParameter => exact absurd rfl nothing
      | generic underlayingType arguments =>
        change List.map _ (arguments.map some ++ pending.drop arguments.length) =
          (denoteAll instantiation arguments).map some ↔ arguments.all isShallow = true ∧
            (false = true ∨ pending.length ≤ arguments.length)
        have resolved : (arguments.map some).map (Option.map (resolveRuntimeTypeArgument (resolverOf instantiation))) =
            (arguments.map (resolveRuntimeTypeArgument (resolverOf instantiation))).map some := by
          rw [List.map_map,List.map_map]
          rfl
        rw [List.map_append,resolved,← map_resolve_eq_iff concrete inside,← List.drop_eq_nil_iff]
        simp only [Bool.false_eq_true,false_or]
        constructor
        · intro same
          rw [← List.append_nil ((denoteAll instantiation arguments).map some)] at same
          obtain ⟨same,none⟩ := List.append_inj same (by simp)
          exact ⟨map_some_inj.1 same,List.map_eq_nil_iff.1 none⟩
        · intro known
          rw [known.1,known.2,List.map_nil,List.append_nil]

theorem areConcrete_denoted (concrete : areConcrete instantiation = true) {invocation : Invocation}
    (inside : invocation.isScoped instantiation.length = true) :
    areConcrete (invocation.denoted instantiation) = true := by
  simp only [Invocation.isScoped,Bool.and_eq_true] at inside
  obtain ⟨⟨⟨own,hidden⟩,loaded⟩,bound⟩ := inside
  obtain ⟨symbol,isInterfaceMember,owner,boundTypeArguments,thisGenericArguments⟩ := invocation
  cases isInterfaceMember with
  | true =>
    show areConcrete (thisGenericArguments ++ denoteAll instantiation boundTypeArguments) = true
    rw [areConcrete_append,own,areConcrete_denoteAll concrete bound]
    rfl
  | false =>
    cases owner with
    | receiver arguments => exact areConcrete_denoteAll concrete loaded
    | implied arguments =>
      show areConcrete (denoteAll instantiation (arguments ++ boundTypeArguments)) = true
      have known : areConcrete (denoteAll instantiation arguments) = true := areConcrete_denoteAll concrete hidden
      rw [denoteAll_append,areConcrete_append,known,areConcrete_denoteAll concrete bound]
      rfl

theorem areConcrete_created (concrete : areConcrete instantiation = true) {creation : Creation}
    (inside : isScoped instantiation.length creation.symbol = true) :
    areConcrete (creation.denoted instantiation) = true := by
  have known := isConcrete_denote concrete inside
  unfold Creation.denoted
  split
  · rename_i same
    rw [same] at known
    exact known
  · rfl

theorem loaded_pending (types : List TypeSymbol) (machine : VirtualMachine) :
    (loadTypeArguments 0 types machine).pendingTypeArguments =
      types.map some ++ machine.pendingTypeArguments.drop types.length := by
  by_cases nothing : types = []
  · subst nothing
    rfl
  · rw [loadTypeArguments_pending 0 nothing,front,List.take_zero,Nat.zero_sub,List.replicate_zero,List.append_nil,
      List.nil_append,Nat.zero_add]

theorem receives_iff (expression : Expression) (concrete : areConcrete instantiation = true)
    (inside : expression.isScoped instantiation = true) {machine : VirtualMachine}
    (frame : machine.typeArguments = some (instantiation.map some)) :
    expression.Receives instantiation machine ↔ expression.IsServed instantiation machine.pendingTypeArguments := by
  induction expression generalizing instantiation machine with
  | operand => exact Iff.rfl
  | both first second ihFirst ihSecond =>
    rw [Expression.isScoped,Bool.and_eq_true] at inside
    obtain ⟨stack,pending⟩ := run_keeps first machine
    rw [Expression.Receives,Expression.IsServed,ihFirst concrete inside.1 frame,
      ihSecond concrete inside.2 ((typeArguments_of_callStack stack).trans frame),pending]
  | invocationExpression invocation argumentsList previousExpression body ihArguments ihPrevious ihBody =>
    simp only [Expression.isScoped,Bool.and_eq_true] at inside
    obtain ⟨⟨insideArguments,insidePrevious⟩,insideInvocation,insideBody⟩ := inside
    obtain ⟨stack,pending⟩ := run_keeps argumentsList machine
    obtain ⟨stack',pending'⟩ := run_keeps previousExpression (argumentsList.run machine)
    have between := (typeArguments_of_callStack stack).trans frame
    simp only [Expression.Receives,Expression.IsServed]
    rw [ihArguments concrete insideArguments frame,ihPrevious concrete insidePrevious between,pending,
      invocation_served_iff concrete invocation insideInvocation,pending',pending]
    refine and_congr_right fun _ => and_congr_right fun _ => and_congr_right fun served => ?_
    rw [ihBody (areConcrete_denoted concrete insideInvocation) insideBody
      ((invocation_served_iff concrete invocation insideInvocation _).2 (by rw [pending',pending]; exact served)),
      entered_pending]
  | objectExpression creation argumentsList body ihArguments ihBody =>
    simp only [Expression.isScoped,Bool.and_eq_true] at inside
    obtain ⟨insideArguments,insideCreation,insideBody⟩ := inside
    have loaded : (loadTypeArguments 0 creation.loaded machine).typeArguments = some (instantiation.map some) :=
      (typeArguments_of_callStack (loadTypeArguments_callStack _ _ _)).trans frame
    obtain ⟨stack,pending⟩ := run_keeps argumentsList (loadTypeArguments 0 creation.loaded machine)
    rw [loaded_pending] at pending
    have served := creation_served_iff concrete creation insideCreation ((typeArguments_of_callStack stack).trans loaded)
      argumentsList.pushes pending
    simp only [Expression.Receives,Expression.IsServed]
    rw [ihArguments concrete insideArguments loaded,loaded_pending,served]
    refine and_congr_right fun _ => and_congr_right fun known => ?_
    rw [ihBody (areConcrete_created concrete insideCreation) insideBody (served.2 known),entered_pending]

/-- In an expression that begins with nothing pending, every frame receives exactly the types that the static type
arguments denote for the caller if and only if every invocation is served. -/
theorem typeArguments_received (expression : Expression) (concrete : areConcrete instantiation = true)
    (inside : expression.isScoped instantiation = true) {machine : VirtualMachine}
    (frame : machine.typeArguments = some (instantiation.map some)) (none : machine.pendingTypeArguments = []) :
    expression.Receives instantiation machine ↔ expression.IsServed instantiation [] := by
  rw [receives_iff expression concrete inside frame,none]

def genericCall : Expression :=
  .invocationExpression ⟨⟨"F",false⟩,false,.implied [],[.named "Integer"],[]⟩
    (.objectExpression ⟨.generic "List" [.typeParameter 0],⟨"List",false⟩⟩ .operand .operand) .operand .operand

def genericCaller : VirtualMachine := ⟨[⟨0,⟨"Caller",false⟩,[some (.named "String")]⟩],[],1⟩

theorem typeArguments_received_genericCall : genericCall.Receives [.named "String"] genericCaller := by
  refine (typeArguments_received genericCall rfl rfl rfl rfl).2 ?_
  refine ⟨⟨trivial,⟨rfl,.inr (by decide)⟩,trivial⟩,trivial,?_,trivial⟩
  exact ⟨rfl,by decide,rfl⟩

def clobberedCall : Expression :=
  .objectExpression ⟨.generic "List" [.named "Integer"],⟨"List",false⟩⟩
    (.invocationExpression ⟨⟨"F",false⟩,false,.implied [],[],[]⟩ .operand .operand .operand) .operand

/-- The call in the argument receives the type argument of the list. -/
theorem clobberedCall_received : clobberedCall.isScoped [.named "String"] = true ∧
    ¬ clobberedCall.Receives [.named "String"] genericCaller := by
  refine ⟨rfl,fun receives => ?_⟩
  cases receives.1.2.2.1

end Reception

end ShardScript.Calls
