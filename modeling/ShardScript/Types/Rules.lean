import ShardScript.Types.Termination

/-! The rules by which `IsAssignableTo` lets a type take the values of another one. -/
namespace ShardScript.Types

open Library (Verdict)

variable {table : SymbolTable} {fuel : Nat}

section Equality

variable {left middle right type : TypeSymbol}

theorem Equals.symm (equal : Equals table left right) : Equals table right left :=
  equal.imp fun _ same => areTypesEqual_symm same

theorem Equals.trans (first : Equals table left middle) (second : Equals table middle right) : Equals table left right := by
  obtain ⟨fuel,first⟩ := first
  obtain ⟨fuel',second⟩ := second
  refine ⟨max fuel fuel',areTypesEqual_trans (areTypesEqual_extends (Nat.le_max_left ..) true first) ?_⟩
  exact areTypesEqual_extends (Nat.le_max_right ..) true second

theorem Complete.refl (complete : Complete table type) : Equals table type type := complete.equals rfl

theorem Equals.left_ne_null (equal : Equals table left right) : left ≠ .null := equal.symm.complete.ne_null

theorem Equals.right_ne_null (equal : Equals table left right) : right ≠ .null := equal.complete.ne_null

theorem Equals.parts (equal : Equals table left right) :
    head table left = head table right ∧ List.Forall₂ (Equals table) (Types.parts table left) (Types.parts table right) := by
  obtain ⟨_ | fuel,same⟩ := equal
  · cases same
  · obtain ⟨-,alike,equal⟩ := areTypesEqual_succ.mp same
    exact ⟨alike,equal.imp fun _ _ same => ⟨fuel,same⟩⟩

variable {number : Nat}

theorem eq_of_equals_declared (other : table.isDelegate (.declared number) = false)
    (equal : Equals table (.declared number) type) : type = .declared number := by
  have alike := equal.parts.1
  simp only [head,other] at alike
  cases type with
  | declared number' =>
      by_cases delegate : table.isDelegate (.declared number') = true
      · simp [delegate] at alike
      · simpa [head,delegate,eq_comm] using alike
  | _ => simp at alike

theorem eq_of_equals_typeParameter {parent : Parent} {index : Nat} (equal : Equals table (.typeParameter parent index) type) :
    type = .typeParameter parent index := head_eq_typeParameter equal.parts.1.symm

theorem equals_array {address length : Nat} {element : TypeSymbol} (equal : Equals table (.array address element length) type) :
    ∃ address' element' length',type = .array address' element' length' ∧ Equals table element element' := by
  obtain ⟨alike,same⟩ := equal.parts
  obtain ⟨address',element',length',rfl⟩ := head_eq_array alike.symm
  exact ⟨address',element',length',rfl,(List.forall₂_cons.mp same).1⟩

theorem forall₂_padded {relation : TypeSymbol → TypeSymbol → Prop} {types types' : List TypeSymbol} {size : Nat} :
    List.Forall₂ relation (padded types size) (padded types' size) ↔
      ∀ index < size,relation (types.getD index .null) (types'.getD index .null) := by
  rw [padded,padded,List.forall₂_map_left_iff,List.forall₂_map_right_iff,List.forall₂_same]
  exact forall_congr' fun index => by rw [List.mem_range]

theorem equals_generic {address underlayingType : Nat} {typeArguments : List TypeSymbol}
    (equal : Equals table (.generic address underlayingType typeArguments) type) :
    ∃ address' underlayingType' typeArguments',type = .generic address' underlayingType' typeArguments' ∧
      Equals table (.declared underlayingType) (.declared underlayingType') ∧
      ∀ index < table.arity underlayingType,Equals table (typeArguments.getD index .null) (typeArguments'.getD index .null) := by
  obtain ⟨alike,same⟩ := equal.parts
  obtain ⟨address',underlayingType',typeArguments',rfl,size⟩ := head_eq_constructed alike.symm
  obtain ⟨underlaying,same⟩ := List.forall₂_cons.mp same
  rw [← size,forall₂_padded] at same
  exact ⟨address',underlayingType',typeArguments',rfl,underlaying,same⟩

theorem equals_delegate (delegate : table.isDelegate (.declared number) = true)
    (equal : Equals table (.declared number) type) :
    ∃ number',type = .declared number' ∧ table.isDelegate (.declared number') = true ∧
      Equals table (table.declaration number).returnType (table.declaration number').returnType ∧
      List.Forall₂ (Equals table) (table.declaration number).parameters (table.declaration number').parameters := by
  obtain ⟨alike,same⟩ := equal.parts
  rw [parts_of_delegate delegate] at same
  cases type with
  | declared number' =>
      by_cases delegate' : table.isDelegate (.declared number') = true
      · rw [parts_of_delegate delegate'] at same
        exact ⟨number',rfl,delegate',List.forall₂_cons.mp same⟩
      · simp [head,delegate,delegate'] at alike
  | _ => simp [head,delegate] at alike

theorem isDelegate_eq_false (other : (table.declaration number).kind ≠ .delegateType) :
    table.isDelegate (.declared number) = false := by
  simpa [SymbolTable.isDelegate] using other

theorem isDelegate_iff : table.isDelegate (.declared number) = true ↔
    (table.declaration number).kind = .delegateType := by
  simp [SymbolTable.isDelegate]

end Equality

section Interfaces

variable {iface : TypeSymbol}

theorem Implements.ne_nil {number : Nat} (implements : Implements table number iface) :
    (table.declaration number).interfaces ≠ [] := by
  intro none
  have start : interfacesOf table (.declared number) = [] := none
  rw [Implements,start] at implements
  exact not_reaches_nil implements

theorem Implements.trans {number middle : Nat} (first : Implements table number (.declared middle))
    (second : Implements table middle iface) : Implements table number iface :=
  second.of_mem fun _ member present => .step first member present

theorem Implements.present {number : Nat} (implements : Implements table number iface) :
    ∃ declaration ∈ table.declarations,iface ∈ declaration.interfaces := by
  cases implements with
  | start member => exact exists_declaration member
  | step _ member => exact exists_declaration member

/-- The declaration whose interfaces make a value assignable to an interface without type arguments. -/
def declarationOf (table : SymbolTable) : TypeSymbol → Option Nat
  | .declared number => some number
  | .array _ _ _ => some table.array
  | _ => none

/-- The declaration whose interfaces make a value assignable to a constructed interface. -/
def baseOf (table : SymbolTable) : TypeSymbol → Option Nat
  | .generic _ underlayingType _ => some underlayingType
  | type => declarationOf table type

end Interfaces

section Rules

structure SameSignature (table : SymbolTable) (change : TypeSymbol → TypeSymbol) (target source : TypeDeclaration) : Prop where
  returnType : Equals table (change target.returnType) source.returnType
  parameters : List.Forall₂ (fun parameter parameter' => Equals table (change parameter) parameter') target.parameters
    source.parameters

inductive Takes (table : SymbolTable) : TypeSymbol → TypeSymbol → Prop where
  | equal {target source : TypeSymbol} : Equals table target source → Takes table target source
  | any {source : TypeSymbol} : source ≠ .null → Takes table (.declared table.any) source
  | null {target : TypeSymbol} : target ≠ .null → inlining table target = .byReference →
      Takes table target (.declared table.null)
  | iface {source : TypeSymbol} {number base : Nat} : (table.declaration number).kind = .interfaceDeclaration →
      declarationOf table source = some base → Implements table base (.declared number) → Takes table (.declared number) source
  | constructed {source : TypeSymbol} {address address' underlaying base : Nat}
      {targetArguments typeArguments : List TypeSymbol} : (table.declaration underlaying).kind = .interfaceDeclaration →
      baseOf table source = some base → Implements table base (.generic address' underlaying typeArguments) →
      (∀ index < table.arity underlaying,Equals table (targetArguments.getD index .null)
        (sourceArgument source (typeArguments.getD index .null))) →
      Takes table (.generic address underlaying targetArguments) source
  | element {element : TypeSymbol} {address address' length : Nat} {targetArguments : List TypeSymbol} :
      (table.declaration table.iEnumerable).kind = .interfaceDeclaration → table.arity table.iEnumerable = 1 →
      Equals table (targetArguments.getD 0 .null) element →
      Takes table (.generic address table.iEnumerable targetArguments) (.array address' element length)
  | delegate {address underlaying number : Nat} {targetArguments : List TypeSymbol} :
      table.isDelegate (.declared underlaying) = true → table.isDelegate (.declared number) = true →
      SameSignature table (delegateArgument (.generic address underlaying targetArguments)) (table.declaration underlaying)
        (table.declaration number) → Takes table (.generic address underlaying targetArguments) (.declared number)

def Assignable (table : SymbolTable) (target source : TypeSymbol) : Prop :=
  ∃ fuel,isAssignableTo table fuel target source = some true

theorem sameSignature_of_eq_true {change : TypeSymbol → TypeSymbol} {target source : TypeDeclaration}
    (same : sameSignature table fuel change target source = some true) : SameSignature table change target source := by
  rw [sameSignature] at same
  split at same
  · cases same
  · rw [Verdict.both_eq_true] at same
    obtain ⟨returnType,parameters⟩ := same
    split at parameters
    · next size =>
        refine ⟨⟨fuel,returnType⟩,List.forall₂_iff_zip.mpr ⟨size,fun member => ?_⟩⟩
        exact ⟨fuel,Verdict.every_eq_true.mp parameters _ member⟩
    · cases parameters

variable {targetArguments : List TypeSymbol}

theorem of_matchesInterface {underlaying : Nat} {source iface : TypeSymbol}
    (matched : matchesInterface table fuel underlaying targetArguments source iface = some true) :
    ∃ address typeArguments,iface = .generic address underlaying typeArguments ∧ ∀ index < table.arity underlaying,
      Equals table (targetArguments.getD index .null) (sourceArgument source (typeArguments.getD index .null)) := by
  cases iface with
  | generic address underlayingType typeArguments =>
      rw [matchesInterface] at matched
      split at matched
      · next same =>
          subst same
          refine ⟨address,typeArguments,rfl,fun index inside => ⟨fuel,?_⟩⟩
          apply Verdict.every_eq_true.mp matched (targetArguments.getD index .null,typeArguments.getD index .null)
          exact List.mem_map.mpr ⟨index,List.mem_range.mpr inside,rfl⟩
      · cases matched
  | _ => cases matched

theorem takes_of_constructed {source : TypeSymbol} {address underlaying : Nat}
    (implemented : isConstructedInterfaceImplemented table fuel underlaying targetArguments source = some true) :
    Takes table (.generic address underlaying targetArguments) source := by
  unfold isConstructedInterfaceImplemented at implemented
  split at implemented
  · next kind =>
      have check {type : TypeSymbol} (within : ∀ number,type = .declared number → baseOf table source = some number)
          (found : anyInterface table fuel type (matchesInterface table fuel underlaying targetArguments source) = some true) :
          Takes table (.generic address underlaying targetArguments) source := by
        obtain ⟨number,iface,rfl,implements,matched⟩ := exists_of_anyInterface found
        obtain ⟨address',typeArguments,rfl,equal⟩ := of_matchesInterface matched
        exact .constructed kind (within number rfl) implements equal
      rcases Verdict.either_eq_true.mp implemented with found | ⟨-,implemented⟩
      · refine check (fun number same => ?_) found
        rw [same]
        rfl
      · cases source with
        | generic => exact check (fun number same => by cases same; rfl) implemented
        | array _ element _ =>
            rcases Verdict.either_eq_true.mp implemented with found | ⟨-,last⟩
            · exact check (fun number same => by cases same; rfl) found
            · split at last
              · next single =>
                  obtain ⟨rfl,single⟩ := single
                  exact .element kind single ⟨fuel,last⟩
              · cases last
        | _ => cases implemented
  · cases implemented

theorem takes_of_interface {target source : TypeSymbol} (implemented : isInterfaceImplemented table fuel target source = some true) :
    Takes table target source := by
  unfold isInterfaceImplemented at implemented
  split at implemented
  · next iface =>
      cases target with
      | declared number =>
          have kind : (table.declaration number).kind = .interfaceDeclaration := Option.some.inj iface
          have plain : table.isDelegate (.declared number) = false := isDelegate_eq_false (by rw [kind]; exact nofun)
          have check {type : TypeSymbol} (within : ∀ base,type = .declared base → declarationOf table source = some base)
              (found : anyInterface table fuel type (areTypesEqual table fuel (.declared number)) = some true) :
              Takes table (.declared number) source := by
            obtain ⟨base,iface,rfl,implements,same⟩ := exists_of_anyInterface found
            have equal : Equals table (.declared number) iface := ⟨fuel,same⟩
            rw [eq_of_equals_declared plain equal] at implements
            exact .iface kind (within base rfl) implements
          rcases Verdict.either_eq_true.mp implemented with found | ⟨-,implemented⟩
          · refine check (fun base same => ?_) found
            rw [same]
            rfl
          · cases source with
            | array => exact check (fun base same => by cases same; rfl) implemented
            | _ => cases implemented
      | _ => cases iface
  · cases implemented

theorem takes_of_delegate {target source : TypeSymbol} (assignable : isDelegateAssignable table fuel target source = some true) :
    Takes table target source := by
  cases target with
  | generic =>
      cases source with
      | declared =>
          rw [isDelegateAssignable] at assignable
          split at assignable
          · next both => exact .delegate both.1 both.2 (sameSignature_of_eq_true assignable)
          · cases assignable
      | _ => cases assignable
  | declared number =>
      cases source with
      | declared number' =>
          rw [isDelegateAssignable] at assignable
          split at assignable
          · next both =>
              rw [sameSignature] at assignable
              split at assignable
              · cases assignable
              · obtain ⟨returnType,parameters⟩ := Verdict.both_eq_true.mp assignable
                split at parameters
                · next size =>
                    refine .equal ⟨fuel + 1,areTypesEqual_succ.mpr ⟨?_,?_,?_⟩⟩
                    · simp [head,both.1]
                    · simp [head,both.1,both.2,size]
                    · rw [parts_of_delegate both.1,parts_of_delegate both.2]
                      refine .cons returnType (List.forall₂_iff_zip.mpr ⟨size,fun member => ?_⟩)
                      exact Verdict.every_eq_true.mp parameters _ member
                · cases parameters
          · cases assignable
      | _ => cases assignable
  | _ => cases assignable

theorem takes_of_isAssignableTo {target source : TypeSymbol} (assignable : isAssignableTo table fuel target source = some true) :
    Takes table target source := by
  unfold isAssignableTo at assignable
  split at assignable
  · cases assignable
  · next present =>
      rw [not_or] at present
      rcases Verdict.either_eq_true.mp assignable with equal | ⟨-,assignable⟩
      · exact .equal ⟨fuel,equal⟩
      · split at assignable
        · next any =>
            rw [any]
            exact .any present.2
        · split at assignable
          · next null =>
              rw [null]
              exact .null present.1 (by simpa using assignable)
          · rcases Verdict.either_eq_true.mp assignable with iface | ⟨-,assignable⟩
            · exact takes_of_interface iface
            · rcases Verdict.either_eq_true.mp assignable with constructed | ⟨-,delegate⟩
              · cases target with
                | generic => exact takes_of_constructed constructed
                | _ => cases constructed
              · exact takes_of_delegate delegate

end Rules

section Refusal

variable {target source : TypeSymbol}

theorem of_isAssignableTo_eq_false (refused : isAssignableTo table fuel target source = some false) (present : target ≠ .null)
    (present' : source ≠ .null) :
    areTypesEqual table fuel target source = some false ∧ target ≠ .declared table.any ∧
      (source = .declared table.null ∧ inlining table target ≠ .byReference ∨
        source ≠ .declared table.null ∧ isInterfaceImplemented table fuel target source = some false ∧
          (∀ address underlaying targetArguments,target = .generic address underlaying targetArguments →
            isConstructedInterfaceImplemented table fuel underlaying targetArguments source = some false) ∧
          isDelegateAssignable table fuel target source = some false) := by
  unfold isAssignableTo at refused
  rw [if_neg (not_or.mpr ⟨present,present'⟩)] at refused
  obtain ⟨equal,refused⟩ := Verdict.either_eq_false.mp refused
  split at refused
  · cases refused
  · next any =>
      refine ⟨equal,any,?_⟩
      split at refused
      · next null => exact .inl ⟨null,by simpa using refused⟩
      · next null =>
          obtain ⟨iface,refused⟩ := Verdict.either_eq_false.mp refused
          obtain ⟨constructed,delegate⟩ := Verdict.either_eq_false.mp refused
          refine .inr ⟨null,iface,fun address underlaying targetArguments same => ?_,delegate⟩
          subst same
          exact constructed

theorem declaration_any_interfaces : (table.declaration table.any).interfaces = [] := table.roots _ (by simp)

theorem declaration_null_interfaces : (table.declaration table.null).interfaces = [] := table.roots _ (by simp)

theorem declaration_iEnumerable_interfaces : (table.declaration table.iEnumerable).interfaces = [] := table.roots _ (by simp)

theorem isPrimitive_any : (table.declaration table.any).isPrimitive := table.primitives _ (by simp)

theorem isPrimitive_null : (table.declaration table.null).isPrimitive := table.primitives _ (by simp)

theorem ne_null_of_declarationOf {base : Nat} (found : declarationOf table source = some base) : source ≠ .null := by
  rintro rfl
  cases found

theorem ne_null_of_baseOf {base : Nat} (found : baseOf table source = some base) : source ≠ .null := by
  rintro rfl
  cases found

theorem Takes.present (takes : Takes table target source) : target ≠ .null ∧ source ≠ .null := by
  cases takes with
  | equal equal => exact ⟨equal.left_ne_null,equal.right_ne_null⟩
  | any present => exact ⟨nofun,present⟩
  | null present => exact ⟨present,nofun⟩
  | iface _ found => exact ⟨nofun,ne_null_of_declarationOf found⟩
  | constructed _ found => exact ⟨nofun,ne_null_of_baseOf found⟩
  | element => exact ⟨nofun,nofun⟩
  | delegate => exact ⟨nofun,nofun⟩

theorem ne_declared_null {base : Nat} {iface : TypeSymbol} (found : baseOf table source = some base)
    (implements : Implements table base iface) : source ≠ .declared table.null := by
  rintro rfl
  cases found
  exact implements.ne_nil declaration_null_interfaces

theorem not_refused_iface {number base more : Nat} (kind : (table.declaration number).kind = .interfaceDeclaration)
    (found : declarationOf table source = some base) (implements : Implements table base (.declared number))
    (refused : isInterfaceImplemented table (more + 1) (.declared number) source = some false) : False := by
  have plain : table.isDelegate (.declared number) = false := isDelegate_eq_false (by rw [kind]; exact nofun)
  have itself : areTypesEqual table (more + 1) (.declared number) (.declared number) = some true := by
    simp [areTypesEqual,plain]
  have implementable : Types.kind table (.declared number) = some .interfaceDeclaration := congrArg some kind
  unfold isInterfaceImplemented at refused
  rw [if_pos implementable] at refused
  obtain ⟨direct,refused⟩ := Verdict.either_eq_false.mp refused
  cases source with
  | declared =>
      cases found
      have failed := anyInterface_eq_false implements direct
      rw [itself] at failed
      cases failed
  | array =>
      cases found
      have failed := anyInterface_eq_false implements refused
      rw [itself] at failed
      cases failed
  | _ => cases found

theorem not_refused_constructed {underlaying base address : Nat} {targetArguments typeArguments : List TypeSymbol}
    (kind : (table.declaration underlaying).kind = .interfaceDeclaration) (found : baseOf table source = some base)
    (implements : Implements table base (.generic address underlaying typeArguments))
    (equal : ∀ pair ∈ pairs targetArguments typeArguments (table.arity underlaying),
      areTypesEqual table fuel pair.1 (sourceArgument source pair.2) = some true)
    (refused : isConstructedInterfaceImplemented table fuel underlaying targetArguments source = some false) : False := by
  have matched : matchesInterface table fuel underlaying targetArguments source (.generic address underlaying typeArguments) =
      some true := by
    rw [matchesInterface,if_pos rfl]
    exact Verdict.every_eq_true.mpr equal
  unfold isConstructedInterfaceImplemented at refused
  rw [if_pos kind] at refused
  obtain ⟨direct,refused⟩ := Verdict.either_eq_false.mp refused
  have check {number : Nat} (implements : Implements table number (.generic address underlaying typeArguments))
      (failed : anyInterface table fuel (.declared number)
        (matchesInterface table fuel underlaying targetArguments source) = some false) : False := by
    rw [anyInterface_eq_false implements failed] at matched
    cases matched
  cases source with
  | declared =>
      cases found
      exact check implements direct
  | generic =>
      cases found
      exact check implements refused
  | array =>
      cases found
      exact check implements (Verdict.either_eq_false.mp refused).1
  | _ => cases found

theorem sameSignature_eq_true {change : TypeSymbol → TypeSymbol} {target source : TypeDeclaration}
    (change_null : change .null = .null)
    (returnType : areTypesEqual table fuel (change target.returnType) source.returnType = some true)
    (size : target.parameters.length = source.parameters.length)
    (parameters : ∀ pair ∈ target.parameters.zip source.parameters,
      areTypesEqual table fuel (change pair.1) pair.2 = some true) :
    sameSignature table fuel change target source = some true := by
  have equal : Equals table (change target.returnType) source.returnType := ⟨fuel,returnType⟩
  have present : ¬(target.returnType = .null ∨ source.returnType = .null) := by
    rintro (missing | missing)
    · exact equal.left_ne_null (by rw [missing,change_null])
    · exact equal.right_ne_null missing
  rw [sameSignature,if_neg present,Verdict.both_eq_true,if_pos size]
  exact ⟨returnType,Verdict.every_eq_true.mpr parameters⟩

theorem Takes.not_refused (takes : Takes table target source) :
    ∃ fuel,∀ more,fuel ≤ more → isAssignableTo table more target source ≠ some false := by
  obtain ⟨present,present'⟩ := takes.present
  cases takes with
  | equal equal =>
      obtain ⟨fuel,same⟩ := equal
      refine ⟨fuel,fun more greater refused => ?_⟩
      have failed := (of_isAssignableTo_eq_false refused present present').1
      rw [areTypesEqual_extends greater true same] at failed
      cases failed
  | any => exact ⟨0,fun more _ refused => (of_isAssignableTo_eq_false refused present present').2.1 rfl⟩
  | null _ byReference =>
      refine ⟨0,fun more _ refused => ?_⟩
      rcases (of_isAssignableTo_eq_false refused present present').2.2 with failed | failed
      · exact failed.2 byReference
      · exact failed.1 rfl
  | iface kind found implements =>
      refine ⟨1,fun more greater refused => ?_⟩
      obtain ⟨more,rfl⟩ := Nat.exists_eq_add_of_le' greater
      rcases (of_isAssignableTo_eq_false refused present present').2.2 with ⟨rfl,-⟩ | ⟨-,failed,-⟩
      · cases found
        exact implements.ne_nil declaration_null_interfaces
      · exact not_refused_iface kind found implements failed
  | @constructed _ address _ underlaying _ targetArguments typeArguments kind found implements equal =>
      obtain ⟨fuel,enough⟩ := Verdict.exists_enough
        (fun fuel (pair : TypeSymbol × TypeSymbol) => areTypesEqual table fuel pair.1 (sourceArgument source pair.2) = some true)
        (pairs targetArguments typeArguments (table.arity underlaying))
        (fun greater same => areTypesEqual_extends greater true same) (fun pair member => by
          obtain ⟨index,inside,rfl⟩ := List.mem_map.mp member
          exact equal index (List.mem_range.mp inside))
      refine ⟨fuel,fun more greater refused => ?_⟩
      rcases (of_isAssignableTo_eq_false refused present present').2.2 with ⟨null,-⟩ | ⟨-,-,failed,-⟩
      · exact ne_declared_null found implements null
      · exact not_refused_constructed kind found implements
          (fun pair member => areTypesEqual_extends greater true (enough pair member)) (failed _ _ _ rfl)
  | element kind single equal =>
      obtain ⟨fuel,same⟩ := equal
      refine ⟨fuel,fun more greater refused => ?_⟩
      rcases (of_isAssignableTo_eq_false refused present present').2.2 with ⟨null,-⟩ | ⟨-,-,failed,-⟩
      · cases null
      · have failed := failed _ _ _ rfl
        unfold isConstructedInterfaceImplemented at failed
        rw [if_pos kind] at failed
        have failed := (Verdict.either_eq_false.mp (Verdict.either_eq_false.mp failed).2).2
        rw [if_pos ⟨rfl,single⟩,areTypesEqual_extends greater true same] at failed
        cases failed
  | @delegate address underlaying number targetArguments own other signature =>
      obtain ⟨fuel,returnType⟩ := signature.returnType
      obtain ⟨size,parameters⟩ := List.forall₂_iff_zip.mp signature.parameters
      obtain ⟨fuel',enough⟩ := Verdict.exists_enough
        (fun fuel (pair : TypeSymbol × TypeSymbol) => areTypesEqual table fuel
          (delegateArgument (.generic address underlaying targetArguments) pair.1) pair.2 = some true)
        ((table.declaration underlaying).parameters.zip (table.declaration number).parameters)
        (fun greater same => areTypesEqual_extends greater true same) (fun _ member => parameters member)
      refine ⟨max fuel fuel',fun more greater refused => ?_⟩
      obtain ⟨greater,greater'⟩ := Nat.max_le.mp greater
      rcases (of_isAssignableTo_eq_false refused present present').2.2 with ⟨null,-⟩ | ⟨-,-,-,failed⟩
      · cases null
        exact isPrimitive_null.2 (isDelegate_iff.mp other)
      · rw [isDelegateAssignable,if_pos ⟨own,other⟩,sameSignature_eq_true rfl
          (areTypesEqual_extends greater true returnType) size
          (fun pair member => areTypesEqual_extends greater' true (enough pair member))] at failed
        cases failed

theorem assignable_iff_of_complete (complete : Complete table target) (whole : isWhole table target = true) :
    Assignable table target source ↔ Takes table target source := by
  constructor
  · rintro ⟨fuel,assignable⟩
    exact takes_of_isAssignableTo assignable
  · intro takes
    obtain ⟨fuel,decided⟩ := isAssignableTo_terminates_of_complete complete whole source
    obtain ⟨fuel',accepted⟩ := takes.not_refused
    have some := decided (max fuel fuel') (Nat.le_max_left ..)
    have accepted := accepted (max fuel fuel') (Nat.le_max_right ..)
    obtain ⟨verdict,known⟩ := Option.isSome_iff_exists.mp some
    cases verdict with
    | false => exact absurd known accepted
    | true => exact ⟨_,known⟩

theorem assignable_iff (delegates : DelegatesComplete table) (whole : isWhole table target = true) :
    Assignable table target source ↔ Takes table target source :=
  assignable_iff_of_complete (complete_of_isWhole delegates target whole) whole

end Refusal

end ShardScript.Types
