import ShardScript.Library.Search
import ShardScript.Types.Rules
import ShardScript.Types.Shapes

/-! When the cache has one shape for each type. -/
namespace ShardScript.Types.Shapes

open Library (Reaches explore)

section Requests

inductive Request where
  /-- `ResolveObjectShape`, and the same in `AllocateInstance`: a constructed type by its parts. -/
  | object (type : TypeSymbol)
  | plain (type : TypeSymbol)
  | constructed (baseType : Nat) (genericArgs : List TypeSymbol)
  deriving DecidableEq

def Request.type : Request → TypeSymbol
  | .object type => type
  | .plain type => type
  | .constructed baseType genericArgs => .generic 0 baseType genericArgs

def Request.key (table : SymbolTable) : Request → Key
  | .object (.generic _ underlayingType typeArguments) =>
      ⟨.declared underlayingType,padded typeArguments (table.arity underlayingType)⟩
  | .object type => ⟨type,[]⟩
  | .plain type => ⟨type,[]⟩
  | .constructed baseType genericArgs => ⟨.declared baseType,genericArgs⟩

variable (table : SymbolTable) (layouts : Layouts) (fuel : Nat)

def answer (request : Request) (cache : Cache) : Except Failure (Option Nat × Cache) :=
  if request = .object .null then .ok (none,cache)
  else
    match getOrCreateShape table layouts fuel (request.key table) cache with
    | .error failure => .error failure
    | .ok (place,cache) => .ok (some place,cache)

def run : List Request → Cache → Except Failure (List (Option Nat) × Cache)
  | [],cache => .ok ([],cache)
  | request :: requests,cache =>
      match answer table layouts fuel request cache with
      | .error failure => .error failure
      | .ok (shape,cache) =>
          match run requests cache with
          | .error failure => .error failure
          | .ok (shapes,cache) => .ok (shape :: shapes,cache)

end Requests

section Returns

structure ReturnSlot where
  returnType : TypeSymbol
  returnShape : Option Nat
  valueReturned : Bool := false
  deriving DecidableEq

variable (void : TypeSymbol) (frame : ReturnSlot)

def placeReturned (valueShape : Option Nat) : Except String ReturnSlot :=
  if frame.returnType = void then .error "PlaceReturned: method returns void"
  else if frame.valueReturned then .error "PlaceReturned: return value already placed"
  else if frame.returnShape ≠ valueShape then .error "PlaceReturned: shapes mismatched"
  else .ok { frame with valueReturned := true }

def ret : Except String ReturnSlot :=
  if frame.returnType = void then .ok frame
  else
    let retReg := frame.returnShape
    if retReg ≠ frame.returnShape then .error "Returning TypeShape mismatch" else placeReturned void frame retReg

end Returns

section Keys

def written (replacement : Parent → Nat → TypeSymbol) : TypeSymbol → Option TypeSymbol
  | .typeParameter parent index => some (replacement parent index)
  | .array address underlayingType length =>
      match written replacement underlayingType with
      | some element => if element = .null ∨ element = underlayingType then some (.array address underlayingType length) else none
      | none => none
  | type => some type

/-- What `SubstituteTypeParameter` puts in place of a type parameter. -/
def replacement (parameters : List (Parent × Nat)) (arguments : List TypeSymbol) (parent : Parent) (index : Nat) : TypeSymbol :=
  match parameters.idxOf? (parent,index) with
  | some place => if place < arguments.length then arguments.getD place .null else .typeParameter parent index
  | none => .typeParameter parent index

theorem substituteTypeParameter_of_written {parameters : List (Parent × Nat)} {arguments : List TypeSymbol}
    {type type' : TypeSymbol} (same : written (replacement parameters arguments) type = some type') (factory : Factory) :
    substituteTypeParameter parameters arguments type factory = (type',factory) := by
  induction type using written.induct (replacement parameters arguments) generalizing type' with
  | case1 parent index =>
      cases same
      unfold substituteTypeParameter replacement
      cases parameters.idxOf? (parent,index) <;> rfl
  | case2 address underlayingType length element known keeps ih =>
      rw [written,known] at same
      simp only [if_pos keeps,Option.some.injEq] at same
      subst same
      simp only [substituteTypeParameter,ih known,if_pos keeps]
  | case3 address underlayingType length element known changes ih =>
      rw [written,known] at same
      simp only [if_neg changes] at same
      cases same
  | case4 address underlayingType length unknown ih =>
      rw [written,unknown] at same
      cases same
  | case5 type notParameter notArray =>
      cases type with
      | typeParameter parent index => exact absurd rfl (notParameter parent index)
      | array address underlayingType length => exact absurd rfl (notArray address underlayingType length)
      | _ =>
          cases same
          rfl

variable (table : SymbolTable) (layouts : Layouts)

def writtenField (key : Key) (field : FieldSymbol) : Option TypeSymbol :=
  (written (replacement (typeParametersOf table key) key.genericArgs) field.returnType).map fun type =>
    if type = .null then field.returnType else type

def nestedTypes (key : Key) : List TypeSymbol :=
  match key.baseType with
  | .array _ underlayingType _ => [underlayingType]
  | baseType => ((slottedFields table layouts baseType).filter (·.1.returnType ≠ .null)).filterMap fun field =>
      writtenField table key field.1

def nestedKeys (key : Key) : List Key := (nestedTypes table layouts key).map (⟨·,[]⟩)

structure IsSettled (key : Key) : Prop where
  present : key.baseType ≠ .null
  kept : ∀ field ∈ slottedFields table layouts key.baseType,(writtenField table key field.1).isSome

variable (requests : List Request)

def AskedKey : Key → Prop := Reaches (fun _ => true) (nestedKeys table layouts) (requests.map (Request.key table))

inductive Asked : Request → Prop where
  | request {request : Request} : request ∈ requests → Asked request
  | nested {key : Key} {type : TypeSymbol} : AskedKey table layouts requests key → type ∈ nestedTypes table layouts key →
      Asked (.plain type)

def IsWritten : Prop := ∀ key,AskedKey table layouts requests key → IsSettled table layouts key

def IsInterned : Prop := ∀ request request',Asked table layouts requests request → Asked table layouts requests request' →
  (Equals table request.type request'.type ↔ request.key table = request'.key table)

def returnSlot (cache : Cache) (returnType : TypeSymbol) : ReturnSlot :=
  ⟨returnType,cache.getShape ((Request.object returnType).key table),false⟩

/-- Each type has one shape, and a value is returned if and only if it is of the declared type. -/
structure IsCanonical (cache : Cache) : Prop where
  same : ∀ request request',Asked table layouts requests request → Asked table layouts requests request' →
    (Equals table request.type request'.type ↔ cache.getShape (request.key table) = cache.getShape (request'.key table))
  placed : ∀ void returnType request,Asked table layouts requests (.object returnType) → Asked table layouts requests request →
    returnType ≠ void → ((placeReturned void (returnSlot table cache returnType) (cache.getShape (request.key table))).isOk ↔
      Equals table returnType request.type)
  returned : ∀ void returnType,Asked table layouts requests (.object returnType) → returnType ≠ void →
    ((ret void (returnSlot table cache returnType)).isOk ↔ Equals table returnType returnType)

end Keys

section Simulation

variable {table : SymbolTable} {layouts : Layouts} {fuel : Nat}

theorem keys_emplace (cache : Cache) (key : Key) : (cache.emplace key).keys = cache.keys ++ [key] := by
  simp [Cache.keys,Cache.emplace]

theorem keys_fill (cache : Cache) (place size alignment : Nat) (slots : List SlotInfo) :
    (cache.fill place size alignment slots).keys = cache.keys := by
  unfold Cache.keys Cache.fill
  apply List.ext_getElem?
  intro index
  rw [List.getElem?_map,List.getElem?_map,List.getElem?_modify]
  split <;> cases cache.shapes[index]? <;> rfl

theorem idxOf?_append {key : Key} (keys keys' : List Key) :
    (keys ++ keys').idxOf? key = (keys.idxOf? key).or ((keys'.idxOf? key).map (· + keys.length)) := List.findIdx?_append

abbrev visits (table : SymbolTable) (layouts : Layouts) (fuel : Nat) (keys visited : List Key) : Option (List Key) :=
  explore (fun _ => true) (nestedKeys table layouts) fuel keys visited

def Simulates (table : SymbolTable) (layouts : Layouts) (fuel : Nat)
    (getOrCreateShape : TypeSymbol → Cache → Except Failure (Nat × Cache)) (type : TypeSymbol) : Prop :=
  ∀ cache visited,visits table layouts fuel [⟨type,[]⟩] cache.keys = some visited →
    ∃ place cache',getOrCreateShape type cache = .ok (place,cache') ∧ cache'.keys = visited

theorem visits_cons {key : Key} {keys visited result : List Key}
    (found : visits table layouts fuel (key :: keys) visited = some result) :
    ∃ middle,visits table layouts fuel [key] visited = some middle ∧ visits table layouts fuel keys middle = some result := by
  have parts : visits table layouts fuel (key :: keys) visited =
      (visits table layouts fuel [key] visited).bind (visits table layouts fuel keys) :=
    Library.explore_append fuel [key] keys visited
  rw [found] at parts
  exact Option.bind_eq_some_iff.mp parts.symm

variable {visited : List Key}

theorem buildFields_simulates {getOrCreateShape : TypeSymbol → Cache → Except Failure (Nat × Cache)} (key : Key)
    {fields : List (FieldSymbol × Nat)} (kept : ∀ field ∈ fields,(writtenField table key field.1).isSome)
    {types : List TypeSymbol} (nested : ((fields.filter (·.1.returnType ≠ .null)).filterMap fun field =>
      writtenField table key field.1) = types)
    (simulates : ∀ type ∈ types,Simulates table layouts fuel getOrCreateShape type) {progress : Progress} {cache : Cache}
    (found : visits table layouts fuel (types.map (⟨·,[]⟩)) cache.keys = some visited) :
    ∃ progress' cache',buildFields table getOrCreateShape (typeParametersOf table key) key.genericArgs fields progress cache =
      .ok (progress',cache') ∧ cache'.keys = visited := by
  induction fields generalizing types progress cache with
  | nil =>
      subst nested
      refine ⟨progress,cache,rfl,?_⟩
      cases fuel with
      | zero => cases found
      | succ fuel => exact Option.some.inj found
  | cons field fields ih =>
      obtain ⟨field,slotIndex⟩ := field
      rw [List.forall_mem_cons] at kept
      rw [buildFields]
      by_cases missing : field.returnType = .null
      · rw [if_pos missing]
        rw [List.filter_cons_of_neg (by simp [missing])] at nested
        exact ih kept.2 nested simulates found
      · rw [if_neg missing]
        rw [List.filter_cons_of_pos (by simp [missing]),List.filterMap_cons] at nested
        obtain ⟨type,known⟩ := Option.isSome_iff_exists.mp kept.1
        obtain ⟨substituted,same,rfl⟩ := Option.map_eq_some_iff.mp known
        simp only [known] at nested
        subst nested
        rw [List.forall_mem_cons] at simulates
        obtain ⟨middle,first,rest⟩ := visits_cons found
        obtain ⟨place,cache',found',keys⟩ := simulates.1 cache middle first
        simp only [substituteTypeParameter_of_written same,found']
        subst keys
        exact ih kept.2 rfl simulates.2 rest

theorem buildShape_simulates {getOrCreateShape : TypeSymbol → Cache → Except Failure (Nat × Cache)} {key : Key}
    (settled : IsSettled table layouts key)
    (simulates : ∀ type ∈ nestedTypes table layouts key,Simulates table layouts fuel getOrCreateShape type) (place : Nat)
    {cache : Cache}
    (found : visits table layouts fuel (nestedKeys table layouts key) cache.keys = some visited) :
    ∃ cache',buildShape table layouts getOrCreateShape key place cache = .ok cache' ∧ cache'.keys = visited := by
  obtain ⟨base,arguments⟩ := key
  have build (other : ∀ address element length,base ≠ .array address element length) :
      ∃ progress cache',buildFields table getOrCreateShape (typeParametersOf table ⟨base,arguments⟩) arguments
        (slottedFields table layouts base) { slots := List.replicate (slotCount (slottedFields table layouts base)) {} } cache =
          .ok (progress,cache') ∧ cache'.keys = visited := by
    have nested : nestedTypes table layouts ⟨base,arguments⟩ =
        ((slottedFields table layouts base).filter (·.1.returnType ≠ .null)).filterMap fun field =>
          writtenField table ⟨base,arguments⟩ field.1 := by
      cases base with
      | array => exact absurd rfl (other _ _ _)
      | _ => rfl
    exact buildFields_simulates ⟨base,arguments⟩ settled.kept nested.symm simulates found
  unfold buildShape
  split
  · next missing => exact absurd missing settled.present
  · next address element length same =>
      cases same
      obtain ⟨shape,cache',found',keys⟩ := simulates element List.mem_cons_self cache visited found
      simp only [found']
      exact ⟨_,rfl,(keys_fill ..).trans keys⟩
  · next present other =>
      obtain ⟨progress,cache',built,keys⟩ := build other
      simp only [built]
      split
      · exact ⟨_,rfl,(keys_fill ..).trans keys⟩
      · exact ⟨_,rfl,(keys_fill ..).trans keys⟩

theorem getOrCreateShape_simulates {settled : Key → Prop} (fine : ∀ key,settled key → IsSettled table layouts key ∧
      ∀ type ∈ nestedTypes table layouts key,settled ⟨type,[]⟩) {key : Key} (start : settled key) {cache : Cache}
    (found : visits table layouts fuel [key] cache.keys = some visited) :
    ∃ place cache',getOrCreateShape table layouts fuel key cache = .ok (place,cache') ∧ cache'.keys = visited ∧
      cache'.getShape key = some place := by
  induction fuel generalizing key cache visited with
  | zero => cases found
  | succ fuel ih =>
      rw [visits,Library.explore_cons] at found
      obtain ⟨middle,here,rest⟩ := Option.bind_eq_some_iff.mp found
      cases rest
      rw [getOrCreateShape]
      split
      · next place known =>
          have present : key ∈ cache.keys := by
            by_contra absent
            rw [Cache.getShape,List.idxOf?_eq_none_iff.mpr absent] at known
            cases known
          rw [if_pos (.inr present)] at here
          cases here
          exact ⟨place,cache,rfl,rfl,known⟩
      · next unknown =>
          have absent : key ∉ cache.keys := List.idxOf?_eq_none_iff.mp unknown
          rw [if_neg (by simpa using absent),← keys_emplace] at here
          obtain ⟨cache',built,keys⟩ := buildShape_simulates (fine key start).1 (fun type member cache visited found => by
            obtain ⟨place,cache',found',keys,-⟩ := ih ((fine key start).2 type member) found
            exact ⟨place,cache',found',keys⟩) cache.shapes.length here
          simp only [built]
          refine ⟨_,cache',rfl,keys,?_⟩
          obtain ⟨more,later⟩ := Library.prefix_explore here
          rw [Cache.getShape,keys,← later,keys_emplace,List.append_assoc,idxOf?_append]
          rw [List.idxOf?_eq_none_iff.mpr absent,List.singleton_append,List.idxOf?_cons]
          simp [Cache.keys]

theorem getShape_stays {cache cache' : Cache} (kept : cache.keys <+: cache'.keys) {key : Key} {place : Nat}
    (known : cache.getShape key = some place) : cache'.getShape key = some place := by
  obtain ⟨more,later⟩ := kept
  rw [Cache.getShape,← later,idxOf?_append]
  rw [Cache.getShape] at known
  rw [known,Option.some_or]

theorem run_simulates (settled : Key → Prop) (cache : Cache) (fine : ∀ key,settled key → IsSettled table layouts key ∧
      ∀ type ∈ nestedTypes table layouts key,settled ⟨type,[]⟩) {requests : List Request}
    (start : ∀ request ∈ requests,settled (request.key table))
    (found : visits table layouts fuel (requests.map (Request.key table)) cache.keys = some visited) :
    ∃ cache',run table layouts fuel requests cache =
      .ok (requests.map fun request => cache'.getShape (request.key table),cache') ∧ cache'.keys = visited := by
  induction requests generalizing cache with
  | nil =>
      refine ⟨cache,rfl,?_⟩
      cases fuel with
      | zero => cases found
      | succ fuel => exact Option.some.inj found
  | cons request requests ih =>
      rw [List.forall_mem_cons] at start
      obtain ⟨middle,first,rest⟩ := visits_cons found
      obtain ⟨place,cache',built,rfl,known⟩ := getOrCreateShape_simulates fine start.1 first
      obtain ⟨cache'',ran,keys⟩ := ih cache' start.2 rest
      have kept : cache'.keys <+: cache''.keys := by
        rw [keys]
        exact Library.prefix_explore rest
      have present : request ≠ .object .null := by
        intro missing
        subst missing
        exact (fine _ start.1).1.present rfl
      refine ⟨cache'',?_,keys⟩
      simp only [run,answer,if_neg present,built,ran,List.map_cons,getShape_stays kept known]

end Simulation

section Termination

def elements : TypeSymbol → List TypeSymbol
  | .array address underlayingType length => .array address underlayingType length :: elements underlayingType
  | type => [type]

theorem mem_elements_self (type : TypeSymbol) : type ∈ elements type := by
  cases type <;> exact List.mem_cons_self

theorem mem_elements_of_array {type : TypeSymbol} {address length : Nat} {element : TypeSymbol}
    (member : .array address element length ∈ elements type) : element ∈ elements type := by
  induction type using elements.induct with
  | case1 address' underlayingType length' ih =>
      rw [elements,List.mem_cons] at member ⊢
      rcases member with same | member
      · cases same
        exact .inr (mem_elements_self _)
      · exact .inr (ih member)
  | case2 type other =>
      cases type with
      | array => exact absurd rfl (other _ _ _)
      | _ => cases List.mem_singleton.mp member

variable (table : SymbolTable) (keys : List Key)

def roots : List TypeSymbol :=
  (keys.flatMap fun key => key.baseType :: key.genericArgs) ++
    table.declarations.flatMap fun declaration => declaration.fields.map FieldSymbol.returnType

def graph : List Key := keys ++ ((roots table keys).flatMap elements).map (⟨·,[]⟩)

variable {table keys} {layouts : Layouts} {key : Key} {type : TypeSymbol}

theorem written_cases {replacement : Parent → Nat → TypeSymbol} {type' : TypeSymbol} (same : written replacement type = some type') :
    type' = type ∨ ∃ parent index,type' = replacement parent index ∧ type = .typeParameter parent index := by
  cases type with
  | typeParameter parent index =>
      cases same
      exact .inr ⟨parent,index,rfl,rfl⟩
  | array =>
      rw [written] at same
      split at same
      · split at same
        · cases same
          exact .inl rfl
        · cases same
      · cases same
  | _ =>
      cases same
      exact .inl rfl

theorem writtenField_cases {field : FieldSymbol} (same : writtenField table key field = some type) :
    type = field.returnType ∨ type ∈ key.genericArgs := by
  obtain ⟨substituted,known,rfl⟩ := Option.map_eq_some_iff.mp same
  split
  · exact .inl rfl
  · rcases written_cases known with same | ⟨parent,index,same,here⟩
    · exact .inl same
    · rw [replacement] at same
      split at same
      · split at same
        · next inside =>
            rw [same,List.getD_eq_getElem _ _ inside]
            exact .inr (List.getElem_mem inside)
        · exact .inl (same.trans here.symm)
      · exact .inl (same.trans here.symm)

theorem mem_roots_of_slotted {base : TypeSymbol} {field : FieldSymbol × Nat} (member : field ∈ slottedFields table layouts base) :
    field.1.returnType ∈ roots table keys := by
  cases base with
  | declared number =>
      obtain ⟨⟨symbol,place⟩,inside,slotted⟩ := List.mem_filterMap.mp member
      have declared : symbol ∈ (table.declaration number).fields := by
        obtain ⟨-,-,same⟩ := List.mem_zipIdx inside
        rw [same]
        exact List.getElem_mem _
      have same : field.1 = symbol := by
        by_cases fixed : symbol.isStatic = true
        · simp [fixed] at slotted
        · obtain ⟨slot,-,rfl⟩ := Option.map_eq_some_iff.mp ((if_neg fixed).symm.trans slotted)
          rfl
      apply List.mem_append_right
      refine List.mem_flatMap.mpr ⟨table.declaration number,?_,List.mem_map.mpr ⟨symbol,declared,same ▸ rfl⟩⟩
      by_cases within : number < table.declarations.length
      · rw [SymbolTable.declaration,List.getD_eq_getElem _ _ within]
        exact List.getElem_mem within
      · rw [SymbolTable.declaration,List.getD_eq_default _ _ (Nat.le_of_not_lt within)] at declared
        cases declared
  | _ => cases member

theorem nestedTypes_cases (keys : List Key) (member : type ∈ nestedTypes table layouts key) :
    (∃ address length,key.baseType = .array address type length) ∨ type ∈ key.genericArgs ∨ type ∈ roots table keys := by
  unfold nestedTypes at member
  split at member
  · next address element length same =>
      rw [List.mem_singleton.mp member]
      exact .inl ⟨address,length,same⟩
  · obtain ⟨field,slotted,known⟩ := List.mem_filterMap.mp member
    rcases writtenField_cases known with rfl | argument
    · exact .inr (.inr (mem_roots_of_slotted (List.mem_of_mem_filter slotted)))
    · exact .inr (.inl argument)

theorem mem_graph (inside : type ∈ roots table keys) : ⟨type,[]⟩ ∈ graph table keys := by
  apply List.mem_append_right
  exact List.mem_map.mpr ⟨type,List.mem_flatMap.mpr ⟨type,inside,mem_elements_self type⟩,rfl⟩

theorem graph_closed (inside : key ∈ graph table keys) {key' : Key} (member : key' ∈ nestedKeys table layouts key) :
    key' ∈ graph table keys := by
  obtain ⟨type,nested,rfl⟩ := List.mem_map.mp member
  have root (start : key ∈ keys) {type : TypeSymbol} (part : type ∈ key.baseType :: key.genericArgs) : type ∈ roots table keys :=
    List.mem_append_left _ (List.mem_flatMap.mpr ⟨key,start,part⟩)
  rcases nestedTypes_cases keys nested with ⟨address,length,base⟩ | argument | declared
  · have outer : ∃ type' ∈ roots table keys,key.baseType ∈ elements type' := by
      rcases List.mem_append.mp inside with start | below
      · exact ⟨key.baseType,root start List.mem_cons_self,mem_elements_self _⟩
      · obtain ⟨type',part,rfl⟩ := List.mem_map.mp below
        exact List.mem_flatMap.mp part
    obtain ⟨type',written,part⟩ := outer
    rw [base] at part
    apply List.mem_append_right
    exact List.mem_map.mpr ⟨type,List.mem_flatMap.mpr ⟨type',written,mem_elements_of_array part⟩,rfl⟩
  · rcases List.mem_append.mp inside with start | below
    · exact mem_graph (root start (List.mem_cons_of_mem _ argument))
    · obtain ⟨type',-,rfl⟩ := List.mem_map.mp below
      cases argument
  · exact mem_graph declared

end Termination

section Runs

variable {table : SymbolTable} {layouts : Layouts} {requests : List Request}

theorem AskedKey.of_asked {request : Request} (asked : Asked table layouts requests request) :
    AskedKey table layouts requests (request.key table) := by
  cases asked with
  | request member => exact .start (List.mem_map_of_mem member) rfl
  | nested reached member => exact .step reached (List.mem_map_of_mem member) rfl

theorem exists_run (written : IsWritten table layouts requests) (factory : Factory) :
    ∃ enough,∀ fuel,enough ≤ fuel → ∃ cache,run table layouts fuel requests { factory := factory } =
      .ok (requests.map fun request => cache.getShape (request.key table),cache) ∧
        ∀ key,key ∈ cache.keys ↔ AskedKey table layouts requests key := by
  let keys := requests.map (Request.key table)
  refine ⟨Library.unvisited (graph table keys) [] + 1,fun fuel greater => ?_⟩
  have ends : ∃ visited,visits table layouts fuel keys [] = some visited := by
    apply Library.exists_explore _ _ (Nat.lt_of_succ_le greater)
    · exact fun _ inside _ member => graph_closed inside member
    · exact fun _ member => List.mem_append_left _ member
  obtain ⟨visited,found⟩ := ends
  obtain ⟨cache,ran,same⟩ := run_simulates (AskedKey table layouts requests) { factory := factory }
    (fun key asked => ⟨written key asked,fun type member => .step asked (List.mem_map_of_mem member) rfl⟩)
    (fun request member => .start (List.mem_map_of_mem member) rfl) found
  refine ⟨cache,ran,fun key => ?_⟩
  rw [same]
  exact Library.mem_explore found

theorem getShape_inj {cache : Cache} {key key' : Key} (present : key ∈ cache.keys)
    (same : cache.getShape key = cache.getShape key') : key = key' := by
  obtain ⟨place,known⟩ := Option.isSome_iff_exists.mp (List.isSome_idxOf?.mpr present)
  have known' : cache.keys.idxOf? key' = some place := by
    rw [← known]
    exact same.symm
  obtain ⟨_,first,_⟩ := List.idxOf?_eq_some_iff.mp known
  obtain ⟨_,second,_⟩ := List.idxOf?_eq_some_iff.mp known'
  exact first.symm.trans second

theorem isOk_placeReturned {void : TypeSymbol} {frame : ReturnSlot} (other : frame.returnType ≠ void)
    (fresh : frame.valueReturned = false) (valueShape : Option Nat) :
    (placeReturned void frame valueShape).isOk ↔ frame.returnShape = valueShape := by
  rw [placeReturned,if_neg other,fresh,if_neg Bool.false_ne_true]
  split
  · next mismatched => exact ⟨nofun,fun same => absurd same mismatched⟩
  · next same => exact ⟨fun _ => not_not.mp same,fun _ => rfl⟩

theorem ret_eq {void : TypeSymbol} {frame : ReturnSlot} (other : frame.returnType ≠ void) :
    ret void frame = placeReturned void frame frame.returnShape := by
  simp [ret,other]

theorem isCanonical_of_same {cache : Cache} (same : ∀ request request',Asked table layouts requests request →
      Asked table layouts requests request' → (Equals table request.type request'.type ↔
        cache.getShape (request.key table) = cache.getShape (request'.key table))) :
    IsCanonical table layouts requests cache where
  same := same
  placed void returnType request asked asked' other := by
    rw [isOk_placeReturned (by exact other) rfl]
    exact (same _ _ asked asked').symm
  returned void returnType asked other := by
    rw [ret_eq (by exact other),isOk_placeReturned (by exact other) rfl]
    exact (same _ _ asked asked).symm

theorem isCanonical_iff (written : IsWritten table layouts requests) (factory : Factory) :
    ∃ enough,∀ fuel,enough ≤ fuel → ∃ shapes cache,run table layouts fuel requests { factory := factory } = .ok (shapes,cache) ∧
      shapes = requests.map (fun request => cache.getShape (request.key table)) ∧ none ∉ shapes ∧
        (IsCanonical table layouts requests cache ↔ IsInterned table layouts requests) := by
  obtain ⟨enough,runs⟩ := exists_run written factory
  refine ⟨enough,fun fuel greater => ?_⟩
  obtain ⟨cache,ran,keys⟩ := runs fuel greater
  have present {request : Request} (asked : Asked table layouts requests request) : request.key table ∈ cache.keys :=
    (keys _).mpr (.of_asked asked)
  refine ⟨_,cache,ran,rfl,?_,fun canonical request request' asked asked' => ?_,fun interned => ?_⟩
  · intro missing
    obtain ⟨request,member,unknown⟩ := List.mem_map.mp missing
    exact List.idxOf?_eq_none_iff.mp unknown (present (.request member))
  · rw [canonical.same _ _ asked asked']
    exact ⟨getShape_inj (present asked),congrArg cache.getShape⟩
  · apply isCanonical_of_same
    intro request request' asked asked'
    rw [interned _ _ asked asked']
    exact ⟨congrArg cache.getShape,getShape_inj (present asked)⟩

section Collections

/-- `struct Integer`, the class `Array`, `class List<T> { T[] items; int count; }` and
`class Point { int x; Point next; int[] data; }` -/
def collections : SymbolTable where
  declarations := [.plainStruct,.plainClass,
    { typeParameters := ["T"]
      fields := [⟨.array 0 (.typeParameter (.type 2) 0) 0,false⟩,⟨.declared 0,false⟩]
      byReference := TypeDeclaration.plainClass.byReference
      delegateOnly := TypeDeclaration.plainClass.delegateOnly },
    { fields := [⟨.declared 0,false⟩,⟨.declared 3,false⟩,⟨.array 1 (.declared 0) 0,false⟩]
      byReference := TypeDeclaration.plainClass.byReference
      delegateOnly := TypeDeclaration.plainClass.delegateOnly }]
  any := 4
  null := 5
  array := 1
  iEnumerable := 6
  any_ne_null := four_ne_five

/-- A slot for each field, and the bytes of an integer and of the header of an array. -/
def collectionLayouts : Layouts where
  memoryBytesSize type := if type = .declared 0 ∨ type = .declared 1 then 8 else 0
  slotIndex _ place := some place

theorem isCanonical_iff_point : ∃ enough,∀ fuel,enough ≤ fuel → ∃ shapes cache,
    run collections collectionLayouts fuel [.object (.declared 3)] { factory := ⟨2,[]⟩ } = .ok (shapes,cache) ∧
      shapes = [Request.object (.declared 3)].map (fun request => cache.getShape (request.key collections)) ∧ none ∉ shapes ∧
        (IsCanonical collections collectionLayouts [.object (.declared 3)] cache ↔
          IsInterned collections collectionLayouts [.object (.declared 3)]) := by
  apply isCanonical_iff
  have found : visits collections collectionLayouts 4 [⟨.declared 3,[]⟩] [] =
      some [⟨.declared 3,[]⟩,⟨.declared 0,[]⟩,⟨.array 1 (.declared 0) 0,[]⟩] := by decide
  intro key asked
  have member := (Library.mem_explore found).mpr asked
  simp only [List.mem_cons,List.not_mem_nil,or_false] at member
  rcases member with rfl | rfl | rfl <;> exact ⟨by decide,by decide⟩

/-- A method that is declared to return a `List<List<int>>` refuses the `List<List<int>>` that is made in it: the inner types are
two symbols. So are two arrays of integers where the runtime puts the type arguments in place. -/
theorem equal_types_rejected :
    let inner (address : Nat) : TypeSymbol := .generic address 2 [.declared 0]
    let returnType : TypeSymbol := .generic 2 2 [inner 3]
    let value : Request := .constructed 2 [inner 4]
    let resolve := resolveRuntimeTypeArgument (fun _ _ => .declared 0) (.array 0 (.typeParameter (.type 2) 0) 0)
    let first := resolve ⟨5,[]⟩
    let second := resolve first.2
    areTypesEqual collections 3 returnType value.type = some true ∧ areTypesEqual collections 3 first.1 second.1 = some true ∧
      ∃ cache,run collections collectionLayouts 4 [.object returnType,value,.plain first.1,.plain second.1] { factory := second.2 } =
          .ok ([some 0,some 4,some 7,some 8],cache) ∧
        placeReturned .null (returnSlot collections cache returnType) (some 4) = .error "PlaceReturned: shapes mismatched" ∧
        ¬ IsCanonical collections collectionLayouts [.object returnType,value,.plain first.1,.plain second.1] cache := by
  intro inner returnType value resolve first second
  have equal : areTypesEqual collections 3 returnType value.type = some true := by decide
  have ran : ((run collections collectionLayouts 4 [.object returnType,value,.plain first.1,.plain second.1]
      { factory := second.2 }).toOption.map fun result => (result.1,result.2.getShape ((Request.object returnType).key collections),
        result.2.getShape (value.key collections))) = some ([some 0,some 4,some 7,some 8],some 0,some 4) := by decide +kernel
  obtain ⟨⟨shapes,cache⟩,ok,parts⟩ := Option.map_eq_some_iff.mp ran
  simp only [Prod.mk.injEq] at parts
  obtain ⟨rfl,known,known'⟩ := parts
  refine ⟨equal,by decide,cache,?_,?_,fun canonical => ?_⟩
  · generalize run collections _ _ _ _ = outcome at ok
    cases outcome with
    | error => cases ok
    | ok => rw [Option.some.inj ok]
  · rw [returnSlot,known]
    decide
  · have same := (canonical.same (.object returnType) value (.request (by decide)) (.request (by decide))).mp ⟨3,equal⟩
    rw [known,known'] at same
    cases same

end Collections

end Runs

end ShardScript.Types.Shapes
