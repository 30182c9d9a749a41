import Mathlib.Data.List.Forall2
import ShardScript.Libraries.LoadOrder

/-! Dependencies are resolved exactly when they can be, and each library is loaded after those that it depends on. -/
namespace ShardScript.Libraries
open Dependencies (Acyclic Before DependsOn)

section Selection

variable {libraries : List ResolvedLibrary} {expression : Option VersionExpression}

theorem bestMatch_cons (candidate : Nat) (candidates : List Nat) (best : Option Nat) :
    ∃ next, bestMatch libraries expression (candidate :: candidates) best = bestMatch libraries expression candidates next ∧
      (accepts expression (libraryAt libraries candidate) = true → next ≠ none) ∧ (best ≠ none → next ≠ none) ∧
      (next = best ∨ next = some candidate ∧ accepts expression (libraryAt libraries candidate) = true) := by
  refine ⟨_,rfl,?_⟩
  split_ifs with accepted
  · cases best with
    | none => exact ⟨fun _ => Option.some_ne_none _,fun _ => Option.some_ne_none _,.inr ⟨rfl,accepted⟩⟩
    | some index =>
      dsimp only
      split_ifs
      · exact ⟨fun _ => Option.some_ne_none _,fun _ => Option.some_ne_none _,.inr ⟨rfl,accepted⟩⟩
      · exact ⟨fun _ => Option.some_ne_none _,fun _ => Option.some_ne_none _,.inl rfl⟩
  · exact ⟨fun same => absurd same accepted,id,.inl rfl⟩

theorem bestMatch_none {candidates : List Nat} {best : Option Nat} : bestMatch libraries expression candidates best = none ↔
    best = none ∧ ∀ candidate ∈ candidates, accepts expression (libraryAt libraries candidate) = false := by
  induction candidates generalizing best with
  | nil => exact ⟨fun none => ⟨none,List.forall_mem_nil _⟩,And.left⟩
  | cons candidate candidates ih =>
    obtain ⟨next,same,accepted,kept,origin⟩ := bestMatch_cons candidate candidates best
    rw [same,ih,List.forall_mem_cons]
    constructor
    · rintro ⟨rfl,rest⟩
      have refused : accepts expression (libraryAt libraries candidate) = false := Bool.eq_false_iff.2 fun yes => accepted yes rfl
      exact ⟨not_not.1 fun some => kept some rfl,refused,rest⟩
    · rintro ⟨rfl,refused,rest⟩
      obtain none | ⟨-,yes⟩ := origin
      · exact ⟨none,rest⟩
      · rw [refused] at yes
        cases yes

theorem bestMatch_some {candidates : List Nat} {best : Option Nat} {target : Nat}
    (found : bestMatch libraries expression candidates best = some target) :
    best = some target ∨ target ∈ candidates ∧ accepts expression (libraryAt libraries target) = true := by
  induction candidates generalizing best with
  | nil => exact .inl found
  | cons candidate candidates ih =>
    obtain ⟨next,same,-,-,origin⟩ := bestMatch_cons candidate candidates best
    rw [same] at found
    obtain chosen | ⟨member,accepted⟩ := ih found
    · obtain rfl | ⟨rfl,accepted⟩ := origin
      · exact .inl chosen
      · cases chosen
        exact .inr ⟨List.mem_cons_self,accepted⟩
    · exact .inr ⟨List.mem_cons_of_mem _ member,accepted⟩

end Selection

section Resolution

variable {libraries : List ResolvedLibrary} {librariesByName : LibrariesByName libraries}

theorem mem_named {name : String} {index : Nat} (member : index ∈ named libraries name) : index ∈ List.range libraries.length :=
  (List.mem_filter.1 member).1

variable {dependency : String × String}

theorem mem_allDependencies {source : Nat} :
    (source,dependency) ∈ allDependencies libraries ↔
      source ∈ List.range libraries.length ∧ dependency ∈ (libraryAt libraries source).dependencies := by
  rw [allDependencies,List.mem_flatMap]
  constructor
  · rintro ⟨index,inside,member⟩
    obtain ⟨known,among,same⟩ := List.mem_map.1 member
    cases same
    exact ⟨inside,among⟩
  · rintro ⟨inside,among⟩
    exact ⟨source,inside,List.mem_map_of_mem among⟩

theorem resolveDependency_sound {source : Nat} {resolved : LibraryDependency}
    (done : resolveDependency libraries librariesByName source dependency = .ok resolved) :
    resolved.source = source ∧ resolved.name = dependency.1 ∧ Satisfying libraries dependency resolved.target := by
  rw [resolveDependency] at done
  split_ifs at done with missing
  cases parsed : expressionOf dependency.2 with
  | none =>
    rw [parsed] at done
    cases done
  | some expression =>
    rw [parsed] at done
    dsimp only at done
    cases found : bestMatch libraries expression (librariesByName.equalRange dependency.1) none with
    | none =>
      rw [found] at done
      cases done
    | some target =>
      rw [found] at done
      cases done
      obtain none | ⟨member,accepted⟩ := bestMatch_some found
      · cases none
      · exact ⟨rfl,rfl,(librariesByName.perm dependency.1).mem_iff.1 member,expression,parsed,accepted⟩

theorem resolveDependency_complete (source : Nat) {dependency : String × String} {candidate : Nat}
    (satisfying : Satisfying libraries dependency candidate) :
    ∃ resolved, resolveDependency libraries librariesByName source dependency = .ok resolved := by
  obtain ⟨member,expression,parsed,accepted⟩ := satisfying
  have inside := (librariesByName.perm dependency.1).mem_iff.2 member
  have present : librariesByName.equalRange dependency.1 ≠ [] := List.ne_nil_of_mem inside
  rw [resolveDependency]
  rw [if_neg present,parsed]
  dsimp only
  cases found : bestMatch libraries expression (librariesByName.equalRange dependency.1) none with
  | none =>
    rw [(bestMatch_none.1 found).2 candidate inside] at accepted
    cases accepted
  | some target => exact ⟨_,rfl⟩

end Resolution

section Collection

variable {α β γ : Type} {resolve : α → Except String β} {items : List α}

theorem mapM_ok {results : List β} (done : items.mapM resolve = .ok results) :
    List.Forall₂ (fun item result => resolve item = .ok result) items results := by
  induction items generalizing results with
  | nil =>
    cases done
    exact .nil
  | cons item items ih =>
    rw [List.mapM_cons] at done
    cases first : resolve item with
    | error message =>
      rw [first] at done
      cases done
    | ok result =>
      rw [first] at done
      cases rest : items.mapM resolve with
      | error message =>
        rw [rest] at done
        cases done
      | ok results =>
        rw [rest] at done
        cases done
        exact .cons first (ih rest)

theorem forall₂_left {relation : α → β → Prop} {results : List β} (all : List.Forall₂ relation items results) :
    ∀ item ∈ items, ∃ result ∈ results, relation item result := by
  induction all with
  | nil => exact List.forall_mem_nil _
  | cons first rest ih =>
    rw [List.forall_mem_cons]
    refine ⟨⟨_,List.mem_cons_self,first⟩,fun item member => ?_⟩
    obtain ⟨result,inside,related⟩ := ih item member
    exact ⟨result,List.mem_cons_of_mem _ inside,related⟩

theorem mapM_complete (resolves : ∀ item ∈ items, ∃ result, resolve item = .ok result) :
    ∃ results, items.mapM resolve = .ok results := by
  induction items with
  | nil => exact ⟨[],rfl⟩
  | cons item items ih =>
    rw [List.forall_mem_cons] at resolves
    obtain ⟨⟨result,first⟩,rest⟩ := resolves
    obtain ⟨results,rest⟩ := ih rest
    refine ⟨result :: results,?_⟩
    rw [List.mapM_cons,first,rest]
    rfl

end Collection

section Order

variable {libraries : List ResolvedLibrary} {librariesByName : LibrariesByName libraries} {resolved : List LibraryDependency}

theorem graph_eq {dependencies : List (Nat × String × String)}
    (all : List.Forall₂ (fun dependency result =>
      resolveDependency libraries librariesByName dependency.1 dependency.2 = .ok result) dependencies resolved) :
    (dependencies.filterMap fun dependency =>
      match resolveDependency libraries librariesByName dependency.1 dependency.2 with
      | .ok resolved => some (resolved.source,resolved.target)
      | .error _ => none) = resolved.map fun dependency => (dependency.source,dependency.target) := by
  induction all with
  | nil => rfl
  | cons first rest ih =>
    rw [List.filterMap_cons,first]
    exact congrArg _ ih

theorem graph_edge {edge : Nat × Nat} (member : edge ∈ dependencyGraph libraries librariesByName) :
    edge.1 ∈ List.range libraries.length ∧ edge.2 ∈ List.range libraries.length := by
  obtain ⟨⟨source,dependency⟩,inside,resolved⟩ := List.mem_filterMap.1 member
  dsimp only at resolved
  cases done : resolveDependency libraries librariesByName source dependency with
  | error message =>
    rw [done] at resolved
    cases resolved
  | ok result =>
    rw [done] at resolved
    cases resolved
    obtain ⟨same,-,target,-⟩ := resolveDependency_sound done
    exact ⟨same ▸ (mem_allDependencies.1 inside).1,mem_named target⟩

theorem resolveLibraryDependencies_ok {order : List Nat}
    (done : resolveLibraryDependencies libraries librariesByName = .ok (order,resolved)) :
    List.Forall₂ (fun dependency result => resolveDependency libraries librariesByName dependency.1 dependency.2 = .ok result)
        (allDependencies libraries) resolved ∧
      order = (Dependencies.sort (List.range libraries.length) (dependencyGraph libraries librariesByName)).order ∧
      order.length = libraries.length := by
  rw [resolveLibraryDependencies] at done
  cases all : (allDependencies libraries).mapM fun dependency =>
      resolveDependency libraries librariesByName dependency.1 dependency.2 with
  | error message =>
    rw [all] at done
    cases done
  | ok results =>
    rw [all] at done
    have related := mapM_ok all
    have graph : dependencyGraph libraries librariesByName = _ := graph_eq related
    rw [graph]
    change (if _ then _ else _) = _ at done
    split_ifs at done with partial'
    cases done
    exact ⟨related,rfl,not_not.1 partial'⟩

theorem resolveLibraryDependencies_complete
    (resolves : ∀ dependency ∈ allDependencies libraries,
      ∃ result, resolveDependency libraries librariesByName dependency.1 dependency.2 = .ok result)
    (complete : (Dependencies.sort (List.range libraries.length) (dependencyGraph libraries librariesByName)).order.length =
      libraries.length) : ∃ result, resolveLibraryDependencies libraries librariesByName = .ok result := by
  obtain ⟨results,all⟩ := mapM_complete resolves
  have graph : dependencyGraph libraries librariesByName = _ := graph_eq (mapM_ok all)
  rw [graph] at complete
  rw [resolveLibraryDependencies,all]
  exact ⟨_,if_neg (not_not.2 complete)⟩

end Order

section Loading

variable {libraries : List ResolvedLibrary}

theorem loadEach_sublist (order : List Nat) (loaded : List (String × String)) :
    (loadEach libraries order loaded).Sublist order := by
  induction order generalizing loaded with
  | nil => exact .slnil
  | cons index order ih =>
    rw [loadEach]
    split_ifs
    · exact (ih loaded).cons _
    · exact (ih _).cons_cons _

theorem loadEach_keys (order : List Nat) (loaded : List (String × String)) :
    ((loadEach libraries order loaded).map fun index => loadKey (libraryAt libraries index)).Nodup ∧
      ∀ index ∈ loadEach libraries order loaded, loadKey (libraryAt libraries index) ∉ loaded := by
  induction order generalizing loaded with
  | nil => exact ⟨List.nodup_nil,List.forall_mem_nil _⟩
  | cons index order ih =>
    rw [loadEach]
    split_ifs with known
    · exact ih loaded
    · obtain ⟨nodup,fresh⟩ := ih (loadKey (libraryAt libraries index) :: loaded)
      rw [List.map_cons,List.nodup_cons,List.forall_mem_cons]
      refine ⟨⟨fun again => ?_,nodup⟩,known,fun other member inside => fresh other member (List.mem_cons_of_mem _ inside)⟩
      obtain ⟨other,member,same⟩ := List.mem_map.1 again
      exact fresh other member (List.mem_cons.2 (.inl same))

theorem loadEach_covers (order : List Nat) (loaded : List (String × String)) : ∀ index ∈ order,
    loadKey (libraryAt libraries index) ∈ loaded ∨
      ∃ other ∈ loadEach libraries order loaded, loadKey (libraryAt libraries other) = loadKey (libraryAt libraries index) := by
  induction order generalizing loaded with
  | nil => exact List.forall_mem_nil _
  | cons head order ih =>
    rw [List.forall_mem_cons,loadEach]
    split_ifs with known
    · exact ⟨.inl known,ih loaded⟩
    · refine ⟨.inr ⟨head,List.mem_cons_self,rfl⟩,fun index member => ?_⟩
      obtain inside | ⟨other,kept,same⟩ := ih (loadKey (libraryAt libraries head) :: loaded) index member
      · obtain same | inside := List.mem_cons.1 inside
        · exact .inr ⟨head,List.mem_cons_self,same.symm⟩
        · exact .inl inside
      · exact .inr ⟨other,List.mem_cons_of_mem _ kept,same⟩

theorem loadEach_before {order : List Nat} (nodup : order.Nodup) {loaded : List (String × String)} {first second : Nat}
    (before : Before order first second) (kept : second ∈ loadEach libraries order loaded) :
    loadKey (libraryAt libraries first) ∈ loaded ∨ ∃ other, loadKey (libraryAt libraries other) =
      loadKey (libraryAt libraries first) ∧ Before (loadEach libraries order loaded) other second := by
  induction order generalizing loaded with
  | nil => cases kept
  | cons index order ih =>
    obtain ⟨outside,nodup⟩ := List.nodup_cons.1 nodup
    obtain ⟨front,back,split,member⟩ := before
    cases front with
    | nil => cases member
    | cons head front =>
      rw [List.cons_append,List.cons.injEq] at split
      obtain ⟨rfl,rfl⟩ := split
      have ne : second ≠ index := fun same => outside (same ▸ List.mem_append_right _ List.mem_cons_self)
      rw [loadEach] at kept ⊢
      split_ifs at kept ⊢ with known
      · obtain rfl | inside := List.mem_cons.1 member
        · exact .inl known
        · exact ih nodup ⟨front,back,rfl,inside⟩ kept
      · have kept := (List.mem_cons.1 kept).resolve_left ne
        have loads : ∀ other, loadKey (libraryAt libraries other) = loadKey (libraryAt libraries index) →
            ∃ first, loadKey (libraryAt libraries first) = loadKey (libraryAt libraries other) ∧
              Before (index :: loadEach libraries (front ++ second :: back) (loadKey (libraryAt libraries index) :: loaded))
                first second := by
          intro other same
          obtain ⟨front',back',split⟩ := List.append_of_mem kept
          exact ⟨index,same.symm,index :: front',back',congrArg (index :: ·) split,List.mem_cons_self⟩
        obtain rfl | inside := List.mem_cons.1 member
        · exact .inr (loads first rfl)
        · obtain key | ⟨other,same,before⟩ := ih nodup ⟨front,back,rfl,inside⟩ kept
          · obtain same | key := List.mem_cons.1 key
            · exact .inr (loads first same)
            · exact .inl key
          · exact .inr ⟨other,same,Before.cons index before⟩

end Loading

/-- The dependencies are resolved exactly when each has a library that satisfies it and there is no cycle. Then the load
order is one of all libraries, each after those that its dependencies are resolved to. Of each name and version one library
is loaded in the end, in that order: one of the same name and version as a library that is needed is loaded before. -/
theorem resolveLibraryDependencies_iff (libraries : List ResolvedLibrary) (librariesByName : LibrariesByName libraries) :
    ((∃ result, resolveLibraryDependencies libraries librariesByName = .ok result) ↔
      (∀ source ∈ List.range libraries.length, ∀ dependency ∈ (libraryAt libraries source).dependencies,
        (expressionOf dependency.2).isSome = true ∧ ∃ candidate, Satisfying libraries dependency candidate) ∧
      Acyclic (dependencyGraph libraries librariesByName)) ∧
    ∀ order resolved, resolveLibraryDependencies libraries librariesByName = .ok (order,resolved) →
      order.Perm (List.range libraries.length) ∧
      (∀ source ∈ List.range libraries.length, ∀ dependency ∈ (libraryAt libraries source).dependencies,
        ∃ result ∈ resolved, result.source = source ∧ result.name = dependency.1 ∧
          Satisfying libraries dependency result.target ∧ Before order result.target source) ∧
      (loadEach libraries order []).Sublist order ∧
      ((loadEach libraries order []).map fun index => loadKey (libraryAt libraries index)).Nodup ∧
      (∀ index ∈ List.range libraries.length, ∃ loaded ∈ loadEach libraries order [],
        loadKey (libraryAt libraries loaded) = loadKey (libraryAt libraries index)) ∧
      ∀ result ∈ resolved, result.source ∈ loadEach libraries order [] →
        ∃ loaded, loadKey (libraryAt libraries loaded) = loadKey (libraryAt libraries result.target) ∧
          (result.target ∈ loadEach libraries order [] → loaded = result.target) ∧
          Before (loadEach libraries order []) loaded result.source := by
  have distinct : (List.range libraries.length).Nodup := List.nodup_range
  have sources : ∀ edge ∈ dependencyGraph libraries librariesByName, edge.1 ∈ List.range libraries.length :=
    fun edge member => (graph_edge member).1
  have targets : ∀ edge ∈ dependencyGraph libraries librariesByName, edge.2 ∈ List.range libraries.length :=
    fun edge member => (graph_edge member).2
  have length : (List.range libraries.length).length = libraries.length := List.length_range
  have resolvedEach : ∀ {order resolved}, resolveLibraryDependencies libraries librariesByName = .ok (order,resolved) →
      ∀ source ∈ List.range libraries.length, ∀ dependency ∈ (libraryAt libraries source).dependencies,
        ∃ result ∈ resolved, resolveDependency libraries librariesByName source dependency = .ok result := by
    intro order resolved done source inside dependency among
    obtain ⟨related,-,-⟩ := resolveLibraryDependencies_ok done
    exact forall₂_left related _ (mem_allDependencies.2 ⟨inside,among⟩)
  refine ⟨⟨?_,?_⟩,fun order resolved done => ?_⟩
  · rintro ⟨⟨order,resolved⟩,done⟩
    obtain ⟨-,rfl,complete⟩ := resolveLibraryDependencies_ok done
    refine ⟨fun source inside dependency among => ?_,
      Dependencies.acyclic_of_complete distinct sources (complete.trans length.symm)⟩
    obtain ⟨result,-,resolves⟩ := resolvedEach done source inside dependency among
    obtain ⟨-,-,satisfying⟩ := resolveDependency_sound resolves
    obtain ⟨-,expression,parsed,-⟩ := id satisfying
    exact ⟨Option.isSome_iff_exists.2 ⟨expression,parsed⟩,result.target,satisfying⟩
  · rintro ⟨satisfied,acyclic⟩
    apply resolveLibraryDependencies_complete
    · rintro ⟨source,dependency⟩ member
      obtain ⟨inside,among⟩ := mem_allDependencies.1 member
      obtain ⟨-,candidate,satisfying⟩ := satisfied source inside dependency among
      exact resolveDependency_complete source satisfying
    · exact (Dependencies.complete_of_acyclic distinct sources targets acyclic).trans length
  · obtain ⟨related,rfl,complete⟩ := resolveLibraryDependencies_ok done
    have perm := Dependencies.order_perm distinct sources (complete.trans length.symm)
    have before : ∀ result ∈ resolved, Before (Dependencies.sort (List.range libraries.length)
        (dependencyGraph libraries librariesByName)).order result.target result.source := by
      intro result member
      have edge : (result.source,result.target) ∈ dependencyGraph libraries librariesByName := by
        rw [show dependencyGraph libraries librariesByName = _ from graph_eq related]
        exact List.mem_map_of_mem member
      exact Dependencies.order_before distinct sources (perm.mem_iff.2 (sources _ edge)) edge
    refine ⟨perm,fun source inside dependency among => ?_,loadEach_sublist _ _,(loadEach_keys _ []).1,
      fun index inside => (loadEach_covers _ [] index (perm.mem_iff.2 inside)).resolve_left List.not_mem_nil,
      fun result member kept => ?_⟩
    · obtain ⟨result,member,resolves⟩ := resolvedEach done source inside dependency among
      obtain ⟨rfl,name,satisfying⟩ := resolveDependency_sound resolves
      exact ⟨result,member,rfl,name,satisfying,before result member⟩
    · obtain none | loaded := loadEach_before (perm.nodup_iff.2 distinct) (before result member) kept
      · cases none
      · obtain ⟨other,same,front,back,split,among⟩ := loaded
        refine ⟨other,same,fun present => ?_,front,back,split,among⟩
        apply List.inj_on_of_nodup_map (loadEach_keys _ []).1 _ present same
        rw [split]
        exact List.mem_append_left _ among

def insertionOrder (libraries : List ResolvedLibrary) : LibrariesByName libraries := ⟨named libraries,fun _ => .refl _⟩

/-- The greatest of the versions that are compatible is loaded first. -/
example : (resolveLibraryDependencies [⟨"/app","app","1.0.0",[("core","^1.2.0")]⟩,⟨"/core1","core","1.2.5",[]⟩,
    ⟨"/core2","core","1.10.0",[]⟩,⟨"/core3","core","2.0.0",[]⟩] (insertionOrder _)).toOption.map
      (fun result => result.2.map LibraryDependency.target) = some [2] := by
  decide +kernel

end ShardScript.Libraries
