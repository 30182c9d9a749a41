import Mathlib.Data.List.Basic
import Mathlib.Logic.Relation

/-! Depth-first search. It finds what can be reached, and comes to an end in every finite graph. -/
namespace ShardScript.Library

section Loop

/-- A loop whose steps all succeed succeeds. What a step does for its item is left of it by the others. -/
theorem exists_foldlM {State Item : Type} (visit : State → Item → Option State) (Extends : State → State → Prop)
    (Ready : State → Prop) (Done : Item → State → Prop) (refl : ∀ state,Extends state state)
    (trans : ∀ {first second third},Extends first second → Extends second third → Extends first third)
    (ready : ∀ {first second},Ready first → Extends first second → Ready second)
    (kept : ∀ {item first second},Done item first → Extends first second → Done item second) {items : List Item}
    (step : ∀ item ∈ items,∀ state,Ready state → ∃ after,visit state item = some after ∧ Extends state after ∧ Done item after)
    {before : State} (start : Ready before) :
    ∃ after,items.foldlM visit before = some after ∧ Extends before after ∧ ∀ item ∈ items,Done item after := by
  induction items generalizing before with
  | nil => exact ⟨before,rfl,refl before,nofun⟩
  | cons item items ih =>
      obtain ⟨middle,visited,extended,done⟩ := step item List.mem_cons_self before start
      obtain ⟨after,others,further,rest⟩ :=
        ih (fun item member => step item (List.mem_cons_of_mem _ member)) (ready start extended)
      refine ⟨after,?_,trans extended further,List.forall_mem_cons.mpr ⟨kept done further,rest⟩⟩
      rw [List.foldlM_cons,visited]
      exact others

end Loop

theorem not_transGen_of_acc {Node : Type} {Leads : Node → Node → Prop} {node : Node} (ends : Acc Leads node) :
    ¬ Relation.TransGen Leads node node := by
  have closure := ends.transGen
  clear ends
  induction closure with
  | intro node _ ih => exact fun cycle => ih node cycle cycle

variable {Node : Type} (admits : Node → Bool) (next : Node → List Node)

section Search

variable [DecidableEq Node]

/-- The nodes that have been visited, in the order of the visits. The fuel bounds how deep the search goes. -/
def explore : Nat → List Node → List Node → Option (List Node)
  | 0,_,_ => none
  | fuel + 1,nodes,visited =>
      nodes.foldlM (fun visited node =>
        if admits node = false ∨ node ∈ visited then some visited
        else explore fuel (next node) (visited ++ [node])) visited

end Search

inductive Reaches (nodes : List Node) : Node → Prop where
  | start {node : Node} : node ∈ nodes → admits node = true → Reaches nodes node
  | step {node node' : Node} : Reaches nodes node → node' ∈ next node → admits node' = true → Reaches nodes node'

variable {admits next}

theorem Reaches.of_mem {nodes nodes' : List Node} {node : Node} (reaches : Reaches admits next nodes node)
    (known : ∀ start ∈ nodes,admits start = true → Reaches admits next nodes' start) : Reaches admits next nodes' node := by
  induction reaches with
  | start member admitted => exact known _ member admitted
  | step _ member admitted ih => exact .step ih member admitted

variable [DecidableEq Node]

theorem explore_cons (fuel : Nat) (node : Node) (nodes visited : List Node) :
    explore admits next (fuel + 1) (node :: nodes) visited =
      (if admits node = false ∨ node ∈ visited then some visited
        else explore admits next fuel (next node) (visited ++ [node])).bind (explore admits next (fuel + 1) nodes) := rfl

theorem explore_append (fuel : Nat) (nodes nodes' visited : List Node) :
    explore admits next fuel (nodes ++ nodes') visited =
      (explore admits next fuel nodes visited).bind (explore admits next fuel nodes') := by
  cases fuel with
  | zero => rfl
  | succ fuel => exact List.foldlM_append

theorem prefix_explore {fuel : Nat} {nodes visited result : List Node}
    (found : explore admits next fuel nodes visited = some result) : visited <+: result := by
  induction fuel generalizing nodes visited result with
  | zero => cases found
  | succ fuel ih =>
      induction nodes generalizing visited with
      | nil =>
          cases found
          exact List.prefix_refl _
      | cons node nodes inner =>
          rw [explore_cons] at found
          obtain ⟨middle,here,rest⟩ := Option.bind_eq_some_iff.mp found
          refine List.IsPrefix.trans ?_ (inner rest)
          split at here
          · cases here
            exact List.prefix_refl _
          · exact (List.prefix_append ..).trans (ih here)

theorem explore_more {fuel : Nat} {nodes visited result : List Node}
    (found : explore admits next fuel nodes visited = some result) :
    explore admits next (fuel + 1) nodes visited = some result := by
  induction fuel generalizing nodes visited result with
  | zero => cases found
  | succ fuel ih =>
      induction nodes generalizing visited with
      | nil => exact found
      | cons node nodes inner =>
          rw [explore_cons] at found ⊢
          obtain ⟨middle,here,rest⟩ := Option.bind_eq_some_iff.mp found
          apply Option.bind_eq_some_iff.mpr
          refine ⟨middle,?_,inner rest⟩
          split at here
          · next skipped => rwa [if_pos skipped]
          · next fresh =>
              rw [if_neg fresh]
              exact ih here

theorem explore_extends {fuel more : Nat} (greater : fuel ≤ more) {nodes visited result : List Node}
    (found : explore admits next fuel nodes visited = some result) : explore admits next more nodes visited = some result := by
  induction greater with
  | refl => exact found
  | step _ ih => exact explore_more ih

theorem reaches_of_mem_explore {fuel : Nat} {nodes visited result : List Node}
    (found : explore admits next fuel nodes visited = some result) {node : Node} (member : node ∈ result) :
    node ∈ visited ∨ Reaches admits next nodes node := by
  induction fuel generalizing nodes visited result with
  | zero => cases found
  | succ fuel ih =>
      induction nodes generalizing visited with
      | nil =>
          cases found
          exact .inl member
      | cons first nodes inner =>
          rw [explore_cons] at found
          obtain ⟨middle,here,rest⟩ := Option.bind_eq_some_iff.mp found
          rcases inner rest with before | reached
          · split at here
            · cases here
              exact .inl before
            · next fresh =>
                have admitted : admits first = true := by
                  rw [not_or,Bool.not_eq_false] at fresh
                  exact fresh.1
                have root : Reaches admits next (first :: nodes) first := .start List.mem_cons_self admitted
                rcases ih here before with old | reached
                · rcases List.mem_append.mp old with old | last
                  · exact .inl old
                  · rw [List.mem_singleton.mp last]
                    exact .inr root
                · exact .inr (reached.of_mem fun _ member admitted => .step root member admitted)
          · exact .inr (reached.of_mem fun _ member admitted => .start (List.mem_cons_of_mem _ member) admitted)

/-- What a search adds: its start, and whatever comes next to something that it adds. -/
structure Explored (admits : Node → Bool) (next : Node → List Node) (nodes visited result : List Node) : Prop where
  kept : ∀ node ∈ visited,node ∈ result
  start : ∀ node ∈ nodes,admits node = true → node ∈ result
  closed : ∀ node ∈ result,node ∉ visited → ∀ node' ∈ next node,admits node' = true → node' ∈ result

theorem explore_explored {fuel : Nat} {nodes visited result : List Node}
    (found : explore admits next fuel nodes visited = some result) : Explored admits next nodes visited result := by
  induction fuel generalizing nodes visited result with
  | zero => cases found
  | succ fuel ih =>
      induction nodes generalizing visited with
      | nil =>
          cases found
          exact ⟨fun _ member => member,nofun,fun _ member other => absurd member other⟩
      | cons first nodes inner =>
          rw [explore_cons] at found
          obtain ⟨middle,here,rest⟩ := Option.bind_eq_some_iff.mp found
          have later := inner rest
          split at here
          · next skipped =>
              cases here
              refine ⟨later.kept,fun node member admitted => ?_,later.closed⟩
              rcases List.mem_cons.mp member with rfl | member
              · rcases skipped with rejected | old
                · rw [rejected] at admitted
                  cases admitted
                · exact later.kept _ old
              · exact later.start _ member admitted
          · have below := ih here
            have visit : first ∈ middle := below.kept _ (List.mem_append_right _ List.mem_cons_self)
            refine ⟨fun node member => later.kept _ (below.kept _ (List.mem_append_left _ member)),
              fun node member admitted => ?_,fun node member fresh node' after admitted => ?_⟩
            · rcases List.mem_cons.mp member with rfl | member
              · exact later.kept _ visit
              · exact later.start _ member admitted
            · by_cases early : node ∈ middle
              · apply later.kept
                by_cases same : node = first
                · exact below.start _ (same ▸ after) admitted
                · have fresh' : node ∉ visited ++ [first] := fun old =>
                    (List.mem_append.mp old).elim fresh fun last => same (List.mem_singleton.mp last)
                  exact below.closed _ early fresh' _ after admitted
              · exact later.closed _ member early _ after admitted

theorem mem_explore {fuel : Nat} {nodes result : List Node} (found : explore admits next fuel nodes [] = some result)
    {node : Node} : node ∈ result ↔ Reaches admits next nodes node := by
  constructor
  · intro member
    exact (reaches_of_mem_explore found member).resolve_left List.not_mem_nil
  · intro reaches
    have explored := explore_explored found
    induction reaches with
    | start member admitted => exact explored.start _ member admitted
    | step _ member admitted ih => exact explored.closed _ ih List.not_mem_nil _ member admitted

section Termination

variable {nodes visited : List Node} {graph : List Node}

def unvisited (graph visited : List Node) : Nat := (graph.filter (· ∉ visited)).length

theorem unvisited_le {visited' : List Node} (kept : ∀ node ∈ visited,node ∈ visited') :
    unvisited graph visited' ≤ unvisited graph visited := by
  apply List.Sublist.length_le
  apply List.monotone_filter_right
  intro node
  rw [decide_eq_true_eq,decide_eq_true_eq]
  exact mt (kept node)

theorem unvisited_lt {node : Node} (inside : node ∈ graph) (fresh : node ∉ visited) :
    unvisited graph (visited ++ [node]) < unvisited graph visited := by
  have smaller : unvisited graph (visited ++ [node]) ≤ unvisited graph visited :=
    unvisited_le fun _ member => List.mem_append_left _ member
  refine Nat.lt_of_le_of_ne smaller fun same => ?_
  have sublist : (graph.filter (· ∉ visited ++ [node])).Sublist (graph.filter (· ∉ visited)) := by
    apply List.monotone_filter_right
    intro other
    rw [decide_eq_true_eq,decide_eq_true_eq]
    exact mt (List.mem_append_left _)
  have equal := sublist.eq_of_length same
  have member : node ∈ graph.filter (· ∉ visited) := List.mem_filter.mpr ⟨inside,decide_eq_true fresh⟩
  rw [← equal] at member
  exact of_decide_eq_true (List.mem_filter.mp member).2 (List.mem_append_right _ List.mem_cons_self)

theorem exists_explore {fuel : Nat} (bounded : ∀ node ∈ graph,∀ node' ∈ next node,node' ∈ graph)
    (inside : ∀ node ∈ nodes,node ∈ graph) (enough : unvisited graph visited < fuel) :
    ∃ result,explore admits next fuel nodes visited = some result := by
  induction fuel generalizing nodes visited with
  | zero => cases enough
  | succ fuel ih =>
      induction nodes generalizing visited with
      | nil => exact ⟨visited,rfl⟩
      | cons node nodes inner =>
          rw [List.forall_mem_cons] at inside
          rw [explore_cons]
          split
          · exact inner inside.2 enough
          · next fresh =>
              rw [not_or] at fresh
              have fewer : unvisited graph (visited ++ [node]) < unvisited graph visited := unvisited_lt inside.1 fresh.2
              obtain ⟨middle,here⟩ := ih (bounded node inside.1) (Nat.lt_of_lt_of_le fewer (Nat.lt_succ_iff.mp enough))
              rw [here]
              have kept := (explore_explored here).kept
              apply inner inside.2
              refine Nat.lt_of_le_of_lt ?_ enough
              exact unvisited_le fun _ member => kept _ (List.mem_append_left _ member)

end Termination

end ShardScript.Library
