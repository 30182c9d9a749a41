import Mathlib.Data.Fintype.Card
import Mathlib.Data.List.Nodup
import Mathlib.Data.List.Perm.Subperm
import Mathlib.Data.Set.Finite.Basic
import Mathlib.Logic.Relation
import Mathlib.Order.WellFounded

/-! Kahn's algorithm: an order of nodes in which each comes after all that it depends on. -/
namespace ShardScript.Dependencies

variable {α : Type}

def DependsOn (edges : List (α × α)) (node target : α) : Prop := (node,target) ∈ edges

def Acyclic (edges : List (α × α)) : Prop := ∀ node, ¬ Relation.TransGen (DependsOn edges) node node

def Before (order : List α) (first second : α) : Prop := ∃ front back, order = front ++ second :: back ∧ first ∈ front

theorem Before.cons {order : List α} {first second : α} (node : α) (before : Before order first second) :
    Before (node :: order) first second := by
  obtain ⟨front,back,rfl,member⟩ := before
  exact ⟨node :: front,back,rfl,List.mem_cons_of_mem _ member⟩

variable [DecidableEq α]

def dependents (edges : List (α × α)) (target : α) : List α := (edges.filter fun edge => edge.2 = target).map Prod.fst

structure Sorting (α : Type) where
  inDegree : α → Nat
  queue : List α
  order : List α

def release (sorting : Sorting α) (node : α) : Sorting α :=
  { sorting with
    inDegree := Function.update sorting.inDegree node (sorting.inDegree node - 1)
    queue := if sorting.inDegree node - 1 = 0 then sorting.queue ++ [node] else sorting.queue }

def start (nodes : List α) (edges : List (α × α)) : Sorting α where
  inDegree node := edges.countP fun edge => edge.1 = node
  queue := nodes.filter fun node => edges.countP (fun edge => edge.1 = node) = 0
  order := []

def drain (edges : List (α × α)) : Nat → Sorting α → Sorting α
  | 0,sorting => sorting
  | fuel + 1,sorting =>
      match sorting.queue with
      | [] => sorting
      | current :: queue =>
          drain edges fuel ((dependents edges current).foldl release
            { sorting with queue, order := sorting.order ++ [current] })

def sort (nodes : List α) (edges : List (α × α)) : Sorting α := drain edges nodes.length (start nodes edges)

/-- The degree of a node counts its edges to nodes that are not in the order, and it is queued when there is none. -/
structure Valid (nodes : List α) (edges : List (α × α)) (sorting : Sorting α) : Prop where
  nodup : (sorting.order ++ sorting.queue).Nodup
  among : ∀ node ∈ sorting.order ++ sorting.queue, node ∈ nodes
  degree : ∀ node, sorting.inDegree node = edges.countP fun edge => edge.1 = node ∧ edge.2 ∉ sorting.order
  ready : ∀ node ∈ nodes, (node ∈ sorting.order ++ sorting.queue ↔ sorting.inDegree node = 0)
  after : ∀ front node back, sorting.order = front ++ node :: back → ∀ target, DependsOn edges node target → target ∈ front

variable {nodes : List α} {edges : List (α × α)} {sorting : Sorting α}

theorem count_dependents (edges : List (α × α)) (node target : α) :
    (dependents edges target).count node = edges.countP fun edge => edge.1 = node ∧ edge.2 = target := by
  induction edges with
  | nil => rfl
  | cons edge edges ih =>
    rw [dependents] at ih
    rw [dependents,List.filter_cons,List.countP_cons]
    by_cases same : edge.2 = target
    · rw [if_pos (decide_eq_true same),List.map_cons,List.count_cons,ih]
      simp [same]
    · rw [if_neg (by simpa using same),ih]
      simp [same]

theorem degree_append (edges : List (α × α)) {order : List α} {current : α} (outside : current ∉ order) (node : α) :
    (edges.countP fun edge => edge.1 = node ∧ edge.2 ∉ order) =
      (edges.countP fun edge => edge.1 = node ∧ edge.2 ∉ order ++ [current]) + (dependents edges current).count node := by
  rw [count_dependents]
  induction edges with
  | nil => rfl
  | cons edge edges ih =>
    rw [List.countP_cons,List.countP_cons,List.countP_cons,ih]
    by_cases same : edge.2 = current
    · simp [same,outside]
      omega
    · simp [same]
      omega

theorem foldl_release (released : List α) (sorting : Sorting α) (enough : ∀ node, released.count node ≤ sorting.inDegree node) :
    (∀ node, (released.foldl release sorting).inDegree node = sorting.inDegree node - released.count node) ∧
    ∃ added : List α, (released.foldl release sorting).queue = sorting.queue ++ added ∧ added.Nodup ∧
      ∀ node, node ∈ added ↔ node ∈ released ∧ sorting.inDegree node = released.count node := by
  induction released generalizing sorting with
  | nil => exact ⟨fun node => rfl,[],(List.append_nil _).symm,List.nodup_nil,by simp⟩
  | cons first released ih =>
    have degree : ∀ node, (release sorting first).inDegree node =
        if node = first then sorting.inDegree node - 1 else sorting.inDegree node := by
      intro node
      change Function.update sorting.inDegree first _ node = _
      by_cases same : node = first
      · rw [same,Function.update_self,if_pos rfl]
      · rw [Function.update_of_ne same,if_neg same]
    have counts : ∀ node, (first :: released).count node = released.count node + if node = first then 1 else 0 := by
      intro node
      by_cases same : node = first
      · rw [same,List.count_cons_self,if_pos rfl]
      · rw [List.count_cons_of_ne (Ne.symm same),if_neg same,Nat.add_zero]
    obtain ⟨degrees,added,queue,nodup,members⟩ := ih (release sorting first) fun node => by
      have bound := enough node
      rw [counts] at bound
      rw [degree]
      split_ifs at bound ⊢ <;> omega
    refine ⟨fun node => ?_,?_⟩
    · rw [List.foldl_cons,degrees,degree,counts]
      split_ifs <;> omega
    · have bound := enough first
      rw [counts,if_pos rfl] at bound
      rw [List.foldl_cons,queue]
      by_cases last : sorting.inDegree first - 1 = 0
      · have none : released.count first = 0 := by omega
        have outside : first ∉ released := List.count_eq_zero.1 none
        refine ⟨first :: added,?_,List.nodup_cons.2 ⟨fun inside => outside ((members first).1 inside).1,nodup⟩,fun node => ?_⟩
        · rw [release,if_pos last,List.append_assoc]
          rfl
        · rw [List.mem_cons,members,degree,List.mem_cons,counts]
          by_cases same : node = first
          · rw [if_pos same,if_pos same,same]
            exact ⟨fun _ => ⟨.inl rfl,by omega⟩,fun _ => .inl rfl⟩
          · rw [if_neg same,if_neg same]
            simp [same]
      · refine ⟨added,?_,nodup,fun node => ?_⟩
        · rw [release,if_neg last]
        · rw [members,degree,List.mem_cons,counts]
          by_cases same : node = first
          · rw [if_pos same,if_pos same,same]
            constructor
            · rintro ⟨-,count⟩
              exact ⟨.inl rfl,by omega⟩
            · rintro ⟨-,count⟩
              have positive : 0 < released.count first := by omega
              exact ⟨List.count_pos_iff.1 positive,by omega⟩
          · rw [if_neg same,if_neg same]
            simp [same]

theorem foldl_order (released : List α) (sorting : Sorting α) : (released.foldl release sorting).order = sorting.order := by
  induction released generalizing sorting with
  | nil => rfl
  | cons first released ih => exact ih (release sorting first)

theorem start_valid (nodup : nodes.Nodup) : Valid nodes edges (start nodes edges) where
  nodup := nodup.filter _
  among node member := (List.mem_filter.1 member).1
  degree node := by
    apply List.countP_congr
    intro edge _
    simp [start]
  ready node member := by
    change node ∈ List.filter _ nodes ↔ _
    rw [List.mem_filter,decide_eq_true_eq]
    exact and_iff_right member
  after front node back none := by simp [start] at none

theorem Valid.step (valid : Valid nodes edges sorting) (sources : ∀ edge ∈ edges, edge.1 ∈ nodes) {current : α} {queue : List α}
    (first : sorting.queue = current :: queue) : Valid nodes edges
      ((dependents edges current).foldl release { sorting with queue, order := sorting.order ++ [current] }) := by
  have nodup := valid.nodup
  rw [first,List.append_cons] at nodup
  have outside : current ∉ sorting.order := by
    intro inside
    exact (List.nodup_append'.1 (List.nodup_append'.1 nodup).1).2.2 inside List.mem_cons_self
  have split := degree_append edges outside
  have enough : ∀ node, (dependents edges current).count node ≤ sorting.inDegree node := by
    intro node
    rw [valid.degree,split]
    exact Nat.le_add_left _ _
  have order := foldl_order (dependents edges current) { sorting with queue, order := sorting.order ++ [current] }
  obtain ⟨degrees,added,queued,distinct,members⟩ := foldl_release (dependents edges current)
    { sorting with queue, order := sorting.order ++ [current] } enough
  dsimp only at order degrees queued members
  have remaining : ∀ node, sorting.inDegree node - (dependents edges current).count node =
      edges.countP fun edge => edge.1 = node ∧ edge.2 ∉ sorting.order ++ [current] := by
    intro node
    rw [valid.degree,split,Nat.add_sub_cancel]
  have member : ∀ node, node ∈ (sorting.order ++ [current]) ++ queue ↔ node ∈ sorting.order ++ sorting.queue := by
    intro node
    rw [first,List.append_assoc]
    rfl
  -- A dependent of the current node still has an edge to it, and so was not queued before.
  have inside : ∀ node ∈ added, node ∈ nodes := by
    intro node added
    obtain ⟨edge,kept,rfl⟩ := List.mem_map.1 ((members node).1 added).1
    exact sources edge (List.mem_filter.1 kept).1
  have fresh : ∀ node ∈ added, node ∉ (sorting.order ++ [current]) ++ queue := by
    intro node member' queued
    have positive := List.count_pos_iff.2 ((members node).1 member').1
    have bound := enough node
    rw [(valid.ready node (inside node member')).1 ((member node).1 queued)] at bound
    omega
  refine ⟨?_,fun node => ?_,fun node => ?_,fun node known => ?_,?_⟩
  · rw [order,queued,← List.append_assoc]
    exact List.nodup_append'.2 ⟨nodup,distinct,fun node old new => fresh node new old⟩
  · rw [order,queued,← List.append_assoc,List.mem_append]
    rintro (old | new)
    · exact valid.among node ((member node).1 old)
    · exact inside node new
  · rw [degrees,remaining,order]
  · rw [order,queued,← List.append_assoc,List.mem_append,member,degrees,valid.ready node known,members]
    constructor
    · rintro (none | ⟨-,last⟩)
      · rw [none,Nat.zero_sub]
      · rw [last,Nat.sub_self]
    · intro none
      have bound := enough node
      by_cases depends : node ∈ dependents edges current
      · exact .inr ⟨depends,by omega⟩
      · rw [List.count_eq_zero.2 depends] at none
        exact .inl none
  · rw [order]
    intro front node back split target depends
    obtain rfl | ⟨back,last,rfl⟩ := List.eq_nil_or_concat back
    · obtain ⟨rfl,same⟩ := List.append_inj' split rfl
      cases same
      have queued : current ∈ sorting.order ++ sorting.queue := by
        rw [first]
        exact List.mem_append_right _ List.mem_cons_self
      have none := (valid.ready current (valid.among current queued)).1 queued
      rw [valid.degree,List.countP_eq_zero] at none
      by_contra missing
      exact none _ depends (decide_eq_true ⟨rfl,missing⟩)
    · rw [List.concat_eq_append,← List.cons_append,← List.append_assoc] at split
      exact valid.after front node back (List.append_inj' split rfl).1 target depends

theorem Valid.drain (valid : Valid nodes edges sorting) (sources : ∀ edge ∈ edges, edge.1 ∈ nodes) (fuel : Nat) :
    Valid nodes edges (drain edges fuel sorting) := by
  induction fuel generalizing sorting with
  | zero => exact valid
  | succ fuel ih =>
    rw [Dependencies.drain]
    cases queue : sorting.queue with
    | nil => exact valid
    | cons current rest => exact ih (valid.step sources queue)

theorem Valid.length_le (valid : Valid nodes edges sorting) : sorting.order.length + sorting.queue.length ≤ nodes.length := by
  rw [← List.length_append]
  exact (valid.nodup.subperm valid.among).length_le

theorem Valid.drain_queue (valid : Valid nodes edges sorting) (sources : ∀ edge ∈ edges, edge.1 ∈ nodes) {fuel : Nat}
    (enough : nodes.length ≤ sorting.order.length + fuel) : (Dependencies.drain edges fuel sorting).queue = [] := by
  induction fuel generalizing sorting with
  | zero =>
    have bound := valid.length_le
    change sorting.queue = []
    exact List.eq_nil_of_length_eq_zero (by omega)
  | succ fuel ih =>
    rw [Dependencies.drain]
    cases queue : sorting.queue with
    | nil => exact queue
    | cons current rest =>
      apply ih (valid.step sources queue)
      have order := (foldl_order (dependents edges current) { sorting with queue := rest, order := sorting.order ++ [current] })
      rw [order,List.length_append]
      exact Nat.le_trans enough (by simp; omega)

section Sorted

variable (distinct : nodes.Nodup) (sources : ∀ edge ∈ edges, edge.1 ∈ nodes)
include distinct sources

theorem sort_valid : Valid nodes edges (sort nodes edges) := (start_valid distinct).drain sources nodes.length

theorem sort_queue : (sort nodes edges).queue = [] :=
  (start_valid distinct).drain_queue sources (Nat.le_add_left _ _)

theorem order_perm (complete : (sort nodes edges).order.length = nodes.length) : (sort nodes edges).order.Perm nodes := by
  have valid := sort_valid distinct sources
  have nodup := (List.nodup_append'.1 valid.nodup).1
  have among : ∀ node ∈ (sort nodes edges).order, node ∈ nodes := fun node member =>
    valid.among node (List.mem_append_left _ member)
  exact (nodup.subperm among).perm_of_length_le (Nat.le_of_eq complete.symm)

theorem order_before {node target : α} (member : node ∈ (sort nodes edges).order) (depends : DependsOn edges node target) :
    Before (sort nodes edges).order target node := by
  obtain ⟨front,back,split⟩ := List.append_of_mem member
  exact ⟨front,back,split,(sort_valid distinct sources).after front node back split target depends⟩

theorem front_transGen {node target : α} (depends : Relation.TransGen (DependsOn edges) node target) :
    ∀ front back, (sort nodes edges).order = front ++ node :: back → target ∈ front := by
  have after := (sort_valid distinct sources).after
  induction depends with
  | single depends => exact fun front back split => after front node back split _ depends
  | tail _ depends ih =>
    intro front back split
    obtain ⟨front',back',rfl⟩ := List.append_of_mem (ih front back split)
    rw [List.append_assoc,List.cons_append] at split
    exact List.mem_append_left _ (after front' _ _ split _ depends)

theorem acyclic_of_complete (complete : (sort nodes edges).order.length = nodes.length) : Acyclic edges := by
  intro node cycle
  obtain ⟨target,depends,-⟩ := Relation.TransGen.head'_iff.1 cycle
  have member := (order_perm distinct sources complete).mem_iff.2 (sources _ depends)
  obtain ⟨front,back,split⟩ := List.append_of_mem member
  have again := front_transGen distinct sources cycle front back split
  have nodup := (List.nodup_append'.1 (sort_valid distinct sources).nodup).1
  rw [split] at nodup
  exact (List.nodup_append'.1 nodup).2.2 again List.mem_cons_self

theorem complete_of_acyclic (targets : ∀ edge ∈ edges, edge.2 ∈ nodes) (acyclic : Acyclic edges) :
    (sort nodes edges).order.length = nodes.length := by
  have valid := sort_valid distinct sources
  have nodup := (List.nodup_append'.1 valid.nodup).1
  apply Nat.le_antisymm
  · have bound := valid.length_le
    omega
  · refine (distinct.subperm fun node member => ?_).length_le
    by_contra missing
    have below : WellFounded fun first second : { node // node ∈ nodes } =>
        Relation.TransGen (DependsOn edges) second.1 first.1 := by
      have transitive : IsTrans { node // node ∈ nodes } fun first second =>
          Relation.TransGen (DependsOn edges) second.1 first.1 := ⟨fun _ _ _ left right => right.trans left⟩
      have irreflexive : Std.Irrefl fun first second : { node // node ∈ nodes } =>
          Relation.TransGen (DependsOn edges) second.1 first.1 := ⟨fun node => acyclic node.1⟩
      have finite : Finite { node // node ∈ nodes } := (List.finite_toSet nodes).to_subtype
      exact Finite.wellFounded_of_trans_of_irrefl _
    obtain ⟨⟨stuck,known⟩,outside,least⟩ := below.has_min { node | node.1 ∉ (sort nodes edges).order } ⟨⟨node,member⟩,missing⟩
    have unqueued : stuck ∉ (sort nodes edges).order ++ (sort nodes edges).queue := by
      rw [sort_queue distinct sources,List.append_nil]
      exact outside
    have positive := mt (valid.ready stuck known).2 unqueued
    rw [valid.degree,← Ne,← Nat.pos_iff_ne_zero,List.countP_pos_iff] at positive
    obtain ⟨edge,inside,waits⟩ := positive
    obtain ⟨rfl,open'⟩ := of_decide_eq_true waits
    exact least ⟨edge.2,targets edge inside⟩ open' (.single inside)

end Sorted

end ShardScript.Dependencies
