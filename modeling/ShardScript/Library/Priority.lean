import Mathlib.Data.List.Perm.Basic

/-! The first answer of a list of sources, and when their order does not matter. -/
namespace ShardScript.Library

variable {Source Answer : Type} {answer : Source → Option Answer} {sources other : List Source} {source : Source} {value : Answer}

def Contested (answer : Source → Option Answer) (sources : List Source) : Prop :=
  ∃ first ∈ sources, ∃ second ∈ sources, first ≠ second ∧ answer first ≠ none ∧ answer second ≠ none

theorem Contested.congr (same : ∀ source, source ∈ other ↔ source ∈ sources) :
    Contested answer other ↔ Contested answer sources := by
  simp only [Contested,same]

theorem contested_snoc (new : source ∉ sources) : Contested answer (sources ++ [source]) ↔
    Contested answer sources ∨ answer source ≠ none ∧ ∃ known ∈ sources, answer known ≠ none := by
  constructor
  · rintro ⟨first,firstIn,second,secondIn,differ,firstAnswers,secondAnswers⟩
    rw [List.mem_append,List.mem_singleton] at firstIn secondIn
    obtain firstIn | rfl := firstIn
    · obtain secondIn | rfl := secondIn
      · exact .inl ⟨first,firstIn,second,secondIn,differ,firstAnswers,secondAnswers⟩
      · exact .inr ⟨secondAnswers,first,firstIn,firstAnswers⟩
    · obtain secondIn | rfl := secondIn
      · exact .inr ⟨firstAnswers,second,secondIn,secondAnswers⟩
      · exact absurd rfl differ
  · rintro (⟨first,firstIn,second,secondIn,rest⟩ | ⟨answers,known,among,knownAnswers⟩)
    · exact ⟨first,List.mem_append_left _ firstIn,second,List.mem_append_left _ secondIn,rest⟩
    · refine ⟨known,List.mem_append_left _ among,source,List.mem_append_right _ (List.mem_singleton_self source),?_,knownAnswers,answers⟩
      rintro rfl
      exact new among

theorem findSome?_snoc_of_mem (known : source ∈ sources) :
    (sources ++ [source]).findSome? answer = sources.findSome? answer := by
  rw [List.findSome?_append]
  cases found : sources.findSome? answer with
  | none =>
    rw [List.findSome?_eq_none_iff] at found
    rw [Option.none_or,List.findSome?_singleton,found source known]
  | some value => exact Option.some_or

theorem findSome?_perm (same : other.Perm sources) (uncontested : ¬ Contested answer sources) :
    other.findSome? answer = sources.findSome? answer := by
  cases found : sources.findSome? answer with
  | none =>
    rw [List.findSome?_eq_none_iff] at found ⊢
    intro source member
    exact found source (same.mem_iff.1 member)
  | some value =>
    obtain ⟨source,inside,given⟩ := List.exists_of_findSome?_eq_some found
    have present : other.findSome? answer ≠ none := by
      intro none
      rw [List.findSome?_eq_none_iff] at none
      rw [none source (same.mem_iff.2 inside)] at given
      cases given
    obtain ⟨chosen,chosenBy⟩ := Option.ne_none_iff_exists'.1 present
    obtain ⟨winner,among,offered⟩ := List.exists_of_findSome?_eq_some chosenBy
    have unique : winner = source := by
      by_contra differ
      refine uncontested ⟨winner,same.mem_iff.1 among,source,inside,differ,?_,?_⟩
      · rw [offered]
        exact Option.some_ne_none chosen
      · rw [given]
        exact Option.some_ne_none value
    rw [chosenBy,← offered,unique,given]

end ShardScript.Library
