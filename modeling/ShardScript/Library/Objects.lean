import Mathlib.Data.List.Basic

/-! Two objects behind one interface, and what their clients can tell apart. -/
namespace ShardScript.Library

def Object (Call Answer State : Type) := Call → State → Answer × State

namespace Object

variable {Call Answer State Left Right : Type}

def answers (object : Object Call Answer State) : State → List Call → List Answer
  | _,[] => []
  | state,call :: calls => (object call state).1 :: object.answers (object call state).2 calls

def Throughout (left : Object Call Answer Left) (right : Object Call Answer Right)
    (condition : Left → Right → Call → Prop) : Left → Right → List Call → Prop
  | _,_,[] => True
  | first,second,call :: calls =>
      condition first second call ∧ left.Throughout right condition (left call first).2 (right call second).2 calls

instance (left : Object Call Answer Left) (right : Object Call Answer Right)
    (condition : Left → Right → Call → Prop) [∀ first second call,Decidable (condition first second call)] (first : Left)
    (second : Right) (calls : List Call) : Decidable (left.Throughout right condition first second calls) :=
  decThroughout left right condition first second calls
where
  decThroughout (left : Object Call Answer Left) (right : Object Call Answer Right)
      (condition : Left → Right → Call → Prop) [∀ first second call,Decidable (condition first second call)] :
      (first : Left) → (second : Right) → (calls : List Call) →
        Decidable (left.Throughout right condition first second calls)
    | _,_,[] => .isTrue trivial
    | first,second,call :: calls =>
        have := decThroughout left right condition (left call first).2 (right call second).2 calls
        inferInstanceAs (Decidable (_ ∧ _))

/-- Related states answer alike to the calls that meet the condition, and remain related. -/
def Simulates (left : Object Call Answer Left) (right : Object Call Answer Right) (related : Left → Right → Prop)
    (condition : Left → Right → Call → Prop) : Prop :=
  ∀ {first second call},related first second → condition first second call →
    (left call first).1 = (right call second).1 ∧ related (left call first).2 (right call second).2

theorem Simulates.answers_eq {left : Object Call Answer Left} {right : Object Call Answer Right}
    {related : Left → Right → Prop} {condition : Left → Right → Call → Prop}
    (simulates : left.Simulates right related condition) {first : Left} {second : Right} {calls : List Call}
    (start : related first second) (met : left.Throughout right condition first second calls) :
    left.answers first calls = right.answers second calls := by
  induction calls generalizing first second with
  | nil => rfl
  | cons call calls ih =>
      obtain ⟨here,later⟩ := met
      obtain ⟨same,next⟩ := simulates start here
      rw [answers,answers,same,ih next later]

end Object
end ShardScript.Library
