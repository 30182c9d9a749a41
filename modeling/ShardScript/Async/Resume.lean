import ShardScript.Async.MoveNext

/-! The exception handlers that a resumed segment installs, and those that its first statement
should have. -/
namespace ShardScript.Async
open Syntax ByteCode
open Emitter (Emission EvalLayoutTracker)

/-- The handlers of a frame after some parts, the innermost one first; the fault handler of `MoveNext`
belongs to no statement. -/
@[grind] def handlersAfter : List Part → List (Option Path) → List (Option Path)
  | [],handlers => handlers
  | .enterTry statement :: parts,handlers => handlersAfter parts (some statement :: handlers)
  | .leaveTry :: parts,handlers => handlersAfter parts handlers.tail
  | _ :: parts,handlers => handlersAfter parts handlers

def resumeLevels : List Level → List Level
  | [] => []
  | level :: outer =>
    if level.next.isSome then level :: outer
    else
      match level.owner with
      | .loop _ => outer
      | _ => resumeLevels outer

def leftLevels : List Level → List Level
  | [] => []
  | level :: outer =>
    if level.next.isSome then []
    else
      match level.owner with
      | .loop _ => [level]
      | _ => level :: leftLevels outer

/-- The `try` blocks around the point where a method goes on. Without a next statement that is the code
behind the innermost one of them. -/
def continuationTries (levels : List Level) : List Path :=
  if (findResumeStatement levels).isSome then tryBlocks (resumeLevels levels) else (tryBlocks levels).tail

/-- Going out from the await, a statement or a loop comes before the end of a `try` block, or nothing
comes at all. -/
def StaysInTry (levels : List Level) : Prop :=
  findResumeStatement levels = none ∨ tryBlocks (leftLevels levels) = []

theorem leftLevels_append (levels : List Level) : leftLevels levels ++ resumeLevels levels = levels := by
  induction levels with
  | nil => rfl
  | cons level outer ih =>
    rw [leftLevels,resumeLevels]
    split
    · rfl
    · split
      · rfl
      · rw [List.cons_append,ih]

theorem tryBlocks_append (left right : List Level) :
    tryBlocks (left ++ right) = tryBlocks left ++ tryBlocks right := List.filterMap_append

theorem handlersAfter_append (first second : List Part) (handlers : List (Option Path)) :
    handlersAfter (first ++ second) handlers = handlersAfter second (handlersAfter first handlers) := by
  induction first generalizing handlers with
  | nil => rfl
  | cons part parts ih => cases part <;> exact ih _

theorem handlersAfter_defers (defers : List Emission) (handlers : List (Option Path)) :
    handlersAfter (defers.map .defer) handlers = handlers := by
  induction defers with
  | nil => rfl
  | cons defer defers ih => exact ih

theorem handlersAfter_restoreException (info : AsyncMethodInfo) (slots : AwaitSlots)
    (handlers : List (Option Path)) : handlersAfter (restoreException info slots) handlers = handlers := by
  unfold restoreException
  split <;> rfl

theorem handlersAfter_enterTries (activeTryStack : List Path) (outerDefers : List Emission)
    (defersByTry : Path → List Emission) (handlers : List (Option Path)) :
    handlersAfter (emitResumeDefersAndEnterTries activeTryStack outerDefers defersByTry) handlers =
      activeTryStack.reverse.map some ++ handlers := by
  rw [emitResumeDefersAndEnterTries,handlersAfter_append,handlersAfter_defers]
  induction activeTryStack generalizing handlers with
  | nil => rfl
  | cons statement inner ih =>
    rw [List.flatMap_cons,handlersAfter_append,ih,List.reverse_cons,List.map_append,List.append_assoc]
    congr 1
    exact handlersAfter_defers _ _

theorem handlersAfter_resumed (info : AsyncMethodInfo) (expression : AwaitExpression) (slots : AwaitSlots)
    (activeTryStack : List Path) (outerDefers : List Emission) (defersByTry : Path → List Emission)
    (nextStatement : Option Path) (handlers : List (Option Path)) :
    handlersAfter (resumed info expression slots activeTryStack outerDefers defersByTry nextStatement)
        handlers =
      (if nextStatement.isSome then activeTryStack.reverse else activeTryStack.reverse.tail).map some ++
        handlers := by
  have entered : handlersAfter (.emission (restoreLiftedParametersAndLocals info) ::
      emitResumeDefersAndEnterTries activeTryStack outerDefers defersByTry) handlers =
        activeTryStack.reverse.map some ++ handlers := handlersAfter_enterTries _ _ _ _
  rw [resumed,handlersAfter_append,handlersAfter_append]
  have consumed := handlersAfter_restoreException info slots (activeTryStack.reverse.map some ++ handlers)
  simp only [handlersAfter] at entered
  simp only [handlersAfter]
  rw [entered,consumed]
  cases nextStatement with
  | some statement => rfl
  | none =>
    cases eq : activeTryStack.reverse with
    | nil => simp [List.reverse_eq_nil_iff.1 eq,handlersAfter]
    | cons innermost outer =>
      have some_ : activeTryStack ≠ [] := by
        intro nothing
        simp [nothing] at eq
      simp [some_,handlersAfter]

/-- The handlers are those of the `try` blocks around the continuation exactly if no `try` block is left
on the way to it. -/
theorem resumed_handlers_iff (info : AsyncMethodInfo) (body : Body .block) (site : AwaitSite)
    (member : site ∈ (scanBody body).awaitSites) (levels : List Level)
    (stands : site.ancestors = some levels) (goesOn : site.isReturnAwait = false) (slots : AwaitSlots)
    (outerDefers : List Emission) (defersByTry : Path → List Emission) :
    handlersAfter (resumed info site.expression slots site.activeTryStack outerDefers defersByTry
        site.nextStatement) [none] = (continuationTries levels).map some ++ [none] ↔
      StaysInTry levels := by
  have described := scanBody_described body site member
  rw [handlersAfter_resumed,described.next levels stands goesOn,described.tries levels stands]
  unfold continuationTries StaysInTry
  cases resume : findResumeStatement levels with
  | none => simp
  | some statement =>
    have split : tryBlocks levels = tryBlocks (leftLevels levels) ++ tryBlocks (resumeLevels levels) := by
      rw [← tryBlocks_append,leftLevels_append]
    simp only [Option.isSome_some,if_true,split,List.map_append,List.append_left_inj]
    simp

section Examples

def someAwait : AwaitExpression := awaitOf .skip

def awaitAtEndOfTry : Body .block :=
  .cons (.tryStatement (.cons (.simple (.expressionStatement (.await someAwait))) .empty)
      (.catchClause none none .empty .noCatch))
    (.cons (.simple (.expressionStatement (.plain .skip))) .empty)

def plainInfo : AsyncMethodInfo := .construct 0 1 false false [] [] (by decide) (by decide)

def plainSlots : AwaitSlots := ⟨plainInfo.awaiterField 0,1,2,none,none⟩

theorem awaitAtEndOfTry_keeps_handler :
    ¬ ∀ (body : Body .block) (site : AwaitSite), site ∈ (scanBody body).awaitSites →
      ∀ levels, site.ancestors = some levels → site.isReturnAwait = false →
        handlersAfter (resumed plainInfo site.expression plainSlots site.activeTryStack [] (fun _ => [])
          site.nextStatement) [none] = (continuationTries levels).map some ++ [none] := by
  intro claimed
  have site := claimed awaitAtEndOfTry _ (List.mem_singleton.2 rfl) _ rfl rfl
  exact absurd site (by decide)

def awaitInsideTry : Body .block :=
  .cons (.tryStatement (.cons (.simple (.expressionStatement (.await someAwait)))
      (.cons (.simple (.expressionStatement (.plain .skip))) .empty))
    (.catchClause none none .empty .noCatch)) .empty

theorem resumed_handlers_inside :
    handlersAfter (resumed plainInfo someAwait plainSlots [[0]] [] (fun _ => []) (some [0,1,0,0])) [none] =
      (continuationTries [⟨.tryBlock [0],some [0,1,0,0]⟩,⟨.method,none⟩]).map some ++ [none] :=
  (resumed_handlers_iff plainInfo awaitInsideTry
    ⟨someAwait,[0,0,0],some [⟨.tryBlock [0],some [0,1,0,0]⟩,⟨.method,none⟩],some [0,1,0,0],[[0]],none,false,none⟩
    (List.mem_singleton.2 rfl) _ rfl rfl plainSlots [] fun _ => []).2 (.inr rfl)

end Examples

end ShardScript.Async
