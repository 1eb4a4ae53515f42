import CloudP2P.Bookkeeping
import CloudP2P.TransitionSystem
import Mathlib.Data.Multiset.Filter
import Mathlib.Data.Multiset.MapFold

/-!
# Calls that are executed at most once

What a remote call is for, with no transport in sight: somebody asks for
something, it is carried out once or not at all, and the caller gets the
result of carrying it out or fails.  A call can fail and be carried out all
the same.
-/

universe u v

/-- What the caller of a call has got. -/
inductive CallOutcome where
  | pending
  | answered
  | failed
  deriving DecidableEq

structure RemoteCall (Request : Type u) (Result : Type v) where
  request : Request
  /-- The result of carrying it out, once that has happened. -/
  executed : Option Result
  outcome : CallOutcome

inductive RemoteCallEvent (Request : Type u) (Result : Type v) where
  | invoke (request : Request)
  | execute (index : Nat) (result : Result)
  | answer (index : Nat)
  | fail (index : Nat)

namespace RemoteCall

variable {Request : Type u} {Result : Type v}

def step (calls : List (RemoteCall Request Result)) :
    RemoteCallEvent Request Result →
      Option (List (RemoteCall Request Result))
  | .invoke request => some (calls ++ [⟨request, none, .pending⟩])
  | .execute index result =>
      match calls[index]? with
      | some ⟨request, none, outcome⟩ =>
          some (calls.set index ⟨request, some result, outcome⟩)
      | _ => none
  | .answer index =>
      match calls[index]? with
      | some ⟨request, some result, .pending⟩ =>
          some (calls.set index ⟨request, some result, .answered⟩)
      | _ => none
  | .fail index =>
      match calls[index]? with
      | some ⟨request, executed, .pending⟩ =>
          some (calls.set index ⟨request, executed, .failed⟩)
      | _ => none

section Steps

variable {calls : List (RemoteCall Request Result)} {index : Nat}
variable {call : RemoteCall Request Result}

theorem step_execute (found : calls[index]? = some call)
    (fresh : call.executed = none) (result : Result) :
    step calls (.execute index result) =
      some (calls.set index { call with executed := some result }) := by
  cases call
  cases fresh
  simp only [step, found]

theorem step_answer (found : calls[index]? = some call) {result : Result}
    (executed : call.executed = some result)
    (pending : call.outcome = .pending) :
    step calls (.answer index) =
      some (calls.set index { call with outcome := .answered }) := by
  cases call
  cases executed
  cases pending
  simp only [step, found]

theorem step_fail (found : calls[index]? = some call)
    (pending : call.outcome = .pending) :
    step calls (.fail index) =
      some (calls.set index { call with outcome := .failed }) := by
  cases call
  cases pending
  simp only [step, found]

end Steps

/-- A call that was carried out, with its result. -/
def execution (call : RemoteCall Request Result) :
    Option (Request × Result) :=
  call.executed.map fun result => (call.request, result)

/-- A call that was answered, with its answer. -/
def answer (call : RemoteCall Request Result) : Option (Request × Result) :=
  if call.outcome = .answered then call.execution else none

theorem execution_of_answer
    {call : RemoteCall Request Result} {pair : Request × Result}
    (answered : call.answer = some pair) : call.execution = some pair := by
  unfold answer at answered
  by_cases done : call.outcome = .answered
  · rwa [if_pos done] at answered
  · rw [if_neg done] at answered
    cases answered

/-- Every answer is the result of an execution of its own. -/
theorem answers_le_executions (calls : List (RemoteCall Request Result)) :
    (calls.filterMap answer : Multiset (Request × Result)) ≤
      (calls.filterMap execution : Multiset (Request × Result)) := by
  induction calls with
  | nil =>
      exact le_rfl
  | cons call rest inductionHypothesis =>
      cases answered : call.answer with
      | none =>
          rw [List.filterMap_cons_none answered]
          refine inductionHypothesis.trans ?_
          cases executed : call.execution with
          | none =>
              rw [List.filterMap_cons_none executed]
          | some pair =>
              rw [List.filterMap_cons_some executed]
              exact Multiset.le_cons_self _ _
      | some pair =>
          rw [List.filterMap_cons_some answered,
            List.filterMap_cons_some (execution_of_answer answered)]
          exact Multiset.cons_le_cons pair inductionHypothesis

/-- Every execution carries out a request of its own. -/
theorem executions_le_requests (calls : List (RemoteCall Request Result)) :
    ((calls.filterMap execution).map Prod.fst : Multiset Request) ≤
      (calls.map RemoteCall.request : Multiset Request) := by
  induction calls with
  | nil =>
      exact le_rfl
  | cons call rest inductionHypothesis =>
      rw [List.map_cons]
      cases executed : call.execution with
      | none =>
          rw [List.filterMap_cons_none executed]
          exact inductionHypothesis.trans (Multiset.le_cons_self _ _)
      | some pair =>
          obtain ⟨result, _, same⟩ := Option.map_eq_some_iff.mp executed
          rw [List.filterMap_cons_some executed, List.map_cons, ← same]
          exact Multiset.cons_le_cons call.request inductionHypothesis

end RemoteCall

/-- At first nobody has asked for anything. -/
def remoteCallSystem (Request : Type u) (Result : Type v) :
    TransitionSystem (List (RemoteCall Request Result))
      (RemoteCallEvent Request Result) where
  initial calls := calls = []
  step := RemoteCall.step
