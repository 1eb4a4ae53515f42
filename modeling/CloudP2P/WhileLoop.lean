import Mathlib.Order.Basic
import Mathlib.Tactic.Common

/-!
# While loops

A `while` loop whose body reads one input each time it runs.  `run` is the
loop with a bound on the number of runs of its body; `after` is the state
after a number of runs, whatever the condition.  `run_eq_some_iff` says when
the loop leaves.
-/

universe u v

structure WhileLoop (Input : Type u) (State : Type v) where
  continues : State → Bool
  body : State → Input → State

namespace WhileLoop

variable {Input : Type u} {State : Type v}
variable (loop : WhileLoop Input State)

/-- The number of times the body runs before the loop leaves, and the state
then; `none` when that takes more than `fuel` times. -/
def run (inputs : Nat → Input) : Nat → State → Option (Nat × State)
  | 0, state =>
      if loop.continues state then none else some (0, state)
  | fuel + 1, state =>
      if loop.continues state then
        (run (fun index => inputs (index + 1)) fuel
          (loop.body state (inputs 0))).map fun left =>
            (left.1 + 1, left.2)
      else
        some (0, state)

def after (inputs : Nat → Input) : Nat → State → State
  | 0, state => state
  | count + 1, state =>
      after (fun index => inputs (index + 1)) count
        (loop.body state (inputs 0))

theorem after_succ (inputs : Nat → Input) (count : Nat) (state : State) :
    loop.after inputs (count + 1) state =
      loop.body (loop.after inputs count state) (inputs count) := by
  induction count generalizing inputs state with
  | zero =>
      rfl
  | succ count inductionHypothesis =>
      exact
        inductionHypothesis (fun index => inputs (index + 1))
          (loop.body state (inputs 0))

theorem run_of_stops
    {state : State} (stops : loop.continues state = false)
    (inputs : Nat → Input) (fuel : Nat) :
    loop.run inputs fuel state = some (0, state) := by
  cases fuel with
  | zero | succ =>
      simp [run, stops]

theorem run_succ
    {state : State} (goesOn : loop.continues state = true)
    (inputs : Nat → Input) (fuel : Nat) :
    loop.run inputs (fuel + 1) state =
      (loop.run (fun index => inputs (index + 1)) fuel
        (loop.body state (inputs 0))).map fun left =>
          (left.1 + 1, left.2) := by
  simp [run, goesOn]

/-- The condition fails for the first time after `count` runs of the body, in
the state `left`. -/
structure LeavesAfter (inputs : Nat → Input) (count : Nat)
    (state left : State) : Prop where
  reached : left = loop.after inputs count state
  stops : loop.continues left = false
  goesOn :
    ∀ earlier < count,
      loop.continues (loop.after inputs earlier state) = true

variable {loop}
variable {inputs : Nat → Input} {fuel count : Nat} {state left : State}

theorem leavesAfter_of_stops
    (stops : loop.continues state = false) :
    loop.LeavesAfter inputs count state left ↔
      count = 0 ∧ left = state := by
  constructor
  · intro leaves
    have noRun : count = 0 := by
      by_contra positive
      have entered : loop.continues state = true :=
        leaves.goesOn 0 (Nat.pos_of_ne_zero positive)
      exact Bool.false_ne_true (stops.symm.trans entered)
    subst noRun
    exact ⟨rfl, leaves.reached⟩
  · rintro ⟨noRun, same⟩
    subst noRun same
    exact ⟨rfl, stops, nofun⟩

theorem not_leavesAfter_zero
    (goesOn : loop.continues state = true) :
    ¬ loop.LeavesAfter inputs 0 state left := by
  intro leaves
  have same : left = state := leaves.reached
  have stops := leaves.stops
  rw [same] at stops
  exact Bool.false_ne_true (stops.symm.trans goesOn)

theorem leavesAfter_succ
    (goesOn : loop.continues state = true) :
    loop.LeavesAfter inputs (count + 1) state left ↔
      loop.LeavesAfter (fun index => inputs (index + 1)) count
        (loop.body state (inputs 0)) left := by
  constructor
  · intro leaves
    exact
      { reached := leaves.reached
        stops := leaves.stops
        goesOn := fun earlier less =>
          leaves.goesOn (earlier + 1) (Nat.succ_lt_succ less) }
  · intro leaves
    refine ⟨leaves.reached, leaves.stops, ?_⟩
    intro earlier less
    cases earlier with
    | zero =>
        exact goesOn
    | succ earlier =>
        exact leaves.goesOn earlier (Nat.lt_of_succ_lt_succ less)

/-- The loop leaves after the first run of its body after which the condition
fails. -/
theorem run_eq_some_iff :
    loop.run inputs fuel state = some (count, left) ↔
      count ≤ fuel ∧ loop.LeavesAfter inputs count state left := by
  induction fuel generalizing inputs state count with
  | zero =>
      cases condition : loop.continues state with
      | true =>
          simp only [run, condition, if_true, reduceCtorEq, false_iff]
          rintro ⟨few, leaves⟩
          have noRun : count = 0 := Nat.le_zero.mp few
          subst noRun
          exact not_leavesAfter_zero condition leaves
      | false =>
          rw [loop.run_of_stops condition, leavesAfter_of_stops condition]
          constructor
          · intro same
            cases same
            exact ⟨Nat.zero_le _, rfl, rfl⟩
          · rintro ⟨_, noRun, same⟩
            rw [noRun, same]
  | succ fuel inductionHypothesis =>
      cases condition : loop.continues state with
      | true =>
          rw [loop.run_succ condition, Option.map_eq_some_iff]
          constructor
          · rintro ⟨⟨rest, final⟩, runs, same⟩
            cases same
            obtain ⟨few, leaves⟩ := inductionHypothesis.mp runs
            exact
              ⟨Nat.succ_le_succ few, (leavesAfter_succ condition).mpr leaves⟩
          · rintro ⟨few, leaves⟩
            cases count with
            | zero =>
                exact absurd leaves (not_leavesAfter_zero condition)
            | succ rest =>
                refine ⟨(rest, left), inductionHypothesis.mpr ?_, rfl⟩
                exact
                  ⟨Nat.le_of_succ_le_succ few,
                    (leavesAfter_succ condition).mp leaves⟩
      | false =>
          rw [loop.run_of_stops condition, leavesAfter_of_stops condition]
          constructor
          · intro same
            cases same
            exact ⟨Nat.zero_le _, rfl, rfl⟩
          · rintro ⟨_, noRun, same⟩
            rw [noRun, same]

end WhileLoop
