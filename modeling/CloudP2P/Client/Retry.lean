import CloudP2P.Provider.Steganographer
import CloudP2P.WhileLoop

/-!
# The retry loop of the client

One secret image is sent to every server, and again while no task came back.
The task of a server is an `async move` block: `retries` and
`backoff_duration` are copied into it, and what it adds to them is lost with
it.  The loop sees its tasks only through `join_all`.

A round is given by the outcomes of its tasks, one for each address in
`server_addrs`.
-/

namespace CloudP2P.Client

open Provider (Bytes)

/-- How the task of one server ends.  A task that never ends keeps `join_all`
waiting, and its round has no outcome. -/
inductive ServerOutcome where
  | createError (message : String)
  | createTimeout
  | encodeErr (message : String)
  | encodePanicked
  | encodeOk (bytes : Bytes)
  | taskPanicked
  deriving DecidableEq

/-- `retries` and `backoff_duration`, the latter in seconds. -/
structure Counters where
  retries : Nat
  backoffDuration : Nat
  deriving DecidableEq

namespace Counters

def start : Counters where
  retries := 0
  backoffDuration := 2

/-- `retries += 1; backoff_duration *= 2;` -/
def failed (counters : Counters) : Counters where
  retries := counters.retries + 1
  backoffDuration := counters.backoffDuration * 2

end Counters

/-- `JoinError` of a task that panicked. -/
inductive JoinError where
  | panicked
  deriving DecidableEq

/-- The join result of a task, and its own copies of the counters when it
ends.  The body of the 60 s timeout never yields, so that one never elapses. -/
def serverTask (captured : Counters) :
    ServerOutcome → Except JoinError Unit × Counters
  | .createError _ => (.ok (), captured.failed)
  | .createTimeout => (.ok (), captured.failed)
  -- `catch_unwind` gives `Ok(Err(e))` here, which is matched as `Ok(_)`
  | .encodeErr _ => (.ok (), captured.failed)
  | .encodePanicked => (.ok (), captured.failed)
  | .encodeOk _ => (.ok (), captured)
  | .taskPanicked => (.error .panicked, captured)

/-- The variables of the loop, and the time it has slept. -/
structure EncodeLoop where
  counters : Counters
  success : Bool
  slept : Nat
  deriving DecidableEq

def EncodeLoop.start : EncodeLoop where
  counters := Counters.start
  success := false
  slept := 0

def maxRetries : Nat := 3

/-- One run of the body: spawn the tasks, join them, sleep. -/
def runRound (loop : EncodeLoop) (outcomes : List ServerOutcome) :
    EncodeLoop :=
  let results :=
    outcomes.map fun outcome => (serverTask loop.counters outcome).1
  { loop with
    success := loop.success || results.any Except.isOk
    slept := loop.slept + loop.counters.backoffDuration }

def encodeLoop : WhileLoop (List ServerOutcome) EncodeLoop where
  continues loop :=
    decide (loop.counters.retries < maxRetries) && !loop.success
  body := runRound

/-! ## What a round does -/

/-- Some task of the round does not panic. -/
def Joins (outcomes : List ServerOutcome) : Prop :=
  ∃ outcome ∈ outcomes, outcome ≠ .taskPanicked

instance (outcomes : List ServerOutcome) : Decidable (Joins outcomes) :=
  inferInstanceAs (Decidable (∃ outcome ∈ outcomes, _))

theorem serverTask_isOk (captured : Counters) (outcome : ServerOutcome) :
    (serverTask captured outcome).1.isOk = true ↔
      outcome ≠ .taskPanicked := by
  cases outcome <;>
    simp [serverTask, Except.isOk, Except.toBool]

theorem runRound_success
    (loop : EncodeLoop) (outcomes : List ServerOutcome) :
    (runRound loop outcomes).success = true ↔
      loop.success = true ∨ Joins outcomes := by
  simp only [runRound, Bool.or_eq_true, List.any_map, List.any_eq_true,
    Function.comp_apply, serverTask_isOk]
  rfl

/-! ## When the loop leaves -/

section Leaving

variable {rounds : Nat → List ServerOutcome} {fuel count : Nat}
variable {left : EncodeLoop}

@[simp]
theorem after_counters (rounds : Nat → List ServerOutcome) (count : Nat) :
    (encodeLoop.after rounds count .start).counters = Counters.start := by
  induction count with
  | zero =>
      rfl
  | succ count inductionHypothesis =>
      rw [WhileLoop.after_succ]
      exact inductionHypothesis

theorem after_success (rounds : Nat → List ServerOutcome) (count : Nat) :
    (encodeLoop.after rounds count .start).success = true ↔
      ∃ round < count, Joins (rounds round) := by
  induction count with
  | zero =>
      simp [WhileLoop.after, EncodeLoop.start]
  | succ count inductionHypothesis =>
      rw [WhileLoop.after_succ]
      simp only [encodeLoop] at inductionHypothesis ⊢
      rw [runRound_success, inductionHypothesis]
      constructor
      · rintro (⟨round, less, joins⟩ | joins)
        · exact ⟨round, Nat.lt_succ_of_lt less, joins⟩
        · exact ⟨count, Nat.lt_succ_self count, joins⟩
      · rintro ⟨round, less, joins⟩
        rcases Nat.lt_succ_iff_lt_or_eq.mp less with earlier | last
        · exact Or.inl ⟨round, earlier, joins⟩
        · exact Or.inr (last ▸ joins)

/-- The counters never reach their bound, so only success ends the loop. -/
theorem continues_after (rounds : Nat → List ServerOutcome) (count : Nat) :
    encodeLoop.continues (encodeLoop.after rounds count .start) = true ↔
      ∀ round < count, ¬ Joins (rounds round) := by
  have fewRetries :
      (encodeLoop.after rounds count .start).counters.retries <
        maxRetries := by
    rw [after_counters]
    decide
  have succeeded := after_success rounds count
  calc
    encodeLoop.continues (encodeLoop.after rounds count .start) = true ↔
        ¬ (encodeLoop.after rounds count .start).success = true := by
      rw [encodeLoop, Bool.and_eq_true, decide_eq_true_iff,
        Bool.not_eq_true', Bool.not_eq_true]
      exact and_iff_right fewRetries
    _ ↔ ∀ round < count, ¬ Joins (rounds round) := by
      rw [succeeded]
      push Not
      rfl

/-- The first round in which some task does not panic. -/
structure FirstJoins (rounds : Nat → List ServerOutcome) (round : Nat) :
    Prop where
  joins : Joins (rounds round)
  first : ∀ earlier < round, ¬ Joins (rounds earlier)

theorem FirstJoins.unique
    {round other : Nat} (firstJoins : FirstJoins rounds round)
    (alsoFirst : FirstJoins rounds other) : round = other := by
  rcases Nat.lt_trichotomy round other with earlier | same | later
  · exact absurd firstJoins.joins (alsoFirst.first round earlier)
  · exact same
  · exact absurd alsoFirst.joins (firstJoins.first other later)

theorem exists_firstJoins
    {round : Nat} (joins : Joins (rounds round)) :
    ∃ first ≤ round, FirstJoins rounds first := by
  have happens : ∃ round, Joins (rounds round) := ⟨round, joins⟩
  exact
    ⟨Nat.find happens, Nat.find_min' happens joins,
      { joins := Nat.find_spec happens
        first := fun _ less => Nat.find_min happens less }⟩

/-- The loop leaves after the first round in which some task does not
panic. -/
theorem leavesAfter_iff :
    encodeLoop.LeavesAfter rounds count .start left ↔
      left = encodeLoop.after rounds count .start ∧
        ∃ round, count = round + 1 ∧ FirstJoins rounds round := by
  constructor
  · intro leaves
    have stops := leaves.stops
    rw [leaves.reached, ← Bool.not_eq_true, continues_after] at stops
    push Not at stops
    obtain ⟨round, less, joins⟩ := stops
    obtain ⟨first, notLater, firstJoins⟩ := exists_firstJoins joins
    refine ⟨leaves.reached, first, ?_, firstJoins⟩
    by_contra different
    have goesOn :=
      leaves.goesOn (first + 1) (by omega)
    exact
      (continues_after rounds _).mp goesOn first (Nat.lt_succ_self first)
        firstJoins.joins
  · rintro ⟨reached, round, same, firstJoins⟩
    subst same
    refine ⟨reached, ?_, ?_⟩
    · rw [reached, ← Bool.not_eq_true, continues_after]
      intro noJoin
      exact noJoin round (Nat.lt_succ_self round) firstJoins.joins
    · intro earlier less
      rw [continues_after]
      intro other before
      exact firstJoins.first other (by omega)

/-- With enough fuel the loop leaves after that round, and only then. -/
theorem run_iff :
    encodeLoop.run rounds fuel .start = some (count, left) ↔
      left = encodeLoop.after rounds count .start ∧
        ∃ round < fuel, count = round + 1 ∧ FirstJoins rounds round := by
  rw [WhileLoop.run_eq_some_iff, leavesAfter_iff]
  constructor
  · rintro ⟨enough, reached, round, same, firstJoins⟩
    subst same
    exact ⟨reached, round, enough, rfl, firstJoins⟩
  · rintro ⟨reached, round, enough, same, firstJoins⟩
    subst same
    exact ⟨enough, reached, round, rfl, firstJoins⟩

theorem run_isSome_iff :
    (encodeLoop.run rounds fuel .start).isSome = true ↔
      ∃ round < fuel, Joins (rounds round) := by
  rw [Option.isSome_iff_exists]
  constructor
  · rintro ⟨⟨count, left⟩, runs⟩
    obtain ⟨_, round, less, _, firstJoins⟩ := run_iff.mp runs
    exact ⟨round, less, firstJoins.joins⟩
  · rintro ⟨round, less, joins⟩
    obtain ⟨first, notLater, firstJoins⟩ := exists_firstJoins joins
    exact
      ⟨_, run_iff.mpr
        ⟨rfl, first, Nat.lt_of_le_of_lt notLater less, rfl, firstJoins⟩⟩

/-- The loop leaves with success only. -/
theorem success_of_run
    (runs : encodeLoop.run rounds fuel .start = some (count, left)) :
    left.success = true := by
  obtain ⟨reached, round, _, same, firstJoins⟩ := run_iff.mp runs
  rw [reached, after_success]
  exact ⟨round, by omega, firstJoins.joins⟩

/-- A round before the loop leaves has an encoded image only if it is the
last one. -/
theorem encoded_of_run_iff
    (runs : encodeLoop.run rounds fuel .start = some (count, left)) :
    (∃ round < count, ∃ bytes, .encodeOk bytes ∈ rounds round) ↔
      ∃ round, FirstJoins rounds round ∧
        ∃ bytes, .encodeOk bytes ∈ rounds round := by
  obtain ⟨_, first, _, same, firstJoins⟩ := run_iff.mp runs
  constructor
  · rintro ⟨round, less, bytes, encoded⟩
    have joins : Joins (rounds round) := ⟨_, encoded, nofun⟩
    have notEarlier : ¬ round < first := fun earlier =>
      firstJoins.first round earlier joins
    have last : round = first := by
      omega
    exact ⟨first, firstJoins, bytes, last ▸ encoded⟩
  · rintro ⟨round, alsoFirst, bytes, encoded⟩
    rw [← firstJoins.unique alsoFirst] at encoded
    exact ⟨first, by omega, bytes, encoded⟩

end Leaving

/-! ## Success without an encoded image -/

/-- The loop reports success for an encoded image only, if and only if some
server encodes the image in the first round in which some task does not
panic. -/
theorem success_encoded_iff (rounds : Nat → List ServerOutcome) :
    (∀ fuel count left,
      encodeLoop.run rounds fuel .start = some (count, left) →
        left.success = true →
          ∃ round < count, ∃ bytes, .encodeOk bytes ∈ rounds round) ↔
      ∀ round, FirstJoins rounds round →
        ∃ bytes, .encodeOk bytes ∈ rounds round := by
  constructor
  · intro onlyEncoded round firstJoins
    have runs :
        encodeLoop.run rounds (round + 1) .start =
          some (round + 1, encodeLoop.after rounds (round + 1) .start) :=
      run_iff.mpr ⟨rfl, round, Nat.lt_succ_self round, rfl, firstJoins⟩
    obtain ⟨other, alsoFirst, encoded⟩ :=
      (encoded_of_run_iff runs).mp
        (onlyEncoded _ _ _ runs (success_of_run runs))
    rw [firstJoins.unique alsoFirst]
    exact encoded
  · intro encodes fuel count left runs _
    obtain ⟨_, round, _, _, firstJoins⟩ := run_iff.mp runs
    exact
      (encoded_of_run_iff runs).mpr
        ⟨round, firstJoins, encodes round firstJoins⟩

/-- No server can be reached. -/
def unreachable (_ : Nat) : List ServerOutcome :=
  [.createError "timed out", .createError "timed out", .createTimeout]

/-- Success without any server, after one round. -/
theorem success_of_unreachable :
    ∃ left, encodeLoop.run unreachable 1 .start = some (1, left) ∧
      left.success = true ∧
        ¬ ∃ round < 1, ∃ bytes, .encodeOk bytes ∈ unreachable round := by
  refine ⟨_, rfl, rfl, ?_⟩
  rintro ⟨round, _, bytes, encoded⟩
  simp [unreachable] at encoded

/-! ## The number of rounds -/

/-- The loop leaves within `max_retries` rounds if and only if in one of them
some task does not panic. -/
theorem rounds_bounded_iff (rounds : Nat → List ServerOutcome) :
    (∃ fuel count left,
      encodeLoop.run rounds fuel .start = some (count, left) ∧
        count ≤ maxRetries) ↔
      ∃ round < maxRetries, Joins (rounds round) := by
  constructor
  · rintro ⟨fuel, count, left, runs, few⟩
    obtain ⟨_, round, _, same, firstJoins⟩ := run_iff.mp runs
    exact ⟨round, by omega, firstJoins.joins⟩
  · rintro ⟨round, less, joins⟩
    obtain ⟨first, notLater, firstJoins⟩ := exists_firstJoins joins
    refine
      ⟨first + 1, first + 1, encodeLoop.after rounds (first + 1) .start,
        ?_, by omega⟩
    exact run_iff.mpr ⟨rfl, first, Nat.lt_succ_self first, rfl, firstJoins⟩

/-- Three servers whose tasks all panic, in every round. -/
def allPanic (_ : Nat) : List ServerOutcome :=
  [.taskPanicked, .taskPanicked, .taskPanicked]

theorem never_leaves_allPanic :
    ¬ ∃ fuel count left,
      encodeLoop.run allPanic fuel .start = some (count, left) ∧
        count ≤ maxRetries := by
  rw [rounds_bounded_iff]
  rintro ⟨round, _, joins⟩
  have noJoin : ¬ Joins (allPanic round) := by
    unfold allPanic
    decide
  exact noJoin joins

end CloudP2P.Client
