import Mathlib.Logic.Relation
import Mathlib.Data.List.Induction

/-!
# Guarded transition systems

A transition system is an initial predicate together with a partial step
function: `step state event` is `none` when `event` is not enabled.  The same
definition is replayed on concrete event lists by `run` and reasoned about
through `RunsWhere`, the reflexive-transitive closure of the steps whose
event meets a side condition in the state it is taken from.

The module also provides the two extensions of a system that the proofs over
a concrete model rest on:

* `observed` adds a history variable that the steps write and never read;
* `reachable_project` transports reachability along a projection whose
  steps are steps of another system or leave it where it was.
-/

universe u v w x

/-- An initial predicate and a partial step function. -/
structure TransitionSystem (State : Type u) (Event : Type v) where
  initial : State → Prop
  step : State → Event → Option State

namespace TransitionSystem

variable {State : Type u} {Event : Type v}

/-- The side condition that admits every event. -/
def anyEvent (_source : State) (_event : Event) : Prop := True

section Runs

variable (system : TransitionSystem State Event)

/-- Replay a list of events; `none` when one of them is not enabled. -/
def run : State → List Event → Option State
  | source, [] => some source
  | source, event :: rest =>
      (system.step source event).bind fun middle => run middle rest

/-- One step whose event `allowed` admits in its source state. -/
def StepWhere (allowed : State → Event → Prop)
    (source target : State) : Prop :=
  ∃ event, allowed source event ∧ system.step source event = some target

/-- A finite run all of whose steps `allowed` admits. -/
def RunsWhere (allowed : State → Event → Prop) :
    State → State → Prop :=
  Relation.ReflTransGen (system.StepWhere allowed)

/-- A state that such a run reaches from an initial state. -/
def ReachableWhere (allowed : State → Event → Prop)
    (target : State) : Prop :=
  ∃ source, system.initial source ∧ system.RunsWhere allowed source target

/-- A state that some run reaches from an initial state. -/
def Reachable (target : State) : Prop :=
  system.ReachableWhere anyEvent target

/-- `property` holds in every state that the replay of `events` visits, the
first and the last included. -/
def HoldsAlong (property : State → Prop)
    (source : State) (events : List Event) : Prop :=
  ∀ earlier later, events = earlier ++ later →
    ∀ middle, system.run source earlier = some middle → property middle

/-- Every step of the replay of `events` meets `allowed`. -/
def MeetsAlong (allowed : State → Event → Prop)
    (source : State) (events : List Event) : Prop :=
  ∀ earlier event later, events = earlier ++ event :: later →
    ∀ middle, system.run source earlier = some middle → allowed middle event

/-- Replay that stops at the first event that fails `check`. -/
def checkedRun (check : State → Event → Bool) :
    State → List Event → Option State
  | source, [] => some source
  | source, event :: rest =>
      if check source event then
        (system.step source event).bind fun middle =>
          checkedRun check middle rest
      else
        none

theorem run_cons (source : State) (event : Event) (rest : List Event) :
    system.run source (event :: rest) =
      (system.step source event).bind fun middle =>
        system.run middle rest := rfl

theorem run_append (source : State) (earlier later : List Event) :
    system.run source (earlier ++ later) =
      (system.run source earlier).bind fun middle =>
        system.run middle later := by
  induction earlier generalizing source with
  | nil =>
      rfl
  | cons event rest inductionHypothesis =>
      rw [List.cons_append, run_cons, run_cons, Option.bind_assoc]
      cases system.step source event with
      | none =>
          rfl
      | some middle =>
          exact inductionHypothesis middle

/-- A replay splits at every point of its event list. -/
theorem run_append_eq_some
    {source target : State} {earlier later : List Event}
    (replay : system.run source (earlier ++ later) = some target) :
    ∃ middle,
      system.run source earlier = some middle ∧
        system.run middle later = some target := by
  rw [run_append] at replay
  exact Option.bind_eq_some_iff.mp replay

theorem run_concat_eq_some
    {source target : State} {earlier : List Event} {event : Event}
    (replay : system.run source (earlier ++ [event]) = some target) :
    ∃ middle,
      system.run source earlier = some middle ∧
        system.step middle event = some target := by
  obtain ⟨middle, before, last⟩ := system.run_append_eq_some replay
  rw [run_cons] at last
  obtain ⟨final, stepped, same⟩ := Option.bind_eq_some_iff.mp last
  cases same
  exact ⟨middle, before, stepped⟩

variable {system}

theorem RunsWhere.refl
    {allowed : State → Event → Prop} (source : State) :
    system.RunsWhere allowed source source :=
  Relation.ReflTransGen.refl

theorem RunsWhere.trans
    {allowed : State → Event → Prop} {source middle target : State}
    (first : system.RunsWhere allowed source middle)
    (second : system.RunsWhere allowed middle target) :
    system.RunsWhere allowed source target :=
  Relation.ReflTransGen.trans first second

theorem RunsWhere.concat
    {allowed : State → Event → Prop} {source middle target : State}
    {event : Event}
    (first : system.RunsWhere allowed source middle)
    (admitted : allowed middle event)
    (stepped : system.step middle event = some target) :
    system.RunsWhere allowed source target :=
  Relation.ReflTransGen.tail first ⟨event, admitted, stepped⟩

/-- Weakening the side condition keeps a run. -/
theorem RunsWhere.mono
    {allowed weaker : State → Event → Prop} {source target : State}
    (weakens : ∀ state event, allowed state event → weaker state event)
    (runs : system.RunsWhere allowed source target) :
    system.RunsWhere weaker source target := by
  induction runs with
  | refl =>
      exact RunsWhere.refl source
  | tail _ last inductionHypothesis =>
      obtain ⟨event, admitted, stepped⟩ := last
      exact
        inductionHypothesis.concat (weakens _ event admitted) stepped

/-- What every admitted step preserves, every admitted run preserves. -/
theorem RunsWhere.preserves
    {allowed : State → Event → Prop} {property : State → Prop}
    (step : ∀ source event target,
      property source → allowed source event →
        system.step source event = some target → property target)
    {source target : State}
    (runs : system.RunsWhere allowed source target)
    (start : property source) :
    property target := by
  induction runs with
  | refl =>
      exact start
  | tail _ last inductionHypothesis =>
      obtain ⟨event, admitted, stepped⟩ := last
      exact step _ event _ inductionHypothesis admitted stepped

theorem ReachableWhere.start
    {allowed : State → Event → Prop} {source : State}
    (initial : system.initial source) :
    system.ReachableWhere allowed source :=
  ⟨source, initial, RunsWhere.refl source⟩

theorem ReachableWhere.extend
    {allowed : State → Event → Prop} {source target : State}
    (reachable : system.ReachableWhere allowed source)
    (runs : system.RunsWhere allowed source target) :
    system.ReachableWhere allowed target := by
  obtain ⟨start, initial, before⟩ := reachable
  exact ⟨start, initial, before.trans runs⟩

theorem ReachableWhere.mono
    {allowed weaker : State → Event → Prop} {target : State}
    (reached : system.ReachableWhere allowed target)
    (weakens : ∀ state event, allowed state event → weaker state event) :
    system.ReachableWhere weaker target := by
  obtain ⟨source, starts, runs⟩ := reached
  exact ⟨source, starts, runs.mono weakens⟩

theorem ReachableWhere.concat
    {allowed : State → Event → Prop} {source target : State}
    {event : Event}
    (reachable : system.ReachableWhere allowed source)
    (admitted : allowed source event)
    (stepped : system.step source event = some target) :
    system.ReachableWhere allowed target :=
  reachable.extend ((RunsWhere.refl source).concat admitted stepped)

theorem ReachableWhere.reachable
    {allowed : State → Event → Prop} {target : State}
    (reached : system.ReachableWhere allowed target) :
    system.Reachable target := by
  obtain ⟨source, initial, runs⟩ := reached
  exact ⟨source, initial, runs.mono fun _ _ _ => trivial⟩

theorem Reachable.concat
    {source target : State} {event : Event}
    (reachable : system.Reachable source)
    (stepped : system.step source event = some target) :
    system.Reachable target :=
  ReachableWhere.concat reachable trivial stepped

/-- The invariant rule: what holds initially and is preserved by every
admitted step holds in every state an admitted run reaches. -/
theorem ReachableWhere.invariant
    {allowed : State → Event → Prop} {property : State → Prop}
    (initial : ∀ source, system.initial source → property source)
    (step : ∀ source event target,
      property source → allowed source event →
        system.step source event = some target → property target)
    {target : State}
    (reached : system.ReachableWhere allowed target) :
    property target := by
  obtain ⟨source, starts, runs⟩ := reached
  exact runs.preserves step (initial source starts)

theorem Reachable.invariant
    {property : State → Prop}
    (initial : ∀ source, system.initial source → property source)
    (step : ∀ source event target,
      property source →
        system.step source event = some target → property target)
    {target : State}
    (reached : system.Reachable target) :
    property target :=
  ReachableWhere.invariant initial
    (fun source event target holds _ => step source event target holds)
    reached

/-- The invariant rule where a step may rely on the state being reached. -/
theorem ReachableWhere.invariant_of_reached
    {allowed : State → Event → Prop} {property : State → Prop}
    (initial : ∀ source, system.initial source → property source)
    (step : ∀ source event target,
      system.ReachableWhere allowed source → property source →
        allowed source event →
          system.step source event = some target → property target)
    {target : State}
    (reached : system.ReachableWhere allowed target) :
    property target := by
  obtain ⟨source, starts, runs⟩ := reached
  induction runs with
  | refl =>
      exact initial source starts
  | tail earlier last inductionHypothesis =>
      obtain ⟨event, admitted, stepped⟩ := last
      exact
        step _ event _ ⟨source, starts, earlier⟩ inductionHypothesis
          admitted stepped

/-- A replay whose steps all meet `allowed` is a run. -/
theorem runsWhere_of_meetsAlong
    {allowed : State → Event → Prop} {source target : State}
    {events : List Event}
    (replay : system.run source events = some target)
    (meets : system.MeetsAlong allowed source events) :
    system.RunsWhere allowed source target := by
  induction events using List.reverseRecOn generalizing target with
  | nil =>
      cases replay
      exact RunsWhere.refl source
  | append_singleton earlier event inductionHypothesis =>
      obtain ⟨middle, before, stepped⟩ := system.run_concat_eq_some replay
      have earlierMeets : system.MeetsAlong allowed source earlier := by
        intro initial inner later split
        refine meets initial inner (later ++ [event]) ?_
        simp only [split, List.append_assoc, List.cons_append]
      have admitted : allowed middle event :=
        meets earlier event [] rfl middle before
      exact (inductionHypothesis before earlierMeets).concat admitted stepped

theorem runsWhere_of_run
    {source target : State} {events : List Event}
    (replay : system.run source events = some target) :
    system.RunsWhere anyEvent source target :=
  runsWhere_of_meetsAlong replay fun _ _ _ _ _ _ => trivial

/-- A replay of events that are admitted wherever they happen. -/
theorem runsWhere_of_forall_mem
    {allowed : State → Event → Prop} {source target : State}
    {events : List Event}
    (replay : system.run source events = some target)
    (admitted : ∀ event ∈ events, ∀ state, allowed state event) :
    system.RunsWhere allowed source target := by
  refine runsWhere_of_meetsAlong replay ?_
  intro earlier event later split middle _
  refine admitted event ?_ middle
  rw [split]
  exact List.mem_append_right _ List.mem_cons_self

/-- A replay from an initial state ends in a reachable one. -/
theorem reachable_of_run
    {source : State} {events : List Event}
    (initial : system.initial source)
    (replay : (system.run source events).isSome) :
    system.Reachable ((system.run source events).get replay) :=
  ⟨source, initial, runsWhere_of_run (Option.some_get replay).symm⟩

/-- What admitted steps preserve and every other step breaks holds along a
replay if and only if every step of the replay is admitted.  `strong` is the
invariant that carries `property`. -/
theorem holdsAlong_iff_meetsAlong
    {allowed : State → Event → Prop} {property strong : State → Prop}
    {source : State} {events : List Event}
    (replay : (system.run source events).isSome)
    (begins : strong source)
    (sufficient : ∀ state, strong state → property state)
    (keeps : ∀ state event target,
      strong state → allowed state event →
        system.step state event = some target → strong target)
    (breaks : ∀ state event target,
      system.RunsWhere anyEvent source state → property state →
        ¬ allowed state event →
          system.step state event = some target → ¬ property target) :
    system.HoldsAlong property source events ↔
      system.MeetsAlong allowed source events := by
  obtain ⟨target, replayed⟩ := Option.isSome_iff_exists.mp replay
  constructor
  · intro holds earlier event later split middle reached
    by_contra refused
    have whole :
        system.run source ((earlier ++ [event]) ++ later) =
          some target := by
      rw [List.append_assoc, List.singleton_append, ← split]
      exact replayed
    obtain ⟨next, upToNext, _⟩ := system.run_append_eq_some whole
    obtain ⟨before, reachedBefore, stepped⟩ :=
      system.run_concat_eq_some upToNext
    cases reached.symm.trans reachedBefore
    have holdsBefore : property middle :=
      holds earlier (event :: later) split middle reached
    refine
      breaks middle event next (runsWhere_of_run reached) holdsBefore
        refused stepped (holds (earlier ++ [event]) later ?_ next upToNext)
    rw [split, List.append_assoc, List.singleton_append]
  · intro meets earlier later split middle reached
    have earlierMeets : system.MeetsAlong allowed source earlier := by
      intro first event rest inner
      refine meets first event (rest ++ later) ?_
      rw [split, inner, List.append_assoc, List.cons_append]
    apply sufficient
    exact
      (runsWhere_of_meetsAlong reached earlierMeets).preserves keeps begins

theorem runsWhere_of_checkedRun
    {allowed : State → Event → Prop} {check : State → Event → Bool}
    (sound : ∀ state event, check state event = true → allowed state event)
    {source target : State} {events : List Event}
    (replay : system.checkedRun check source events = some target) :
    system.RunsWhere allowed source target := by
  induction events generalizing source with
  | nil =>
      cases replay
      exact RunsWhere.refl target
  | cons event rest inductionHypothesis =>
      by_cases admitted : check source event = true
      · rw [checkedRun, if_pos admitted] at replay
        obtain ⟨middle, stepped, later⟩ := Option.bind_eq_some_iff.mp replay
        exact
          ((RunsWhere.refl source).concat
            (sound source event admitted) stepped).trans
              (inductionHypothesis later)
      · rw [checkedRun, if_neg admitted] at replay
        cases replay

end Runs

/-! ## Steps that use something up -/

section Ranking

variable {system : TransitionSystem State Event}
variable {allowed : State → Event → Prop}

/-- A measure that every admitted step decreases bounds the length of every
admitted replay. -/
theorem length_add_le_of_decreases
    (measure : State → Nat)
    (decreases : ∀ source event target, allowed source event →
      system.step source event = some target →
        measure target < measure source)
    {events : List Event} {source target : State}
    (replay : system.run source events = some target)
    (meets : system.MeetsAlong allowed source events) :
    events.length + measure target ≤ measure source := by
  induction events using List.reverseRecOn generalizing target with
  | nil =>
      cases replay
      simp
  | append_singleton earlier event inductionHypothesis =>
      obtain ⟨middle, before, stepped⟩ := system.run_concat_eq_some replay
      have earlierMeets : system.MeetsAlong allowed source earlier := by
        intro initial inner later split
        refine meets initial inner (later ++ [event]) ?_
        simp only [split, List.append_assoc, List.cons_append]
      have admitted : allowed middle event :=
        meets earlier event [] rfl middle before
      have bound := inductionHypothesis before earlierMeets
      have less := decreases middle event target admitted stepped
      rw [List.length_append, List.length_singleton]
      omega

/-- No admitted step is enabled. -/
def Quiescent (system : TransitionSystem State Event)
    (allowed : State → Event → Prop) (state : State) : Prop :=
  ∀ event, allowed state event → system.step state event = none

end Ranking

/-! ## History variables -/

section Observation

variable {History : Type w}

/-- Extend every state by a history that `observe` updates from the step
taken; no step depends on it. -/
def observed (system : TransitionSystem State Event) (start : History)
    (observe : State → Event → State → History → History) :
    TransitionSystem (State × History) Event where
  initial source := system.initial source.1 ∧ source.2 = start
  step source event :=
    (system.step source.1 event).map fun target =>
      (target, observe source.1 event target source.2)

variable {system : TransitionSystem State Event} {start : History}
variable {observe : State → Event → State → History → History}

theorem observed_initial
    {source : State} (initial : system.initial source) :
    (system.observed start observe).initial (source, start) :=
  ⟨initial, rfl⟩

theorem observed_step_eq_some
    {source target : State × History} {event : Event}
    (stepped :
      (system.observed start observe).step source event = some target) :
    ∃ next,
      system.step source.1 event = some next ∧
        target = (next, observe source.1 event next source.2) := by
  obtain ⟨next, taken, same⟩ := Option.map_eq_some_iff.mp stepped
  exact ⟨next, taken, same.symm⟩

/-- What every step preserves together with the history that it writes, every
run with a history preserves. -/
theorem observed_preserves
    {property : State × History → Prop}
    (step : ∀ source event target history,
      property (source, history) →
        system.step source event = some target →
          property (target, observe source event target history))
    {source target : State × History}
    (runs :
      (system.observed start observe).RunsWhere anyEvent source target)
    (begins : property source) :
    property target := by
  refine runs.preserves ?_ begins
  rintro ⟨before, history⟩ event after holds _ stepped
  obtain ⟨next, taken, rfl⟩ := observed_step_eq_some stepped
  exact step before event next history holds taken

/-- Forgetting the history of a run leaves a run. -/
theorem observed_forget
    {source target : State × History}
    (runs :
      (system.observed start observe).RunsWhere anyEvent source target) :
    system.RunsWhere anyEvent source.1 target.1 := by
  induction runs with
  | refl =>
      exact RunsWhere.refl source.1
  | tail _ last inductionHypothesis =>
      obtain ⟨event, _, stepped⟩ := last
      obtain ⟨next, taken, rfl⟩ := observed_step_eq_some stepped
      exact inductionHypothesis.concat trivial taken

/-- Every run carries a history. -/
theorem observed_lift
    {source target : State} (history : History)
    (runs : system.RunsWhere anyEvent source target) :
    ∃ later,
      (system.observed start observe).RunsWhere anyEvent
        (source, history) (target, later) := by
  induction runs with
  | refl =>
      exact ⟨history, RunsWhere.refl (source, history)⟩
  | @tail middle final _ last inductionHypothesis =>
      obtain ⟨event, _, stepped⟩ := last
      obtain ⟨before, lifted⟩ := inductionHypothesis
      have moved :
          (system.observed start observe).step (middle, before) event =
            some (final, observe middle event final before) := by
        simp [observed, stepped]
      exact
        ⟨observe middle event final before, lifted.concat trivial moved⟩

/-- The history neither adds nor removes reachable states. -/
theorem observed_reachable_iff (target : State) :
    (∃ history, (system.observed start observe).Reachable (target, history)) ↔
      system.Reachable target := by
  constructor
  · rintro ⟨history, source, ⟨initial, _⟩, runs⟩
    exact ⟨source.1, initial, observed_forget runs⟩
  · rintro ⟨source, initial, runs⟩
    obtain ⟨history, lifted⟩ := observed_lift start runs
    exact ⟨history, (source, start), ⟨initial, rfl⟩, lifted⟩

end Observation

/-! ## Projections -/

section Projection

variable {Component : Type w} {Local : Type x}
variable {system : TransitionSystem State Event}
variable {component : TransitionSystem Component Local}

/-- If every step moves a component by one of its own steps or not at all,
the component of a reachable state is reachable. -/
theorem reachable_project (project : State → Component)
    (initial : ∀ source,
      system.initial source → component.initial (project source))
    (step : ∀ source event target,
      system.step source event = some target →
        project target = project source ∨
          ∃ inner,
            component.step (project source) inner = some (project target))
    {target : State} (reached : system.Reachable target) :
    component.Reachable (project target) := by
  have starts :
      ∀ source, system.initial source →
        component.Reachable (project source) := by
    intro source begins
    exact ReachableWhere.start (initial source begins)
  have continues :
      ∀ source event target,
        component.Reachable (project source) →
          system.step source event = some target →
            component.Reachable (project target) := by
    intro source event target reachable stepped
    rcases step source event target stepped with unchanged | ⟨inner, moved⟩
    · rw [unchanged]
      exact reachable
    · exact reachable.concat moved
  exact reached.invariant starts continues

/-- A run whose steps are admitted is one of a component whose steps are
admitted there. -/
theorem runsWhere_project (project : State → Component)
    {allowed : State → Event → Prop}
    {admitted : Component → Local → Prop}
    (step : ∀ source event target, allowed source event →
      system.step source event = some target →
        project target = project source ∨
          ∃ inner, admitted (project source) inner ∧
            component.step (project source) inner = some (project target))
    {source target : State} (runs : system.RunsWhere allowed source target) :
    component.RunsWhere admitted (project source) (project target) := by
  induction runs with
  | refl =>
      exact RunsWhere.refl (project source)
  | tail _ last inductionHypothesis =>
      obtain ⟨event, isAllowed, stepped⟩ := last
      rcases step _ event _ isAllowed stepped with
        unchanged | ⟨inner, isAdmitted, moved⟩
      · rw [unchanged]
        exact inductionHypothesis
      · exact inductionHypothesis.concat isAdmitted moved

theorem reachableWhere_project (project : State → Component)
    {allowed : State → Event → Prop}
    {admitted : Component → Local → Prop}
    (initial : ∀ source,
      system.initial source → component.initial (project source))
    (step : ∀ source event target, allowed source event →
      system.step source event = some target →
        project target = project source ∨
          ∃ inner, admitted (project source) inner ∧
            component.step (project source) inner = some (project target))
    {target : State} (reached : system.ReachableWhere allowed target) :
    component.ReachableWhere admitted (project target) := by
  obtain ⟨source, begins, runs⟩ := reached
  exact
    ⟨project source, initial source begins,
      runsWhere_project project step runs⟩

end Projection

/-! ## Simulations -/

section Simulation

variable {Abstract : Type w} {Deed : Type x}
variable {system : TransitionSystem State Event}
variable {abstract : TransitionSystem Abstract Deed}

/-- A reachable state that is related to a reachable one. -/
def Matched (system : TransitionSystem State Event)
    (abstract : TransitionSystem Abstract Deed)
    (related : State → Abstract → Prop) (target : State) : Prop :=
  system.Reachable target ∧
    ∃ image, abstract.Reachable image ∧ related target image

/-- A forward simulation: if every step from a reachable state that is
related to a reachable one is matched by a step of the abstract system or by
none, every reachable state is related to a reachable one. -/
theorem reachable_simulate (related : State → Abstract → Prop)
    (initial : ∀ source, system.initial source →
      ∃ image, abstract.initial image ∧ related source image)
    (step : ∀ source event target image,
      system.Reachable source → abstract.Reachable image →
        related source image →
          system.step source event = some target →
            related target image ∨
              ∃ deed next,
                abstract.step image deed = some next ∧ related target next)
    {target : State} (reached : system.Reachable target) :
    ∃ image, abstract.Reachable image ∧ related target image := by
  have both : system.Matched abstract related target := by
    refine reached.invariant ?_ ?_
    · intro source begins
      obtain ⟨image, starts, relates⟩ := initial source begins
      exact
        ⟨ReachableWhere.start begins, image, ReachableWhere.start starts,
          relates⟩
    · rintro source event next ⟨reachable, image, reachedImage, relates⟩
        stepped
      refine ⟨reachable.concat stepped, ?_⟩
      rcases step source event next image reachable reachedImage relates
          stepped with
        unmatched | ⟨deed, matched, taken, relatesNext⟩
      · exact ⟨image, reachedImage, unmatched⟩
      · exact ⟨matched, reachedImage.concat taken, relatesNext⟩
  exact both.2

/-- A projection may rely on what holds in every reachable state of either
system. -/
theorem reachable_project_reachable (project : State → Abstract)
    (initial : ∀ source,
      system.initial source → abstract.initial (project source))
    (step : ∀ source event target,
      system.Reachable source → abstract.Reachable (project source) →
        system.step source event = some target →
          project target = project source ∨
            ∃ deed,
              abstract.step (project source) deed = some (project target))
    {target : State} (reached : system.Reachable target) :
    abstract.Reachable (project target) := by
  obtain ⟨image, reachedImage, same⟩ :=
    reachable_simulate (fun source image => image = project source)
      (fun source begins => ⟨project source, initial source begins, rfl⟩)
      (by
        rintro source event next image reachable reachedImage rfl stepped
        rcases step source event next reachable reachedImage stepped with
          unchanged | ⟨deed, taken⟩
        · exact Or.inl unchanged.symm
        · exact Or.inr ⟨deed, project next, taken, rfl⟩)
      reached
  rw [← same]
  exact reachedImage

end Simulation

end TransitionSystem
