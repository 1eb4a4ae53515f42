import CloudP2P.Tickets
import CloudP2P.Provider.Service

/-!
# The request queue

Each turn of the `for` loop over the server endpoints is an attempt to spawn
an accept task: it succeeds at once, or its endpoint is queued and the task
is spawned when the queue is drained.  The history numbers the attempts in
the order in which they are made.
-/

universe u v

namespace CloudP2P.Provider

section Attempts

variable {Endpoint : Type u} {Ends : Type v}

/-- The ticket of an attempt is issued when it is made, and served when its
task is spawned. -/
def observeAttempt (source : Service Endpoint Ends)
    (event : ServiceEvent Ends) (_target : Service Endpoint Ends)
    (attempts : Tickets Endpoint) : Tickets Endpoint :=
  match event, source.connection with
  | .connection (.offer acquired), .offering (endpoint :: _) =>
      if acquired then
        attempts.serveNew endpoint
      else
        attempts.enqueue endpoint
  | .connection (.drain true), _ => attempts.serveWaiting
  | _, _ => attempts

/-- The service with the numbers of its attempts. -/
def attemptSystem [DecidableEq Ends] (myId : UInt64)
    (endpoints : List Endpoint) :
    TransitionSystem (Service Endpoint Ends × Tickets Endpoint)
      (ServiceEvent Ends) :=
  (serviceSystem myId endpoints).observed Tickets.fresh observeAttempt

/-- Every attempt has one task or stands in `request_queue` once. -/
def AttemptsKept (state : Service Endpoint Ends × Tickets Endpoint) :
    Prop :=
  state.2.Tracks (state.1.tasks.map AcceptTask.endpoint)
    state.1.requestQueue

/-- The tasks are spawned in the order of the attempts, and the attempts in
`request_queue` are the latest. -/
def AttemptsInOrder (state : Service Endpoint Ends × Tickets Endpoint) :
    Prop :=
  state.2.InOrder

/-- No attempt succeeds at once while another one is queued. -/
def QueueFirst (state : Service Endpoint Ends × Tickets Endpoint)
    (event : ServiceEvent Ends) : Prop :=
  match event with
  | .connection (.offer true) => state.1.requestQueue = []
  | _ => True

/-! ## One step -/

theorem endpoints_setTask
    (service : Service Endpoint Ends) (index : Nat) (pc : TaskPc Ends) :
    (service.setTask index pc).tasks.map AcceptTask.endpoint =
      service.tasks.map AcceptTask.endpoint := by
  apply List.ext_getElem?
  intro position
  simp only [Service.setTask, List.getElem?_map, List.getElem?_modify]
  cases service.tasks[position]? with
  | none =>
      rfl
  | some task =>
      by_cases same : index = position
      · simp [same]
      · simp [same]

theorem endpoints_spawn
    (service : Service Endpoint Ends) (endpoint : Endpoint) :
    (service.spawn endpoint).tasks.map AcceptTask.endpoint =
      service.tasks.map AcceptTask.endpoint ++ [endpoint] := by
  rw [Service.spawn, List.map_append, List.map_singleton]

theorem endpoints_taskMoves
    {service target : Service Endpoint Ends} {index : Nat}
    {task : AcceptTask Endpoint Ends} {event : TaskEvent Ends}
    (moves : Service.TaskMoves service index task event target) :
    target.tasks.map AcceptTask.endpoint =
        service.tasks.map AcceptTask.endpoint ∧
      target.requestQueue = service.requestQueue := by
  cases moves with
  | accept | connect | create | push =>
      exact ⟨endpoints_setTask _ _ _, rfl⟩

/-- A draining step without a task to spawn serves no ticket. -/
private theorem serveWaiting_of_empty
    {attempts : Tickets Endpoint} {spawned queued : List Endpoint}
    (tracks : attempts.Tracks spawned queued) (empty : queued = []) :
    attempts.serveWaiting = attempts := by
  have noneWaits := tracks.waiting_eq_nil_iff.mpr empty
  rw [Tickets.serveWaiting, noneWaits]

theorem attemptsKept_connectionMoves
    {myId : UInt64} {endpoints : List Endpoint}
    {service target : Service Endpoint Ends}
    {attempts : Tickets Endpoint} {event : ConnectionEvent}
    (kept : AttemptsKept (service, attempts))
    (moves :
      Service.ConnectionMoves myId endpoints service event target) :
    AttemptsKept
      (target,
        observeAttempt service (.connection event) target attempts) := by
  cases moves with
  | stay | enter | lockQueue | rest =>
      exact kept
  | offer endpoint rest offering =>
      simp only [observeAttempt, offering, if_true]
      unfold AttemptsKept
      rw [endpoints_spawn]
      exact Tickets.Tracks.serveNew kept endpoint
  | queue endpoint rest offering =>
      simp only [observeAttempt, offering]
      exact Tickets.Tracks.enqueue kept endpoint
  | drain endpoint queue draining queued =>
      unfold AttemptsKept at kept ⊢
      dsimp only at kept
      rw [queued] at kept
      rw [endpoints_spawn]
      exact Tickets.Tracks.serveWaiting kept
  | drained acquired draining noSpawn =>
      cases acquired with
      | false =>
          exact kept
      | true =>
          have unchanged := serveWaiting_of_empty kept (noSpawn rfl)
          simp only [observeAttempt, unchanged]
          exact kept

/-- Attempts in order stay so exactly when none overtakes the queue. -/
theorem attemptsInOrder_connectionMoves_iff
    {myId : UInt64} {endpoints : List Endpoint}
    {service target : Service Endpoint Ends}
    {attempts : Tickets Endpoint} {event : ConnectionEvent}
    (kept : AttemptsKept (service, attempts))
    (inOrder : AttemptsInOrder (service, attempts))
    (moves :
      Service.ConnectionMoves myId endpoints service event target) :
    AttemptsInOrder
        (target,
          observeAttempt service (.connection event) target attempts) ↔
      QueueFirst (service, attempts) (.connection event) := by
  cases moves with
  | stay | enter | lockQueue | rest =>
      exact iff_of_true inOrder trivial
  | offer endpoint rest offering =>
      simp only [observeAttempt, offering, if_true]
      exact
        (Tickets.inOrder_serveNew_iff inOrder endpoint).trans
          (Tickets.Tracks.waiting_eq_nil_iff kept)
  | queue endpoint rest offering =>
      simp only [observeAttempt, offering]
      exact
        iff_of_true (Tickets.InOrder.enqueue inOrder endpoint) trivial
  | drain endpoint queue draining queued =>
      exact
        iff_of_true (Tickets.InOrder.serveWaiting inOrder) trivial
  | drained acquired draining noSpawn =>
      cases acquired with
      | false =>
          exact iff_of_true inOrder trivial
      | true =>
          exact
            iff_of_true (Tickets.InOrder.serveWaiting inOrder) trivial

theorem attemptsKept_start :
    AttemptsKept
      ((Service.start, Tickets.fresh) :
        Service Endpoint Ends × Tickets Endpoint) :=
  Tickets.tracks_fresh

variable [DecidableEq Ends]

theorem attemptsKept_moves
    {myId : UInt64} {endpoints : List Endpoint}
    {service target : Service Endpoint Ends}
    {attempts : Tickets Endpoint} {event : ServiceEvent Ends}
    (kept : AttemptsKept (service, attempts))
    (moves : Service.Moves myId endpoints service event target) :
    AttemptsKept
      (target, observeAttempt service event target attempts) := by
  cases moves with
  | storeLeader =>
      exact kept
  | connection event target moves =>
      exact attemptsKept_connectionMoves kept moves
  | task index task event target found moves =>
      obtain ⟨sameEndpoints, sameQueue⟩ := endpoints_taskMoves moves
      unfold AttemptsKept
      rw [sameEndpoints, sameQueue]
      exact kept
  | steg event target moves =>
      cases moves <;> exact kept

theorem attemptsInOrder_moves_iff
    {myId : UInt64} {endpoints : List Endpoint}
    {service target : Service Endpoint Ends}
    {attempts : Tickets Endpoint} {event : ServiceEvent Ends}
    (kept : AttemptsKept (service, attempts))
    (inOrder : AttemptsInOrder (service, attempts))
    (moves : Service.Moves myId endpoints service event target) :
    AttemptsInOrder
        (target, observeAttempt service event target attempts) ↔
      QueueFirst (service, attempts) event := by
  cases moves with
  | connection event target moves =>
      exact attemptsInOrder_connectionMoves_iff kept inOrder moves
  | storeLeader | task | steg =>
      exact iff_of_true inOrder trivial

/-! ## Runs -/

section Runs

variable {myId : UInt64} {endpoints : List Endpoint}

/-- No attempt is lost or made twice. -/
theorem attemptsKept_of_runsWhere
    {source target : Service Endpoint Ends × Tickets Endpoint}
    (kept : AttemptsKept source)
    (runs :
      (attemptSystem myId endpoints).RunsWhere
        TransitionSystem.anyEvent source target) :
    AttemptsKept target := by
  refine TransitionSystem.observed_preserves ?_ runs kept
  intro service event next attempts stillKept stepped
  exact attemptsKept_moves stillKept (Service.moves_of_step stepped)

/-- Along every run, each attempt has one task or is queued once; and the
tasks are spawned in the order of the attempts if and only if no attempt
succeeds at once while another one is queued. -/
theorem attempts_along_iff
    {events : List (ServiceEvent Ends)}
    (replay :
      ((attemptSystem myId endpoints).run (Service.start, Tickets.fresh)
        events).isSome) :
    (attemptSystem myId endpoints).HoldsAlong AttemptsKept
        (Service.start, Tickets.fresh) events ∧
      ((attemptSystem myId endpoints).HoldsAlong AttemptsInOrder
          (Service.start, Tickets.fresh) events ↔
        (attemptSystem myId endpoints).MeetsAlong QueueFirst
          (Service.start, Tickets.fresh) events) := by
  constructor
  · intro earlier later split middle reached
    exact
      attemptsKept_of_runsWhere attemptsKept_start
        (TransitionSystem.runsWhere_of_run reached)
  · have keeps :
        ∀ (state : Service Endpoint Ends × Tickets Endpoint) event
            target,
          AttemptsKept state ∧ AttemptsInOrder state →
            QueueFirst state event →
              (attemptSystem myId endpoints).step state event =
                  some target →
                AttemptsKept target ∧ AttemptsInOrder target := by
      rintro ⟨service, attempts⟩ event target ⟨kept, inOrder⟩ queueFirst
        stepped
      obtain ⟨next, taken, rfl⟩ :=
        TransitionSystem.observed_step_eq_some stepped
      have moves := Service.moves_of_step taken
      exact
        ⟨attemptsKept_moves kept moves,
          (attemptsInOrder_moves_iff kept inOrder moves).mpr queueFirst⟩
    refine
      TransitionSystem.holdsAlong_iff_meetsAlong replay
        ⟨attemptsKept_start, Tickets.inOrder_fresh⟩
        (fun _ both => both.2) keeps ?_
    rintro ⟨service, attempts⟩ event target runs inOrder overtakes stepped
      stillInOrder
    have kept := attemptsKept_of_runsWhere attemptsKept_start runs
    obtain ⟨next, taken, rfl⟩ :=
      TransitionSystem.observed_step_eq_some stepped
    exact
      overtakes
        ((attemptsInOrder_moves_iff kept inOrder
          (Service.moves_of_step taken)).mp stillInOrder)

end Runs

end Attempts

/-! ## One endpoint -/

/-- The first attempt fails twice, and the next one succeeds at once. -/
def overtaking : List (ServiceEvent Nat) :=
  [.storeLeader 2, .connection .check, .connection (.offer false),
   .connection .lockQueue, .connection (.drain false),
   .connection (.rest false), .connection .check,
   .connection (.offer true)]

theorem attempts_along_overtaking :
    (attemptSystem 2 [()]).HoldsAlong AttemptsKept
        (Service.start, Tickets.fresh) overtaking ∧
      ((attemptSystem 2 [()]).HoldsAlong AttemptsInOrder
          (Service.start, Tickets.fresh) overtaking ↔
        (attemptSystem 2 [()]).MeetsAlong QueueFirst
          (Service.start, Tickets.fresh) overtaking) :=
  attempts_along_iff (by decide +kernel)

/-- The service after that. -/
def overtaken : Service Unit Nat × Tickets Unit :=
  ((attemptSystem 2 [()]).run (Service.start, Tickets.fresh)
    overtaking).get (by decide +kernel)

/-- Attempt 1 has a task while attempt 0 is still queued. -/
theorem overtaken_out_of_order :
    overtaken.2.served = [1] ∧ overtaken.2.waiting = [0] ∧
      ¬ ∀ (myId : UInt64) (endpoints : List Unit)
          (state : Service Unit Nat × Tickets Unit),
        (attemptSystem myId endpoints).Reachable state →
          AttemptsInOrder state := by
  refine ⟨by decide +kernel, by decide +kernel, ?_⟩
  intro inOrder
  have begins :
      (attemptSystem 2 [()]).initial
        ((Service.start, Tickets.fresh) :
          Service Unit Nat × Tickets Unit) :=
    TransitionSystem.observed_initial rfl
  have reachable : (attemptSystem 2 [()]).Reachable overtaken :=
    TransitionSystem.reachable_of_run begins _
  have ordered :
      overtaken.2.served ++ overtaken.2.waiting =
        List.range overtaken.2.issued.length :=
    inOrder 2 [()] overtaken reachable
  exact absurd ordered (by decide +kernel)

end CloudP2P.Provider
