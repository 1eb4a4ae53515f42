import CloudP2P.Bookkeeping
import CloudP2P.Semaphore
import CloudP2P.Provider.Service

/-!
# The connection limit

`main.rs` counts connections with a semaphore of `max_connections` permits
and tries to acquire one before it spawns an accept task.  This module adds
the semaphore to the service: the outcome of `try_acquire` is no longer free.
-/

universe u v

namespace CloudP2P.Provider

/-- `max_connections` -/
def maxConnections : Nat := 10

/-- The accept tasks that have not finished. -/
def Service.unfinished {Endpoint : Type u} {Ends : Type v}
    (service : Service Endpoint Ends) : Nat :=
  service.tasks.countP fun task => !task.pc.isFinished

structure LimitedService (Endpoint : Type u) (Ends : Type v) where
  service : Service Endpoint Ends
  semaphore : Semaphore maxConnections

namespace LimitedService

variable {Endpoint : Type u} {Ends : Type v}

def start : LimitedService Endpoint Ends where
  service := Service.start
  semaphore := Semaphore.new maxConnections

/-- A step that does not look at the semaphore. -/
def unguarded (limited : LimitedService Endpoint Ends)
    (next : Option (Service Endpoint Ends)) :
    Option (LimitedService Endpoint Ends) :=
  next.map fun service => { limited with service := service }

/-- A step inside `match semaphore.try_acquire()`.  Its `Ok(_)` does not bind
the permit, and what the spawned task drops at its end is a clone of the
`Arc` around the semaphore. -/
def guarded (limited : LimitedService Endpoint Ends) (acquired : Bool)
    (next : Option (Service Endpoint Ends)) :
    Option (LimitedService Endpoint Ends) :=
  let (granted, semaphore) := limited.semaphore.matchTryAcquire
  if acquired = granted then
    next.map fun service => { service := service, semaphore := semaphore }
  else
    none

variable [DecidableEq Ends]

def step (myId : UInt64) (endpoints : List Endpoint)
    (limited : LimitedService Endpoint Ends)
    (event : ServiceEvent Ends) :
    Option (LimitedService Endpoint Ends) :=
  let next := limited.service.step myId endpoints event
  match event with
  | .connection (.offer acquired) => limited.guarded acquired next
  | .connection (.drain acquired) =>
      -- `try_acquire` is only called for an endpoint from the queue
      match limited.service.requestQueue with
      | _ :: _ => limited.guarded acquired next
      | [] => limited.unguarded next
  | _ => limited.unguarded next

end LimitedService

/-- The service of the node `myId` with its semaphore. -/
def limitedSystem {Endpoint : Type u} {Ends : Type v} [DecidableEq Ends]
    (myId : UInt64) (endpoints : List Endpoint) :
    TransitionSystem (LimitedService Endpoint Ends)
      (ServiceEvent Ends) where
  initial limited := limited = LimitedService.start
  step := LimitedService.step myId endpoints

/-! ## Counting accept tasks -/

namespace Service

variable {Endpoint : Type u} {Ends : Type v}
variable {service target : Service Endpoint Ends}

@[simp]
theorem unfinished_spawn (endpoint : Endpoint) :
    (service.spawn endpoint).unfinished = service.unfinished + 1 := by
  simp [unfinished, spawn, TaskPc.isFinished]

theorem unfinished_setTask_le
    {index : Nat} {task : AcceptTask Endpoint Ends}
    (found : service.tasks[index]? = some task)
    (running : task.pc.isFinished = false) (pc : TaskPc Ends) :
    (service.setTask index pc).unfinished ≤ service.unfinished :=
  countP_modify_le _ _ found (by rw [running]; rfl)

/-- The event spawns an accept task. -/
def spawns (service : Service Endpoint Ends) : ServiceEvent Ends → Bool
  | .connection (.offer acquired) => acquired
  | .connection (.drain acquired) =>
      acquired && !service.requestQueue.isEmpty
  | _ => false

variable [DecidableEq Ends]
variable {myId : UInt64} {endpoints : List Endpoint}
variable {event : ServiceEvent Ends}

/-- A step adds the task it spawns, if any, to the unfinished ones. -/
theorem Moves.unfinished_le
    (moves : Moves myId endpoints service event target) :
    target.unfinished ≤
      service.unfinished + (if service.spawns event then 1 else 0) := by
  cases moves with
  | storeLeader =>
      exact Nat.le_add_right _ _
  | connection event target moves =>
      cases moves with
      | offer endpoint rest offering =>
          exact Nat.le_of_eq (unfinished_spawn endpoint)
      | drain endpoint queue draining queued =>
          have spawned :
              service.spawns (.connection (.drain true)) = true := by
            simp [spawns, queued]
          rw [if_pos spawned]
          exact Nat.le_of_eq (unfinished_spawn endpoint)
      | stay | enter | queue | lockQueue | drained | rest =>
          exact Nat.le_add_right _ _
  | task index task event target found moves =>
      cases moves with
      | accept _ pc | connect _ pc | create _ pc | push _ pc =>
          exact unfinished_setTask_le found (by rw [pc]; rfl) _
  | steg event target moves =>
      cases moves <;> exact Nat.le_add_right _ _

end Service

/-! ## What the semaphore refuses -/

namespace LimitedService

variable {Endpoint : Type u} {Ends : Type v} [DecidableEq Ends]
variable {myId : UInt64} {endpoints : List Endpoint}
variable {limited target : LimitedService Endpoint Ends}
variable {event : ServiceEvent Ends}

/-- The event is a refused `try_acquire`. -/
def refuses (limited : LimitedService Endpoint Ends) :
    ServiceEvent Ends → Bool
  | .connection (.offer acquired) => !acquired
  | .connection (.drain acquired) =>
      !acquired && !limited.service.requestQueue.isEmpty
  | _ => false

omit [DecidableEq Ends] in
private theorem of_unguarded
    {next : Option (Service Endpoint Ends)}
    (stepped : limited.unguarded next = some target) :
    next = some target.service ∧ target.semaphore = limited.semaphore := by
  obtain ⟨service, moved, same⟩ := Option.map_eq_some_iff.mp stepped
  subst same
  exact ⟨moved, rfl⟩

omit [DecidableEq Ends] in
private theorem of_guarded
    {acquired : Bool} {next : Option (Service Endpoint Ends)}
    (stepped : limited.guarded acquired next = some target) :
    next = some target.service ∧ target.semaphore = limited.semaphore ∧
      acquired =
        decide (limited.semaphore.acquired < maxConnections) := by
  rcases matched : limited.semaphore.matchTryAcquire with
    ⟨granted, semaphore⟩
  simp only [guarded, matched] at stepped
  split at stepped
  · rename_i agrees
    obtain ⟨service, moved, same⟩ := Option.map_eq_some_iff.mp stepped
    subst same
    have unchanged := limited.semaphore.matchTryAcquire_unchanged
    have room := limited.semaphore.matchTryAcquire_granted
    rw [matched] at unchanged room
    exact ⟨moved, unchanged, agrees.trans room⟩
  · cases stepped

/-- A step is a step of the service, leaves the semaphore as it was, and is
refused only when all permits are out. -/
theorem step_eq_some
    (stepped : limited.step myId endpoints event = some target) :
    limited.service.step myId endpoints event = some target.service ∧
      target.semaphore = limited.semaphore ∧
        (limited.refuses event = true →
          limited.semaphore.acquired = maxConnections) := by
  have full :
      decide (limited.semaphore.acquired < maxConnections) = false →
        limited.semaphore.acquired = maxConnections := by
    intro noRoom
    exact
      Nat.le_antisymm limited.semaphore.acquired_le
        (Nat.not_lt.mp (of_decide_eq_false noRoom))
  unfold step at stepped
  dsimp only at stepped
  split at stepped
  · obtain ⟨moved, unchanged, acquired⟩ := of_guarded stepped
    refine ⟨moved, unchanged, ?_⟩
    intro refused
    simp only [refuses, Bool.not_eq_true'] at refused
    exact full (acquired.symm.trans refused)
  · split at stepped
    · obtain ⟨moved, unchanged, acquired⟩ := of_guarded stepped
      refine ⟨moved, unchanged, ?_⟩
      intro refused
      simp only [refuses, Bool.and_eq_true, Bool.not_eq_true'] at refused
      exact full (acquired.symm.trans refused.1)
    · rename_i empty
      obtain ⟨moved, unchanged⟩ := of_unguarded stepped
      refine ⟨moved, unchanged, ?_⟩
      simp [refuses, empty]
  · rename_i noOffer noDrain
    obtain ⟨moved, unchanged⟩ := of_unguarded stepped
    refine ⟨moved, unchanged, ?_⟩
    intro refused
    unfold refuses at refused
    split at refused
    · exact False.elim (noOffer _ rfl)
    · exact False.elim (noDrain _ rfl)
    · cases refused

/-- The semaphore takes no part in what the service does: every run is a run
of the service alone. -/
theorem service_reachable
    (reachable : (limitedSystem myId endpoints).Reachable limited) :
    (serviceSystem myId endpoints).Reachable limited.service := by
  refine
    TransitionSystem.reachable_project LimitedService.service ?_ ?_
      reachable
  · intro source initial
    have fresh : source = LimitedService.start := initial
    rw [fresh]
    rfl
  · intro source event target stepped
    exact Or.inr ⟨event, (step_eq_some stepped).1⟩

/-- No permit is ever out between two steps, so nothing is ever queued. -/
structure Unlimited (limited : LimitedService Endpoint Ends) : Prop where
  permits : limited.semaphore.acquired = 0
  queue : limited.service.requestQueue = []

theorem Unlimited.granted
    (unlimited : Unlimited limited)
    (stepped : limited.step myId endpoints event = some target) :
    limited.refuses event = false := by
  obtain ⟨_, _, full⟩ := step_eq_some stepped
  by_contra refused
  have allOut := full (Bool.eq_true_of_not_eq_false refused)
  rw [unlimited.permits] at allOut
  cases allOut

theorem Unlimited.step
    (unlimited : Unlimited limited)
    (stepped : limited.step myId endpoints event = some target) :
    Unlimited target := by
  obtain ⟨moved, unchanged, _⟩ := step_eq_some stepped
  have moves := Service.moves_of_step moved
  have granted := unlimited.granted stepped
  refine { permits := by rw [unchanged, unlimited.permits], queue := ?_ }
  have empty := unlimited.queue
  generalize target.service = next at moves ⊢
  cases moves with
  | storeLeader =>
      exact empty
  | connection event target moves =>
      cases moves with
      | stay | enter | offer | lockQueue | drained | rest =>
          exact empty
      | queue =>
          cases granted
      | drain endpoint queue draining queued =>
          rw [empty] at queued
          cases queued
  | task index task event target found moves =>
      cases moves <;> exact empty
  | steg event target moves =>
      cases moves <;> exact empty

theorem unlimited_of_runsWhere
    {allowed : LimitedService Endpoint Ends → ServiceEvent Ends → Prop}
    (runs :
      (limitedSystem myId endpoints).RunsWhere allowed
        LimitedService.start limited) :
    Unlimited limited := by
  have begins :
      Unlimited (LimitedService.start : LimitedService Endpoint Ends) :=
    { permits := rfl, queue := rfl }
  exact runs.preserves (fun _ _ _ holds _ => holds.step) begins

/-- The connection loop comes to an endpoint only while the limit is not
reached. -/
def offersBelowLimit (limited : LimitedService Endpoint Ends) :
    ServiceEvent Ends → Prop
  | .connection (.offer _) => limited.service.unfinished < maxConnections
  | .connection _ => True
  | .storeLeader _ => True
  | .task _ _ => True
  | .steg _ => True

/-- Only an offer spawns a task, as the queue is always empty. -/
theorem Unlimited.unfinished_le
    (unlimited : Unlimited limited)
    (within : limited.service.unfinished ≤ maxConnections)
    (below : limited.offersBelowLimit event)
    (stepped : limited.step myId endpoints event = some target) :
    target.service.unfinished ≤ maxConnections := by
  have grown :=
    (Service.moves_of_step (step_eq_some stepped).1).unfinished_le
  cases spawned : limited.service.spawns event with
  | false =>
      rw [spawned] at grown
      exact grown.trans within
  | true =>
      rw [spawned] at grown
      unfold Service.spawns at spawned
      split at spawned
      · exact grown.trans below
      · simp [unlimited.queue] at spawned
      · cases spawned

/-- An offer is granted and spawns a task. -/
theorem Unlimited.unfinished_offer
    {acquired : Bool} (unlimited : Unlimited limited)
    (stepped :
      limited.step myId endpoints (.connection (.offer acquired)) =
        some target) :
    target.service.unfinished = limited.service.unfinished + 1 := by
  have moves := Service.moves_of_step (step_eq_some stepped).1
  have granted := unlimited.granted stepped
  generalize target.service = next at moves
  cases moves with
  | connection event next moves =>
      cases moves with
      | offer endpoint rest offering =>
          exact Service.unfinished_spawn endpoint
      | queue =>
          cases granted

/-- The limit holds throughout a run if and only if the connection loop
never comes to an endpoint while the limit is reached: the semaphore itself
refuses nothing. -/
theorem connectionLimit_along_iff
    {events : List (ServiceEvent Ends)}
    (replay :
      ((limitedSystem myId endpoints).run
        (LimitedService.start : LimitedService Endpoint Ends)
        events).isSome) :
    (limitedSystem myId endpoints).HoldsAlong
        (fun limited => limited.service.unfinished ≤ maxConnections)
        LimitedService.start events ↔
      (limitedSystem myId endpoints).MeetsAlong offersBelowLimit
        LimitedService.start events := by
  have begins :
      Unlimited (LimitedService.start : LimitedService Endpoint Ends) ∧
        (LimitedService.start : LimitedService Endpoint
          Ends).service.unfinished ≤ maxConnections :=
    ⟨{ permits := rfl, queue := rfl }, Nat.zero_le _⟩
  have keeps :
      ∀ (source : LimitedService Endpoint Ends) event target,
        (Unlimited source ∧
            source.service.unfinished ≤ maxConnections) →
          source.offersBelowLimit event →
            (limitedSystem myId endpoints).step source event =
                some target →
              Unlimited target ∧
                target.service.unfinished ≤ maxConnections := by
    rintro source event target ⟨unlimited, within⟩ below stepped
    exact
      ⟨unlimited.step stepped,
        unlimited.unfinished_le within below stepped⟩
  refine
    TransitionSystem.holdsAlong_iff_meetsAlong replay begins
      (fun _ holds => holds.2) keeps ?_
  intro source event target runs _ breaks stepped
  have unlimited := unlimited_of_runsWhere runs
  unfold offersBelowLimit at breaks
  split at breaks
  · have grown := unlimited.unfinished_offer stepped
    omega
  · exact False.elim (breaks trivial)
  · exact False.elim (breaks trivial)
  · exact False.elim (breaks trivial)
  · exact False.elim (breaks trivial)

end LimitedService

/-! ## Eleven accept tasks -/

/-- One iteration of the connection loop on one endpoint. -/
def connectionIteration : List (ServiceEvent Nat) :=
  [.connection .check, .connection (.offer true), .connection .lockQueue,
   .connection (.drain true), .connection (.rest false)]

/-- Node 2 is made leader, and nobody connects for some iterations. -/
def nobodyConnects (iterations : Nat) : List (ServiceEvent Nat) :=
  .storeLeader 2 :: (List.replicate iterations connectionIteration).flatten

theorem connectionLimit_along_ten :
    (limitedSystem 2 [()]).HoldsAlong
        (fun limited => limited.service.unfinished ≤ maxConnections)
        LimitedService.start (nobodyConnects 10) ↔
      (limitedSystem 2 [()]).MeetsAlong
        LimitedService.offersBelowLimit
        LimitedService.start (nobodyConnects 10) :=
  LimitedService.connectionLimit_along_iff (by decide +kernel)

/-- The service after eleven iterations. -/
def crowded : LimitedService Unit Nat :=
  ((limitedSystem 2 [()]).run LimitedService.start
    (nobodyConnects 11)).get (by decide +kernel)

theorem limit_exceeded_by_crowded :
    (limitedSystem 2 [()]).Reachable crowded ∧
      ¬ crowded.service.unfinished ≤ maxConnections :=
  ⟨TransitionSystem.reachable_of_run rfl _, by decide +kernel⟩

end CloudP2P.Provider
