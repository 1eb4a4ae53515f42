import CloudP2P.TransitionSystem
import Mathlib.Data.Finset.Erase
import Mathlib.Data.Finset.Insert

/-!
# The service of a provider

The tasks of `main.rs` next to the node task: the connection loop with its
`request_queue`, the accept tasks it spawns, and the loop that sweeps
`transport_ends_vec` and keeps `contexts`.  They share `CURRENT_LEADER_ID`,
which the node task stores to at any time, and the mutex around
`transport_ends_vec`, which the sweep holds while it probes.

Each task advances from one await point, blocking call or access to shared
data to the next, and any other task may run in between.  The outcomes of
`try_acquire`, of `quinn` and of `is_active`, and Ctrl-C, come with the
events.
-/

universe u v

namespace CloudP2P.Provider

/-- Where an accept task stands. -/
inductive TaskPc (Ends : Type v) where
  | accepting
  | connecting
  | creating
  | pushing (ends : Ends)
  | finished
  deriving DecidableEq

def TaskPc.isFinished {Ends : Type v} : TaskPc Ends → Bool
  | .finished => true
  | .accepting => false
  | .connecting => false
  | .creating => false
  | .pushing _ => false

structure AcceptTask (Endpoint : Type u) (Ends : Type v) where
  endpoint : Endpoint
  pc : TaskPc Ends
  deriving DecidableEq

/-- Where the connection loop stands: `offering` holds the endpoints left in
the `for` loop, `resting` is the wait for Ctrl-C and the sleep. -/
inductive ConnectionPc (Endpoint : Type u) where
  | head
  | offering (rest : List Endpoint)
  | draining
  | resting
  | stopped
  deriving DecidableEq

/-- Where the sweep stands: `waiting` holds `contexts` and waits for
`transport_ends_vec`, `sweeping` is inside `retain`. -/
inductive StegPc (Ends : Type v) where
  | head
  | waiting
  | sweeping (kept rest : List Ends)
  | resting
  | stopped
  deriving DecidableEq

structure Service (Endpoint : Type u) (Ends : Type v) where
  /-- `CURRENT_LEADER_ID` -/
  currentLeaderId : UInt64
  connection : ConnectionPc Endpoint
  requestQueue : List Endpoint
  tasks : List (AcceptTask Endpoint Ends)
  transportEndsVec : List Ends
  /-- the keys of `contexts` -/
  contexts : Finset Ends
  steg : StegPc Ends

inductive ConnectionEvent where
  | check
  | offer (acquired : Bool)
  | lockQueue
  | drain (acquired : Bool)
  | rest (stop : Bool)

inductive TaskEvent (Ends : Type v) where
  /-- the result of `timeout(.., endpoint.accept())` -/
  | accepted (incoming : Bool)
  | connected (established : Bool)
  | created (ends : Option Ends)
  | push

inductive StegEvent where
  | check
  | lockVec
  | probe (active : Bool)
  | release
  | rest (stop : Bool)

inductive ServiceEvent (Ends : Type v) where
  | storeLeader (leaderId : UInt64)
  | connection (event : ConnectionEvent)
  | task (index : Nat) (event : TaskEvent Ends)
  | steg (event : StegEvent)

namespace Service

variable {Endpoint : Type u} {Ends : Type v}

/-- The state in which `main` spawns its tasks. -/
def start : Service Endpoint Ends where
  currentLeaderId := 0
  connection := .head
  requestQueue := []
  tasks := []
  transportEndsVec := []
  contexts := ∅
  steg := .head

/-- `tokio::spawn` of an accept task for `endpoint`. -/
def spawn (service : Service Endpoint Ends) (endpoint : Endpoint) :
    Service Endpoint Ends :=
  { service with
    tasks := service.tasks ++ [{ endpoint := endpoint, pc := .accepting }] }

def setTask (service : Service Endpoint Ends) (index : Nat)
    (pc : TaskPc Ends) : Service Endpoint Ends :=
  { service with
    tasks :=
      service.tasks.modify index fun task => { task with pc := pc } }

/-- The sweep holds the mutex around `transport_ends_vec`. -/
def vecLocked (service : Service Endpoint Ends) : Bool :=
  match service.steg with
  | .sweeping _ _ => true
  | .head => false
  | .waiting => false
  | .resting => false
  | .stopped => false

def stepConnection (myId : UInt64) (endpoints : List Endpoint)
    (service : Service Endpoint Ends) :
    ConnectionEvent → Option (Service Endpoint Ends)
  | .check =>
      match service.connection with
      | .head =>
          if service.currentLeaderId ≠ myId then
            some service
          else
            some { service with connection := .offering endpoints }
      | _ => none
  | .offer acquired =>
      match service.connection with
      | .offering (endpoint :: rest) =>
          if acquired then
            some
              { service.spawn endpoint with connection := .offering rest }
          else
            some
              { service with
                connection := .offering rest
                requestQueue := service.requestQueue ++ [endpoint] }
      | _ => none
  | .lockQueue =>
      match service.connection with
      | .offering [] => some { service with connection := .draining }
      | _ => none
  | .drain acquired =>
      match service.connection, service.requestQueue with
      | .draining, endpoint :: queue =>
          if acquired then
            some { service.spawn endpoint with requestQueue := queue }
          else
            -- popped and pushed back to the front
            some { service with connection := .resting }
      | .draining, [] => some { service with connection := .resting }
      | _, _ => none
  | .rest stop =>
      match service.connection with
      | .resting =>
          some
            { service with
              connection := if stop then .stopped else .head }
      | _ => none

def stepTask (service : Service Endpoint Ends) (index : Nat)
    (event : TaskEvent Ends) : Option (Service Endpoint Ends) :=
  service.tasks[index]?.bind fun task =>
    match task.pc, event with
    | .accepting, .accepted incoming =>
        some
          (service.setTask index
            (if incoming then .connecting else .finished))
    | .connecting, .connected established =>
        some
          (service.setTask index
            (if established then .creating else .finished))
    | .creating, .created ends =>
        some (service.setTask index (ends.elim .finished .pushing))
    | .pushing ends, .push =>
        if service.vecLocked then
          none
        else
          some
            { service.setTask index .finished with
              transportEndsVec := service.transportEndsVec ++ [ends] }
    | _, _ => none

variable [DecidableEq Ends]

def stepSteg (myId : UInt64) (service : Service Endpoint Ends) :
    StegEvent → Option (Service Endpoint Ends)
  | .check =>
      match service.steg with
      | .head =>
          if service.currentLeaderId ≠ myId then
            some service
          else
            some { service with steg := .waiting }
      | _ => none
  | .lockVec =>
      match service.steg with
      | .waiting =>
          some
            { service with
              steg := .sweeping [] service.transportEndsVec }
      | _ => none
  | .probe active =>
      match service.steg with
      | .sweeping kept (ends :: rest) =>
          if active then
            some
              { service with
                steg := .sweeping (kept ++ [ends]) rest
                contexts :=
                  if ends ∈ service.contexts then
                    service.contexts
                  else
                    insert ends service.contexts }
          else
            some
              { service with
                steg := .sweeping kept rest
                contexts := service.contexts.erase ends }
      | _ => none
  | .release =>
      match service.steg with
      | .sweeping kept [] =>
          some { service with steg := .resting, transportEndsVec := kept }
      | _ => none
  | .rest stop =>
      match service.steg with
      | .resting =>
          some { service with steg := if stop then .stopped else .head }
      | _ => none

def step (myId : UInt64) (endpoints : List Endpoint)
    (service : Service Endpoint Ends) :
    ServiceEvent Ends → Option (Service Endpoint Ends)
  | .storeLeader leaderId =>
      some { service with currentLeaderId := leaderId }
  | .connection event => service.stepConnection myId endpoints event
  | .task index event => service.stepTask index event
  | .steg event => service.stepSteg myId event

/-! ## What a step can do -/

omit [DecidableEq Ends] in
/-- The steps of the connection loop. -/
inductive ConnectionMoves (myId : UInt64) (endpoints : List Endpoint)
    (service : Service Endpoint Ends) :
    ConnectionEvent → Service Endpoint Ends → Prop where
  | stay (atHead : service.connection = .head)
      (other : service.currentLeaderId ≠ myId) :
      ConnectionMoves myId endpoints service .check service
  | enter (atHead : service.connection = .head)
      (leads : service.currentLeaderId = myId) :
      ConnectionMoves myId endpoints service .check
        { service with connection := .offering endpoints }
  | offer (endpoint : Endpoint) (rest : List Endpoint)
      (offering : service.connection = .offering (endpoint :: rest)) :
      ConnectionMoves myId endpoints service (.offer true)
        { service.spawn endpoint with connection := .offering rest }
  | queue (endpoint : Endpoint) (rest : List Endpoint)
      (offering : service.connection = .offering (endpoint :: rest)) :
      ConnectionMoves myId endpoints service (.offer false)
        { service with
          connection := .offering rest
          requestQueue := service.requestQueue ++ [endpoint] }
  | lockQueue (offering : service.connection = .offering []) :
      ConnectionMoves myId endpoints service .lockQueue
        { service with connection := .draining }
  | drain (endpoint : Endpoint) (queue : List Endpoint)
      (draining : service.connection = .draining)
      (queued : service.requestQueue = endpoint :: queue) :
      ConnectionMoves myId endpoints service (.drain true)
        { service.spawn endpoint with requestQueue := queue }
  | drained (acquired : Bool)
      (draining : service.connection = .draining)
      (noSpawn : acquired = true → service.requestQueue = []) :
      ConnectionMoves myId endpoints service (.drain acquired)
        { service with connection := .resting }
  | rest (stop : Bool) (resting : service.connection = .resting) :
      ConnectionMoves myId endpoints service (.rest stop)
        { service with connection := if stop then .stopped else .head }

/-- The steps of an accept task. -/
inductive TaskMoves (service : Service Endpoint Ends) (index : Nat)
    (task : AcceptTask Endpoint Ends) :
    TaskEvent Ends → Service Endpoint Ends → Prop where
  | accept (incoming : Bool) (accepting : task.pc = .accepting) :
      TaskMoves service index task (.accepted incoming)
        (service.setTask index
          (if incoming then .connecting else .finished))
  | connect (established : Bool) (connecting : task.pc = .connecting) :
      TaskMoves service index task (.connected established)
        (service.setTask index
          (if established then .creating else .finished))
  | create (ends : Option Ends) (creating : task.pc = .creating) :
      TaskMoves service index task (.created ends)
        (service.setTask index (ends.elim .finished .pushing))
  | push (ends : Ends) (pushing : task.pc = .pushing ends)
      (unlocked : service.vecLocked = false) :
      TaskMoves service index task .push
        { service.setTask index .finished with
          transportEndsVec := service.transportEndsVec ++ [ends] }

/-- The steps of the sweep; inserting a context that is there already changes
nothing. -/
inductive StegMoves (myId : UInt64) (service : Service Endpoint Ends) :
    StegEvent → Service Endpoint Ends → Prop where
  | stay (atHead : service.steg = .head)
      (other : service.currentLeaderId ≠ myId) :
      StegMoves myId service .check service
  | enter (atHead : service.steg = .head)
      (leads : service.currentLeaderId = myId) :
      StegMoves myId service .check { service with steg := .waiting }
  | lockVec (waiting : service.steg = .waiting) :
      StegMoves myId service .lockVec
        { service with steg := .sweeping [] service.transportEndsVec }
  | retain (kept : List Ends) (ends : Ends) (rest : List Ends)
      (sweeping : service.steg = .sweeping kept (ends :: rest)) :
      StegMoves myId service (.probe true)
        { service with
          steg := .sweeping (kept ++ [ends]) rest
          contexts := insert ends service.contexts }
  | remove (kept : List Ends) (ends : Ends) (rest : List Ends)
      (sweeping : service.steg = .sweeping kept (ends :: rest)) :
      StegMoves myId service (.probe false)
        { service with
          steg := .sweeping kept rest
          contexts := service.contexts.erase ends }
  | release (kept : List Ends)
      (sweeping : service.steg = .sweeping kept []) :
      StegMoves myId service .release
        { service with steg := .resting, transportEndsVec := kept }
  | rest (stop : Bool) (resting : service.steg = .resting) :
      StegMoves myId service (.rest stop)
        { service with steg := if stop then .stopped else .head }

inductive Moves (myId : UInt64) (endpoints : List Endpoint)
    (service : Service Endpoint Ends) :
    ServiceEvent Ends → Service Endpoint Ends → Prop where
  | storeLeader (leaderId : UInt64) :
      Moves myId endpoints service (.storeLeader leaderId)
        { service with currentLeaderId := leaderId }
  | connection (event : ConnectionEvent)
      (target : Service Endpoint Ends)
      (moves : ConnectionMoves myId endpoints service event target) :
      Moves myId endpoints service (.connection event) target
  | task (index : Nat) (task : AcceptTask Endpoint Ends)
      (event : TaskEvent Ends) (target : Service Endpoint Ends)
      (found : service.tasks[index]? = some task)
      (moves : TaskMoves service index task event target) :
      Moves myId endpoints service (.task index event) target
  | steg (event : StegEvent) (target : Service Endpoint Ends)
      (moves : StegMoves myId service event target) :
      Moves myId endpoints service (.steg event) target

omit [DecidableEq Ends] in
theorem connectionMoves_of_step
    {myId : UInt64} {endpoints : List Endpoint}
    {service target : Service Endpoint Ends} {event : ConnectionEvent}
    (stepped :
      service.stepConnection myId endpoints event = some target) :
    ConnectionMoves myId endpoints service event target := by
  cases event with
  | check =>
      cases atHead : service.connection <;>
        simp only [stepConnection, atHead, reduceCtorEq] at stepped
      split at stepped
      · rename_i other
        cases stepped
        exact ConnectionMoves.stay atHead other
      · rename_i leads
        cases stepped
        exact ConnectionMoves.enter atHead (not_not.mp leads)
  | offer acquired =>
      simp only [stepConnection] at stepped
      split at stepped
      · rename_i endpoint rest offering
        cases acquired with
        | true =>
            cases stepped
            exact ConnectionMoves.offer endpoint rest offering
        | false =>
            cases stepped
            exact ConnectionMoves.queue endpoint rest offering
      · cases stepped
  | lockQueue =>
      simp only [stepConnection] at stepped
      split at stepped
      · rename_i offering
        cases stepped
        exact ConnectionMoves.lockQueue offering
      · cases stepped
  | drain acquired =>
      simp only [stepConnection] at stepped
      split at stepped
      · rename_i endpoint queue draining queued
        cases acquired with
        | true =>
            cases stepped
            exact ConnectionMoves.drain endpoint queue draining queued
        | false =>
            cases stepped
            exact ConnectionMoves.drained false draining (by simp)
      · rename_i draining queued
        cases stepped
        exact ConnectionMoves.drained acquired draining fun _ => queued
      · cases stepped
  | rest stop =>
      cases resting : service.connection <;>
        simp only [stepConnection, resting, reduceCtorEq,
          Option.some.injEq] at stepped
      rw [← stepped]
      exact ConnectionMoves.rest stop resting

omit [DecidableEq Ends] in
theorem taskMoves_of_step
    {service target : Service Endpoint Ends} {index : Nat}
    {event : TaskEvent Ends}
    (stepped : service.stepTask index event = some target) :
    ∃ task,
      service.tasks[index]? = some task ∧
        TaskMoves service index task event target := by
  obtain ⟨task, found, moved⟩ := Option.bind_eq_some_iff.mp stepped
  refine ⟨task, found, ?_⟩
  split at moved
  · rename_i incoming accepting
    cases moved
    exact TaskMoves.accept incoming accepting
  · rename_i established connecting
    cases moved
    exact TaskMoves.connect established connecting
  · rename_i ends creating
    cases moved
    exact TaskMoves.create ends creating
  · rename_i ends pushing
    split at moved
    · cases moved
    · rename_i unlocked
      cases moved
      exact
        TaskMoves.push ends pushing (Bool.eq_false_iff.mpr unlocked)
  · cases moved

theorem stegMoves_of_step
    {myId : UInt64} {service target : Service Endpoint Ends}
    {event : StegEvent}
    (stepped : service.stepSteg myId event = some target) :
    StegMoves myId service event target := by
  cases event with
  | check =>
      cases atHead : service.steg <;>
        simp only [stepSteg, atHead, reduceCtorEq] at stepped
      split at stepped
      · rename_i other
        cases stepped
        exact StegMoves.stay atHead other
      · rename_i leads
        cases stepped
        exact StegMoves.enter atHead (not_not.mp leads)
  | lockVec =>
      cases waiting : service.steg <;>
        simp only [stepSteg, waiting, reduceCtorEq,
          Option.some.injEq] at stepped
      rw [← stepped]
      exact StegMoves.lockVec waiting
  | probe active =>
      simp only [stepSteg] at stepped
      split at stepped
      · rename_i kept ends rest sweeping
        cases active with
        | true =>
            have inserted :
                (if ends ∈ service.contexts then service.contexts
                  else insert ends service.contexts) =
                    insert ends service.contexts := by
              split
              · rename_i present
                exact (Finset.insert_eq_of_mem present).symm
              · rfl
            cases stepped
            rw [inserted]
            exact StegMoves.retain kept ends rest sweeping
        | false =>
            cases stepped
            exact StegMoves.remove kept ends rest sweeping
      · cases stepped
  | release =>
      simp only [stepSteg] at stepped
      split at stepped
      · rename_i kept sweeping
        cases stepped
        exact StegMoves.release kept sweeping
      · cases stepped
  | rest stop =>
      cases resting : service.steg <;>
        simp only [stepSteg, resting, reduceCtorEq,
          Option.some.injEq] at stepped
      rw [← stepped]
      exact StegMoves.rest stop resting

/-- The inversion lemma of `step`. -/
theorem moves_of_step
    {myId : UInt64} {endpoints : List Endpoint}
    {service target : Service Endpoint Ends} {event : ServiceEvent Ends}
    (stepped : service.step myId endpoints event = some target) :
    Moves myId endpoints service event target := by
  cases event with
  | storeLeader leaderId =>
      cases stepped
      exact Moves.storeLeader leaderId
  | connection event =>
      exact Moves.connection event target (connectionMoves_of_step stepped)
  | task index event =>
      obtain ⟨task, found, moves⟩ := taskMoves_of_step stepped
      exact Moves.task index task event target found moves
  | steg event =>
      exact Moves.steg event target (stegMoves_of_step stepped)

/-- Only the node task stores to `CURRENT_LEADER_ID`. -/
theorem Moves.currentLeaderId
    {myId : UInt64} {endpoints : List Endpoint}
    {service target : Service Endpoint Ends} {event : ServiceEvent Ends}
    (moves : Moves myId endpoints service event target)
    (noStore : ∀ leaderId, event ≠ .storeLeader leaderId) :
    target.currentLeaderId = service.currentLeaderId := by
  cases moves with
  | storeLeader leaderId =>
      exact False.elim (noStore leaderId rfl)
  | connection event target moves =>
      cases moves <;> rfl
  | task index task event target found moves =>
      cases moves <;> rfl
  | steg event target moves =>
      cases moves <;> rfl

end Service

/-- The service of the node `myId` on some endpoints. -/
def serviceSystem {Endpoint : Type u} {Ends : Type v} [DecidableEq Ends]
    (myId : UInt64) (endpoints : List Endpoint) :
    TransitionSystem (Service Endpoint Ends) (ServiceEvent Ends) where
  initial service := service = Service.start
  step := Service.step myId endpoints

end CloudP2P.Provider
