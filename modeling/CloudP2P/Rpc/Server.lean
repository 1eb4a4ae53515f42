import CloudP2P.Rpc.Client
import CloudP2P.Rpc.Forwarder

/-!
# The serving side of a port

The receiving thread of `Server` hands each request to the thread pool and
counts it; `handle_single_call` answers it through the registry, sends the
answer, and takes it off the count.  After the transport has failed, the
receiving thread waits until the count is zero.

A request is handled on a thread of its own, so a lookup, the end of a user
method, the send, and the decrement are steps of their own.  Requests stay in
the list after they have been handled.  A method may end at any time here;
what it waits for before it does is a matter of the runs that are looked at.

`delete` drops the removed object before it gives the write guard of
`service_objects` back, and a destructor is user code.  As long as it runs,
every lookup and every insertion waits; a request whose thread waits for its
lookup counts as one that no thread has taken.  `clear` drops everything
under the guard as well; it is one step, and nobody waits inside it.
-/

universe u

namespace CloudP2P.Rpc

/-- Where the thread that handles a request is. -/
inductive TaskState (Object : Type u) where
  | queued
  /-- Inside the destructor of the object that `ServiceForwarder::delete` has
  removed, with the write guard. -/
  | destroying
  /-- Inside `ServiceForwarder::delete`, with the guard given back. -/
  | deleting
  /-- Inside a method of the object. -/
  | running (object : Object)
  | responding (result : Bytes)
  | accounting (result : Bytes)
  | finished (result : Bytes)
  | panicked

structure Task (Object : Type u) where
  request : Frame
  state : TaskState Object

namespace Task

variable {Object : Type u}

/-- It keeps a thread of the pool. -/
def busy (task : Task Object) : Bool :=
  match task.state with
  | .destroying | .deleting | .running _ | .responding _ | .accounting _ =>
      true
  | .queued | .finished _ | .panicked => false

/-- It holds the write guard of `service_objects`. -/
def locks (task : Task Object) : Bool :=
  match task.state with
  | .destroying => true
  | _ => false

/-- It has not been taken off the count. -/
def counted (task : Task Object) : Bool :=
  match task.state with
  | .finished _ => false
  | _ => true

end Task

inductive ServerState where
  | receiving
  | draining
  | ended
  | panicked
  deriving DecidableEq

structure Server (Object : Type u) where
  state : ServerState
  tasks : List (Task Object)
  /-- The shared counter of `receiver`.  It is the number of requests that
  have not been handled, each of which is in memory, so it stays far below
  the bound of an `AtomicI32`. -/
  count : Int
  registry : ServiceForwarder Object

inductive ServerEvent (Object : Type u) where
  | start (task : Nat)
  | destroyed (task : Nat)
  | finishDelete (task : Nat)
  | finish (task : Nat) (result : Bytes)
  | crash (task : Nat)
  | respond (task : Nat) (outcome : SendOutcome)
  | account (task : Nat)
  | drained
  | popFront (object : Object)
  | insert (index : Nat)
  | clear

namespace Server

variable {Object : Type u}

def new (config : Config) (metaService serviceObject : Object) :
    Server Object where
  state := .receiving
  tasks := []
  count := 0
  registry := .new config.maximumServicesNum metaService serviceObject

def setTask (server : Server Object) (index : Nat) (task : Task Object) :
    Server Object :=
  { server with tasks := server.tasks.set index task }

/-- `receiver` on a packet. -/
def receive (server : Server Object) (packet : Frame) : Server Object :=
  { server with
    tasks := server.tasks ++ [⟨packet, .queued⟩]
    count := server.count + 1 }

/-- A thread is inside the destructor of a removed object. -/
def locked (server : Server Object) : Bool := server.tasks.any Task.locks

/-- The pool has a free thread, and `service_objects` can be looked at. -/
def Admits (config : Config) (server : Server Object) : Prop :=
  server.tasks.countP Task.busy < config.threads ∧ server.locked = false

instance (config : Config) (server : Server Object) :
    Decidable (server.Admits config) :=
  inferInstanceAs (Decidable (_ ∧ _))

/-- The head of `forward_and_call`: the removal of the object in `delete`, or
the lookup of the object. -/
def lookUp (server : Server Object) (index : Nat) (request : Frame) :
    Server Object :=
  if request.method = deleteRequest then
    match server.registry.step (.remove request.serviceObjectId) with
    | some registry =>
        { server with registry }.setTask index ⟨request, .destroying⟩
    | none => server.setTask index ⟨request, .panicked⟩
  else
    match server.registry.serviceObjects request.serviceObjectId with
    | some object => server.setTask index ⟨request, .running object⟩
    | none => server.setTask index ⟨request, .panicked⟩

def step (config : Config) (server : Server Object) :
    ServerEvent Object → Option (Server Object × List Frame)
  | .start index =>
      match server.tasks[index]? with
      | some ⟨request, .queued⟩ =>
          if server.Admits config then
            some (server.lookUp index request, [])
          else
            none
      | _ => none
  | .destroyed index =>
      match server.tasks[index]? with
      | some ⟨request, .destroying⟩ =>
          some (server.setTask index ⟨request, .deleting⟩, [])
      | _ => none
  | .finishDelete index =>
      match server.tasks[index]? with
      | some ⟨request, .deleting⟩ =>
          (server.registry.step (.pushBack request.serviceObjectId)).map
            fun registry =>
              ({ server with registry }.setTask index
                ⟨request, .responding []⟩, [])
      | _ => none
  | .finish index result =>
      match server.tasks[index]? with
      | some ⟨request, .running _⟩ =>
          some (server.setTask index ⟨request, .responding result⟩, [])
      | _ => none
  | .crash index =>
      match server.tasks[index]? with
      | some ⟨request, .running _⟩ =>
          some (server.setTask index ⟨request, .panicked⟩, [])
      -- unwinding gives the guard back, but the id is not made available
      | some ⟨request, .destroying⟩ =>
          some (server.setTask index ⟨request, .panicked⟩, [])
      | _ => none
  | .respond index outcome =>
      match server.tasks[index]? with
      | some ⟨request, .responding result⟩ =>
          match request.answered result with
          | some packet =>
              some
                (server.setTask index ⟨request, .accounting result⟩,
                  outcome.packets packet)
          | none => some (server.setTask index ⟨request, .panicked⟩, [])
      | _ => none
  | .account index =>
      match server.tasks[index]? with
      | some ⟨request, .accounting result⟩ =>
          some
            ({ server with count := server.count - 1 }.setTask index
              ⟨request, .finished result⟩, [])
      | _ => none
  | .drained =>
      match server.state with
      | .draining =>
          if server.count = 0 then
            some ({ server with state := .ended }, [])
          else
            none
      | _ => none
  | .popFront object =>
      (server.registry.step (.popFront object)).map fun registry =>
        ({ server with registry }, [])
  | .insert index =>
      if server.locked then
        none
      else
        (server.registry.step (.insert index)).map fun registry =>
          ({ server with registry }, [])
  | .clear =>
      if server.locked then
        none
      else
        (server.registry.step .clear).map fun registry =>
          ({ server with registry }, [])

/-- Everything that one step of the server can do, with its guards. -/
inductive Moves (config : Config) (server : Server Object) :
    ServerEvent Object → Server Object × List Frame → Prop where
  | startDelete (index : Nat) (request : Frame)
      (registry : ServiceForwarder Object)
      (found : server.tasks[index]? = some ⟨request, .queued⟩)
      (free : server.Admits config)
      (delete : request.method = deleteRequest)
      (removed :
        server.registry.step (.remove request.serviceObjectId) =
          some registry) :
      Moves config server (.start index)
        ({ server with registry }.setTask index ⟨request, .destroying⟩, [])
  | startCall (index : Nat) (request : Frame) (object : Object)
      (found : server.tasks[index]? = some ⟨request, .queued⟩)
      (free : server.Admits config)
      (call : request.method ≠ deleteRequest)
      (registered :
        server.registry.serviceObjects request.serviceObjectId =
          some object) :
      Moves config server (.start index)
        (server.setTask index ⟨request, .running object⟩, [])
  | startPanics (index : Nat) (request : Frame)
      (found : server.tasks[index]? = some ⟨request, .queued⟩)
      (free : server.Admits config)
      (unknown :
        server.registry.serviceObjects request.serviceObjectId = none) :
      Moves config server (.start index)
        (server.setTask index ⟨request, .panicked⟩, [])
  | destroyed (index : Nat) (request : Frame)
      (found : server.tasks[index]? = some ⟨request, .destroying⟩) :
      Moves config server (.destroyed index)
        (server.setTask index ⟨request, .deleting⟩, [])
  | finishDelete (index : Nat) (request : Frame)
      (registry : ServiceForwarder Object)
      (found : server.tasks[index]? = some ⟨request, .deleting⟩)
      (pushed :
        server.registry.step (.pushBack request.serviceObjectId) =
          some registry) :
      Moves config server (.finishDelete index)
        ({ server with registry }.setTask index ⟨request, .responding []⟩,
          [])
  | finish (index : Nat) (request : Frame) (object : Object)
      (result : Bytes)
      (found : server.tasks[index]? = some ⟨request, .running object⟩) :
      Moves config server (.finish index result)
        (server.setTask index ⟨request, .responding result⟩, [])
  | crash (index : Nat) (request : Frame) (object : Object)
      (found : server.tasks[index]? = some ⟨request, .running object⟩) :
      Moves config server (.crash index)
        (server.setTask index ⟨request, .panicked⟩, [])
  | crashDelete (index : Nat) (request : Frame)
      (found : server.tasks[index]? = some ⟨request, .destroying⟩) :
      Moves config server (.crash index)
        (server.setTask index ⟨request, .panicked⟩, [])
  | respond (index : Nat) (request packet : Frame) (result : Bytes)
      (outcome : SendOutcome)
      (found : server.tasks[index]? = some ⟨request, .responding result⟩)
      (written : request.answered result = some packet) :
      Moves config server (.respond index outcome)
        (server.setTask index ⟨request, .accounting result⟩,
          outcome.packets packet)
  | respondPanics (index : Nat) (request : Frame) (result : Bytes)
      (outcome : SendOutcome)
      (found : server.tasks[index]? = some ⟨request, .responding result⟩)
      (refused : request.answered result = none) :
      Moves config server (.respond index outcome)
        (server.setTask index ⟨request, .panicked⟩, [])
  | account (index : Nat) (request : Frame) (result : Bytes)
      (found : server.tasks[index]? = some ⟨request, .accounting result⟩) :
      Moves config server (.account index)
        ({ server with count := server.count - 1 }.setTask index
          ⟨request, .finished result⟩, [])
  | drained (draining : server.state = .draining)
      (zero : server.count = 0) :
      Moves config server .drained ({ server with state := .ended }, [])
  | popFront (object : Object) (registry : ServiceForwarder Object)
      (taken : server.registry.step (.popFront object) = some registry) :
      Moves config server (.popFront object) ({ server with registry }, [])
  | insert (index : Nat) (registry : ServiceForwarder Object)
      (inserted : server.registry.step (.insert index) = some registry)
      (unlocked : server.locked = false) :
      Moves config server (.insert index) ({ server with registry }, [])
  | clear (registry : ServiceForwarder Object)
      (cleared : server.registry.step .clear = some registry)
      (unlocked : server.locked = false) :
      Moves config server .clear ({ server with registry }, [])

theorem moves_of_start
    {config : Config} {server : Server Object} {index : Nat}
    {result : Server Object × List Frame}
    (stepped : server.step config (.start index) = some result) :
    Moves config server (.start index) result := by
  simp only [step] at stepped
  split at stepped
  · rename_i request found
    by_cases free : server.Admits config
    · rw [if_pos free] at stepped
      cases stepped
      unfold lookUp
      by_cases delete : request.method = deleteRequest
      · rw [if_pos delete]
        cases removed :
            server.registry.step (.remove request.serviceObjectId) with
        | some registry =>
            exact .startDelete index request registry found free delete
              removed
        | none =>
            refine .startPanics index request found free ?_
            by_contra registered
            have isSome := Option.isSome_iff_ne_none.mpr registered
            rw [ServiceForwarder.step, if_pos isSome] at removed
            cases removed
      · rw [if_neg delete]
        cases registered :
            server.registry.serviceObjects request.serviceObjectId with
        | some object =>
            exact .startCall index request object found free delete
              registered
        | none =>
            exact .startPanics index request found free registered
    · rw [if_neg free] at stepped
      cases stepped
  · cases stepped

theorem moves_of_step
    {config : Config} {server : Server Object}
    {event : ServerEvent Object} {result : Server Object × List Frame}
    (stepped : server.step config event = some result) :
    Moves config server event result := by
  cases event with
  | start index =>
      exact moves_of_start stepped
  | destroyed index =>
      simp only [step] at stepped
      split at stepped
      · rename_i request found
        cases stepped
        exact .destroyed index request found
      · cases stepped
  | finishDelete index =>
      simp only [step] at stepped
      split at stepped
      · rename_i request found
        obtain ⟨registry, pushed, same⟩ := Option.map_eq_some_iff.mp stepped
        rw [← same]
        exact .finishDelete index request registry found pushed
      · cases stepped
  | finish index value =>
      simp only [step] at stepped
      split at stepped
      · rename_i request object found
        cases stepped
        exact .finish index request object value found
      · cases stepped
  | crash index =>
      simp only [step] at stepped
      split at stepped
      · rename_i request object found
        cases stepped
        exact .crash index request object found
      · rename_i request found
        cases stepped
        exact .crashDelete index request found
      · cases stepped
  | respond index outcome =>
      simp only [step] at stepped
      split at stepped
      · rename_i request value found
        split at stepped
        · rename_i packet written
          cases stepped
          exact .respond index request packet value outcome found written
        · rename_i refused
          cases stepped
          exact .respondPanics index request value outcome found refused
      · cases stepped
  | account index =>
      simp only [step] at stepped
      split at stepped
      · rename_i request value found
        cases stepped
        exact .account index request value found
      · cases stepped
  | drained =>
      simp only [step] at stepped
      split at stepped
      · rename_i draining
        by_cases zero : server.count = 0
        · rw [if_pos zero] at stepped
          cases stepped
          exact .drained draining zero
        · rw [if_neg zero] at stepped
          cases stepped
      · cases stepped
  | popFront object =>
      obtain ⟨registry, taken, same⟩ := Option.map_eq_some_iff.mp stepped
      rw [← same]
      exact .popFront object registry taken
  | insert index =>
      by_cases locked : server.locked = true
      · rw [step, if_pos locked] at stepped
        cases stepped
      · rw [step, if_neg locked] at stepped
        obtain ⟨registry, inserted, same⟩ :=
          Option.map_eq_some_iff.mp stepped
        rw [← same]
        exact .insert index registry inserted (eq_false_of_ne_true locked)
  | clear =>
      by_cases locked : server.locked = true
      · rw [step, if_pos locked] at stepped
        cases stepped
      · rw [step, if_neg locked] at stepped
        obtain ⟨registry, cleared, same⟩ :=
          Option.map_eq_some_iff.mp stepped
        rw [← same]
        exact .clear registry cleared (eq_false_of_ne_true locked)

end Server

end CloudP2P.Rpc
