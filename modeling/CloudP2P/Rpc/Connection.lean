import CloudP2P.Rpc.Multiplexer
import CloudP2P.Rpc.Server

/-!
# Two connected contexts

A context is a multiplexer with the client and the server that it feeds; a
connection is two contexts, each of which sends what the other receives.
Both ends call and serve at once, and any thread may run next.

`End.Moves` lists what one step of a context can do.
-/

universe u

namespace CloudP2P.Rpc

/-- One context. -/
structure End (Object : Type u) where
  client : Client
  multiplexer : Multiplexer
  server : Server Object

inductive EndEvent (Object : Type u) where
  | client (event : ClientEvent)
  | server (event : ServerEvent Object)
  | multiplexer (event : MultiplexerEvent)
  | clientReceive
  | serverReceive

/-- The thread has dropped the senders of its two channels. -/
def MultiplexerState.gone : MultiplexerState → Bool
  | .ended | .panicked => true
  | _ => false

namespace End

variable {Object : Type u}

/-- `Context::with_initial_service` -/
def new (config : Config) (metaService serviceObject : Object) :
    End Object where
  client := .new config
  multiplexer := .new
  server := .new config metaService serviceObject

/-- The server still holds the receiver of the request channel. -/
def serverListens (context : End Object) : Bool :=
  context.server.state == .receiving || context.server.state == .draining

def clientListens (context : End Object) : Bool :=
  context.client.receiver == .running

def setResponseChannel (context : End Object) (item : Option Item) :
    End Object :=
  { context with
    multiplexer := { context.multiplexer with responseChannel := item } }

def setRequestChannel (context : End Object) (item : Option Item) :
    End Object :=
  { context with
    multiplexer := { context.multiplexer with requestChannel := item } }

/-- One step of the loop of `receive_loop`. -/
def clientReceive (context : End Object) : Option (End Object) :=
  match context.client.receiver with
  | .running =>
      match context.multiplexer.responseChannel with
      | some (.packet packet) =>
          (context.client.receive packet).map fun client =>
            { context.setResponseChannel none with client }
      | some .failure =>
          some
            { context.setResponseChannel none with
              client := { context.client with receiver := .ended } }
      | none =>
          -- `recv` on a channel whose sender is gone
          if context.multiplexer.state.gone then
            some
              { context with
                client := { context.client with receiver := .panicked } }
          else
            none
  | _ => none

/-- One step of the loop of `receiver`. -/
def serverReceive (context : End Object) : Option (End Object) :=
  match context.server.state with
  | .receiving =>
      match context.multiplexer.requestChannel with
      | some (.packet packet) =>
          some
            { context.setRequestChannel none with
              server := context.server.receive packet }
      | some .failure =>
          some
            { context.setRequestChannel none with
              server := { context.server with state := .draining } }
      | none =>
          if context.multiplexer.state.gone then
            some
              { context with
                server := { context.server with state := .panicked } }
          else
            none
  | _ => none

def step (config : Config) (context : End Object) :
    EndEvent Object → Option (End Object × List Frame)
  | .client event =>
      (context.client.step config event).map fun result =>
        ({ context with client := result.1 }, result.2)
  | .server event =>
      (context.server.step config event).map fun result =>
        ({ context with server := result.1 }, result.2)
  | .multiplexer event =>
      (context.multiplexer.step context.serverListens
        context.clientListens event).map fun multiplexer =>
          ({ context with multiplexer }, [])
  | .clientReceive => context.clientReceive.map fun next => (next, [])
  | .serverReceive => context.serverReceive.map fun next => (next, [])

/-- Packets that the other end has sent. -/
def deposit (context : End Object) (packets : List Frame) : End Object :=
  { context with
    multiplexer :=
      { context.multiplexer with
        incoming := context.multiplexer.incoming ++ packets } }

/-- Everything that one step of a context can do, with its guards. -/
inductive Moves (config : Config) (context : End Object) :
    EndEvent Object → End Object × List Frame → Prop where
  | client (event : ClientEvent) (result : Client × List Frame)
      (moves : context.client.Moves config event result) :
      Moves config context (.client event)
        ({ context with client := result.1 }, result.2)
  | server (event : ServerEvent Object)
      (result : Server Object × List Frame)
      (moves : context.server.Moves config event result) :
      Moves config context (.server event)
        ({ context with server := result.1 }, result.2)
  | multiplexer (event : MultiplexerEvent) (multiplexer : Multiplexer)
      (moves :
        context.multiplexer.Moves context.serverListens
          context.clientListens event multiplexer) :
      Moves config context (.multiplexer event)
        ({ context with multiplexer }, [])
  | clientPacket (packet : Frame) (client : Client)
      (running : context.client.receiver = .running)
      (waiting :
        context.multiplexer.responseChannel = some (.packet packet))
      (received : context.client.receive packet = some client) :
      Moves config context .clientReceive
        ({ context.setResponseChannel none with client }, [])
  | clientFailure
      (running : context.client.receiver = .running)
      (told : context.multiplexer.responseChannel = some .failure) :
      Moves config context .clientReceive
        ({ context.setResponseChannel none with
            client := { context.client with receiver := .ended } }, [])
  | clientPanics
      (running : context.client.receiver = .running)
      (nothing : context.multiplexer.responseChannel = none)
      (gone : context.multiplexer.state.gone = true) :
      Moves config context .clientReceive
        ({ context with
            client := { context.client with receiver := .panicked } }, [])
  | serverPacket (packet : Frame)
      (receiving : context.server.state = .receiving)
      (waiting :
        context.multiplexer.requestChannel = some (.packet packet)) :
      Moves config context .serverReceive
        ({ context.setRequestChannel none with
            server := context.server.receive packet }, [])
  | serverFailure
      (receiving : context.server.state = .receiving)
      (told : context.multiplexer.requestChannel = some .failure) :
      Moves config context .serverReceive
        ({ context.setRequestChannel none with
            server := { context.server with state := .draining } }, [])
  | serverPanics
      (receiving : context.server.state = .receiving)
      (nothing : context.multiplexer.requestChannel = none)
      (gone : context.multiplexer.state.gone = true) :
      Moves config context .serverReceive
        ({ context with
            server := { context.server with state := .panicked } }, [])

private theorem moves_of_clientReceive
    {config : Config} {context next : End Object}
    (stepped : context.clientReceive = some next) :
    Moves config context .clientReceive (next, []) := by
  simp only [clientReceive] at stepped
  split at stepped
  · rename_i running
    split at stepped
    · rename_i packet waiting
      obtain ⟨client, received, same⟩ := Option.map_eq_some_iff.mp stepped
      rw [← same]
      exact .clientPacket packet client running waiting received
    · rename_i told
      cases stepped
      exact .clientFailure running told
    · rename_i nothing
      by_cases gone : context.multiplexer.state.gone = true
      · rw [if_pos gone] at stepped
        cases stepped
        exact .clientPanics running nothing gone
      · rw [if_neg gone] at stepped
        cases stepped
  · cases stepped

private theorem moves_of_serverReceive
    {config : Config} {context next : End Object}
    (stepped : context.serverReceive = some next) :
    Moves config context .serverReceive (next, []) := by
  simp only [serverReceive] at stepped
  split at stepped
  · rename_i receiving
    split at stepped
    · rename_i packet waiting
      cases stepped
      exact .serverPacket packet receiving waiting
    · rename_i told
      cases stepped
      exact .serverFailure receiving told
    · rename_i nothing
      by_cases gone : context.multiplexer.state.gone = true
      · rw [if_pos gone] at stepped
        cases stepped
        exact .serverPanics receiving nothing gone
      · rw [if_neg gone] at stepped
        cases stepped
  · cases stepped

theorem moves_of_step
    {config : Config} {context : End Object} {event : EndEvent Object}
    {result : End Object × List Frame}
    (stepped : context.step config event = some result) :
    Moves config context event result := by
  cases event with
  | client event =>
      obtain ⟨inner, taken, same⟩ := Option.map_eq_some_iff.mp stepped
      rw [← same]
      exact .client event inner (Client.moves_of_step taken)
  | server event =>
      obtain ⟨inner, taken, same⟩ := Option.map_eq_some_iff.mp stepped
      rw [← same]
      exact .server event inner (Server.moves_of_step taken)
  | multiplexer event =>
      obtain ⟨inner, taken, same⟩ := Option.map_eq_some_iff.mp stepped
      rw [← same]
      exact .multiplexer event inner (Multiplexer.moves_of_step taken)
  | clientReceive =>
      obtain ⟨next, taken, same⟩ := Option.map_eq_some_iff.mp stepped
      rw [← same]
      exact moves_of_clientReceive taken
  | serverReceive =>
      obtain ⟨next, taken, same⟩ := Option.map_eq_some_iff.mp stepped
      rw [← same]
      exact moves_of_serverReceive taken

end End

inductive Side where
  | left
  | right
  deriving DecidableEq

def Side.other : Side → Side
  | .left => .right
  | .right => .left

theorem Side.other_ne (side : Side) : side.other ≠ side := by
  cases side <;> decide

@[simp]
theorem Side.other_other (side : Side) : side.other.other = side := by
  cases side <;> rfl

theorem Side.eq_or_eq_other (side caller : Side) :
    side = caller ∨ side = caller.other := by
  cases side <;> cases caller <;> decide

structure Connection (Object : Type u) where
  ends : Side → End Object

structure ConnectionEvent (Object : Type u) where
  side : Side
  event : EndEvent Object

namespace Connection

variable {Object : Type u}

/-- One end takes a step, and the other will receive what it sends. -/
def step (config : Side → Config) (connection : Connection Object)
    (event : ConnectionEvent Object) : Option (Connection Object) :=
  ((connection.ends event.side).step (config event.side) event.event).map
    fun result =>
      { ends :=
          Function.update
            (Function.update connection.ends event.side result.1)
            event.side.other
            ((connection.ends event.side.other).deposit result.2) }

/-- What one step does to the two ends. -/
structure StepsTo (config : Side → Config) (connection : Connection Object)
    (event : ConnectionEvent Object) (target : Connection Object)
    (packets : List Frame) : Prop where
  moves :
    (connection.ends event.side).Moves (config event.side) event.event
      (target.ends event.side, packets)
  deposited :
    target.ends event.side.other =
      (connection.ends event.side.other).deposit packets

theorem stepsTo_of_step
    {config : Side → Config} {connection target : Connection Object}
    {event : ConnectionEvent Object}
    (stepped : connection.step config event = some target) :
    ∃ packets, connection.StepsTo config event target packets := by
  obtain ⟨⟨next, packets⟩, taken, same⟩ :=
    Option.map_eq_some_iff.mp stepped
  refine ⟨packets, ?_, ?_⟩
  · have own : target.ends event.side = next := by
      rw [← same]
      simp only [Function.update_of_ne event.side.other_ne.symm,
        Function.update_self]
    rw [own]
    exact End.moves_of_step taken
  · rw [← same]
    exact Function.update_self _ _ _

end Connection

def connectionSystem (Object : Type u) (config : Side → Config) :
    TransitionSystem (Connection Object) (ConnectionEvent Object) where
  initial connection :=
    ∀ side, ∃ metaService serviceObject,
      connection.ends side = .new (config side) metaService serviceObject
  step := Connection.step config

/-! ## A connection after one call -/

/-- Two slots, four services and one thread. -/
def smallConfig : Config where
  callSlots := 2
  callTimeout := none
  maximumServicesNum := 4
  threads := 1
  threads_pos := by decide

def freshConnection : Connection Nat where
  ends _ := .new smallConfig 10 11

theorem freshConnection_initial :
    (connectionSystem Nat fun _ => smallConfig).initial freshConnection :=
  fun _ => ⟨10, 11, rfl⟩

/-- The left end calls the object that the right end started with. -/
def oneCall : List (ConnectionEvent Nat) :=
  [⟨.left, .client (.invoke ⟨.newRequest, initialServiceObjectId, 70, [1]⟩)⟩,
    ⟨.left, .client (.pop 0)⟩,
    ⟨.left, .client (.send 0 .sent)⟩,
    ⟨.right, .multiplexer (.deliver 0)⟩,
    ⟨.right, .multiplexer .forward⟩,
    ⟨.right, .serverReceive⟩,
    ⟨.right, .server (.start 0)⟩,
    ⟨.right, .server (.finish 0 [2])⟩,
    ⟨.right, .server (.respond 0 .sent)⟩,
    ⟨.left, .multiplexer (.deliver 0)⟩,
    ⟨.left, .multiplexer .forward⟩,
    ⟨.left, .clientReceive⟩,
    ⟨.left, .client (.takeResponse 0)⟩]

theorem oneCall_replays :
    ((connectionSystem Nat fun _ => smallConfig).run freshConnection
      oneCall).isSome := by
  decide

/-- The call has its response and is about to give its slot back. -/
def answeredConnection : Connection Nat :=
  ((connectionSystem Nat fun _ => smallConfig).run freshConnection
    oneCall).get oneCall_replays

theorem answeredConnection_reachable :
    (connectionSystem Nat fun _ => smallConfig).Reachable
      answeredConnection :=
  TransitionSystem.reachable_of_run freshConnection_initial oneCall_replays

end CloudP2P.Rpc
