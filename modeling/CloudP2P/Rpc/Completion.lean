import CloudP2P.Rpc.Progress

/-!
# Every call returns

Methods and destructors may call the other end themselves, and keep a thread
of the pool, or the lock of the registry, until these calls have returned.
When one of the two ends does not do so, there is a step to take as long as a
call waits and nothing fails: that end answers whatever it is asked, so the
methods of the other end get on as well.  As steps are finitely many, all
calls return.

When both ends do so, the methods can wait for each other, each with the last
thread of its pool.
-/

universe u

namespace CloudP2P.Rpc

/-! ## Runs in which nothing fails -/

/-- The transport works, and slots come back in time. -/
def EndEvent.Calm {Object : Type u} : EndEvent Object → Prop
  | .client (.timeOut _) | .multiplexer .fail => False
  | .client (.send _ outcome) | .server (.respond _ outcome) =>
      outcome = .sent
  | _ => True

def Calm {Object : Type u} (_connection : Connection Object)
    (event : ConnectionEvent Object) : Prop :=
  event.event.Calm

theorem Proceeds.calm
    {Object : Type u} {connection : Connection Object}
    {event : ConnectionEvent Object}
    (proceeds : Proceeds connection event) : Calm connection event := by
  obtain ⟨side, event⟩ := event
  cases event with
  | client event =>
      cases event with
      | send call outcome =>
          cases outcome with
          | sent =>
              rfl
          | failed | failedAfterDelivery =>
              exact proceeds.elim
      | pop | takeResponse | release =>
          trivial
      | invoke | timeOut | disconnect =>
          exact proceeds.elim
  | server event =>
      cases event with
      | respond task outcome =>
          cases outcome with
          | sent =>
              rfl
          | failed | failedAfterDelivery =>
              exact proceeds.elim
      | start | destroyed | finishDelete | finish | account | insert =>
          trivial
      | crash | drained | popFront | clear =>
          exact proceeds.elim
  | multiplexer event =>
      cases event with
      | deliver | forward =>
          trivial
      | fail =>
          exact proceeds.elim
  | clientReceive | serverReceive =>
      trivial

/-- The thread goes on receiving. -/
def Multiplexer.Active (multiplexer : Multiplexer) : Prop :=
  multiplexer.state = .receiving ∨
    ∃ packet, multiplexer.state = .forwarding packet

def Task.deletes {Object : Type u} (id : ServiceObjectId)
    (task : Task Object) : Bool :=
  match task.state with
  | .destroying | .deleting => task.request.serviceObjectId == id
  | _ => false

/-- It deletes the object, or may have panicked over it. -/
def Task.withholds {Object : Type u} (id : ServiceObjectId)
    (task : Task Object) : Bool :=
  match task.state with
  | .destroying | .deleting | .panicked =>
      task.request.serviceObjectId == id
  | _ => false

/-- The registry knows which objects are being deleted, and a destructor that
panics leaves its id behind. -/
def Server.Deleting {Object : Type u} (server : Server Object) : Prop :=
  ∀ id,
    server.tasks.countP (Task.deletes id) ≤
        server.registry.deleting.count id ∧
      server.registry.deleting.count id ≤
        server.tasks.countP (Task.withholds id)

section Deleting

variable {Object : Type u} {config : Config}

/-- A task that changes without a step of the registry. -/
private theorem deleting_setTask
    {server later : Server Object} (deleting : server.Deleting)
    {index : Nat} {task next : Task Object}
    (found : server.tasks[index]? = some task)
    (since : ∀ id, next.deletes id = true → task.deletes id = true)
    (still : ∀ id, task.withholds id = true → next.withholds id = true)
    (tasks : later.tasks = server.tasks.set index next)
    (registry : later.registry = server.registry) : later.Deleting := by
  intro id
  have deletes := countP_set_add (Task.deletes id) found next
  have withholds := countP_set_add (Task.withholds id) found next
  have before := deleting id
  rw [registry, tasks]
  constructor
  · by_cases after : next.deletes id = true
    · rw [if_pos after, if_pos (since id after)] at deletes
      omega
    · rw [if_neg after] at deletes
      omega
  · by_cases earlier : task.withholds id = true
    · rw [if_pos earlier, if_pos (still id earlier)] at withholds
      omega
    · rw [if_neg earlier] at withholds
      omega

/-- A task that takes an id out of use, or gives it back. -/
private theorem deleting_moved
    {server later : Server Object} (deleting : server.Deleting)
    {index : Nat} {task next : Task Object}
    (found : server.tasks[index]? = some task)
    (tasks : later.tasks = server.tasks.set index next)
    (moved : ∀ id,
      later.registry.deleting.count id +
            (if task.deletes id then 1 else 0) =
          server.registry.deleting.count id +
            (if next.deletes id then 1 else 0) ∧
        task.withholds id = task.deletes id ∧
        next.withholds id = next.deletes id) : later.Deleting := by
  intro id
  have deletes := countP_set_add (Task.deletes id) found next
  have withholds := countP_set_add (Task.withholds id) found next
  obtain ⟨counts, before, after⟩ := moved id
  rw [before, after] at withholds
  have bounds := deleting id
  rw [tasks]
  omega

private theorem deleting_registry
    {server : Server Object} (deleting : server.Deleting)
    {registry : ServiceForwarder Object}
    (same : registry.deleting = server.registry.deleting) :
    ({ server with registry } : Server Object).Deleting := by
  intro id
  simp only [same]
  exact deleting id

theorem Server.Deleting.moves
    {server : Server Object} (deleting : server.Deleting)
    {event : ServerEvent Object} {result : Server Object × List Frame}
    (moves : server.Moves config event result) : result.1.Deleting := by
  cases moves with
  | startDelete index request registry found free delete removed =>
      refine deleting_moved deleting found rfl fun id => ⟨?_, rfl, rfl⟩
      cases ServiceForwarder.moves_of_step removed with
      | remove _ registered =>
          exact List.count_cons
  | finishDelete index request registry found pushed =>
      refine deleting_moved deleting found rfl fun id => ⟨?_, rfl, rfl⟩
      cases ServiceForwarder.moves_of_step pushed with
      | pushBack _ member =>
          have positive := List.count_pos_iff.mpr member
          simp only [Task.deletes, Bool.false_eq_true, if_false,
            Server.setTask, List.count_erase]
          by_cases same : request.serviceObjectId = id
          · subst same
            simp only [beq_self_eq_true, if_true]
            omega
          · have different : (request.serviceObjectId == id) = false := by
              simpa using same
            simp only [different, Bool.false_eq_true, if_false]
            omega
  | startCall _ _ _ found | startPanics _ _ found | destroyed _ _ found
  | finish _ _ _ _ found | crash _ _ _ found | crashDelete _ _ found
  | respond _ _ _ _ _ found | respondPanics _ _ _ _ found
  | account _ _ _ found =>
      exact
        deleting_setTask deleting found (by simp [Task.deletes])
          (by simp [Task.withholds]) rfl rfl
  | drained =>
      exact deleting
  | popFront object registry taken =>
      cases ServiceForwarder.moves_of_step taken with
      | popFront _ id rest front =>
          exact deleting_registry deleting rfl
  | insert index registry inserted =>
      cases ServiceForwarder.moves_of_step inserted with
      | insert _ id object found =>
          exact deleting_registry deleting rfl
  | clear registry cleared =>
      cases ServiceForwarder.moves_of_step cleared with
      | clear =>
          exact deleting_registry deleting rfl

theorem End.Moves.deleting
    {context : End Object} (deleting : context.server.Deleting)
    {event : EndEvent Object} {result : End Object × List Frame}
    (moves : context.Moves config event result) :
    result.1.server.Deleting := by
  cases moves with
  | server event result moves =>
      exact deleting.moves moves
  | serverPacket packet receiving waiting =>
      intro id
      simp only [Server.receive, List.countP_append]
      exact deleting id
  | client | multiplexer | clientPacket | clientFailure | clientPanics
  | serverFailure | serverPanics =>
      exact deleting

end Deleting

/-! ## What holds as long as nothing fails -/

section Flow

variable {Object : Type u} {config : Config} {context : End Object}

theorem Multiplexer.Active.not_told
    {multiplexer : Multiplexer} (active : multiplexer.Active) :
    multiplexer.state.toldServer = false ∧
      multiplexer.state.toldClient = false := by
  rcases active with receiving | ⟨packet, holds⟩
  · rw [receiving]
    exact ⟨rfl, rfl⟩
  · rw [holds]
    exact ⟨rfl, rfl⟩

theorem End.running_of_active (told : context.Told)
    (active : context.multiplexer.Active) :
    context.client.receiver = .running := by
  have untold := active.not_told.2
  by_contra stopped
  rw [told.client.mpr (Or.inr stopped)] at untold
  cases untold

theorem Multiplexer.Moves.active
    {multiplexer target : Multiplexer} (active : multiplexer.Active)
    {serverListens clientListens : Bool} {event : MultiplexerEvent}
    (moves :
      multiplexer.Moves serverListens clientListens event target)
    (calm : event ≠ .fail) (alive : target.state ≠ .panicked) :
    target.Active := by
  cases moves with
  | deliver index packet receiving found =>
      exact Or.inr ⟨packet, rfl⟩
  | fail =>
      exact absurd rfl calm
  | forwardRequest | forwardResponse =>
      exact Or.inl rfl
  | forwardPanics | tellPanics =>
      exact absurd rfl alive
  | tellServer failing | tellClient failing =>
      rcases active with receiving | ⟨packet, holds⟩
      · cases receiving.symm.trans failing
      · cases holds.symm.trans failing

theorem End.Moves.active
    (active : context.multiplexer.Active) {event : EndEvent Object}
    {result : End Object × List Frame}
    (moves : context.Moves config event result) (calm : event.Calm)
    (alive : result.1.Alive) : result.1.multiplexer.Active := by
  cases moves with
  | multiplexer event multiplexer moves =>
      refine moves.active active ?_ alive.multiplexer
      rintro rfl
      exact calm
  | client | server | clientPacket | clientFailure | clientPanics
  | serverPacket | serverFailure | serverPanics =>
      exact active

private theorem working_set
    {calls : List Call}
    (working : ∀ call ∈ calls, call.failed = false) {value : Call}
    (works : value.failed = false) (index : Nat) :
    ∀ call ∈ calls.set index value, call.failed = false := by
  intro call member
  rcases List.mem_or_eq_of_mem_set member with earlier | rfl
  · exact working call earlier
  · exact works

/-- A call fails for want of a slot, when its send fails, or when nobody
receives for it any more. -/
theorem Client.Moves.working
    {client : Client}
    (working : ∀ call ∈ client.calls, call.failed = false)
    {event : ClientEvent} {result : Client × List Frame}
    (moves : client.Moves config event result)
    (calm : (EndEvent.client event : EndEvent Object).Calm)
    (running : client.receiver = .running)
    (writes : ∀ (index : Nat) request slot,
      client.calls[index]? = some ⟨request, .sending slot⟩ →
        request.addressed slot ≠ none) :
    ∀ call ∈ result.1.calls, call.failed = false := by
  cases moves with
  | invoke request =>
      intro call member
      rcases List.mem_append.mp member with earlier | new
      · exact working call earlier
      · rw [List.mem_singleton.mp new]
        rfl
  | pop index | send index | takeResponse index | release index =>
      exact working_set working rfl index
  | timeOut =>
      exact calm.elim
  | sendFails index request packet slot outcome found written fails =>
      exact absurd calm fails
  | sendPanics index request slot outcome found refused =>
      exact absurd refused (writes index request slot found)
  | disconnect index request slot found nothing stopped =>
      exact absurd running stopped

theorem End.Moves.working
    (working : ∀ call ∈ context.client.calls, call.failed = false)
    {event : EndEvent Object} {result : End Object × List Frame}
    (moves : context.Moves config event result) (calm : event.Calm)
    (running : context.client.receiver = .running)
    (writes : ∀ (index : Nat) request slot,
      context.client.calls[index]? = some ⟨request, .sending slot⟩ →
        request.addressed slot ≠ none) :
    ∀ call ∈ result.1.client.calls, call.failed = false := by
  cases moves with
  | client event result moves =>
      exact moves.working working calm running writes
  | clientPacket packet client _ waiting received =>
      obtain ⟨_, calls, _⟩ := Client.receive_cases received
      rw [calls]
      exact working
  | server | multiplexer | clientFailure | clientPanics | serverPacket
  | serverFailure | serverPanics =>
      exact working

end Flow

section Calmness

variable {Object : Type u} {config : Side → Config}
variable {connection : Connection Object}

/-- No method and no destructor has panicked. -/
def Connection.Sound (connection : Connection Object) : Prop :=
  ∀ side, ¬ connection.Crashed side

theorem Connection.Sound.before
    {source target : Connection Object} {event : ConnectionEvent Object}
    (sound : target.Sound)
    (stepped :
      (connectionSystem Object config).step source event = some target) :
    source.Sound := by
  intro side crashed
  have runs :
      (connectionSystem Object config).RunsWhere
        TransitionSystem.anyEvent source target :=
    (TransitionSystem.RunsWhere.refl source).concat trivial stepped
  exact sound side (Connection.crashed_of_runs runs crashed)

end Calmness

/-! ## Methods that wait for their own calls -/

/-- Which calls of a side are made inside of a method or a destructor that
the side runs; the others come from threads outside of its pool. -/
abbrev Nesting := Side → Nat → Bool

/-- The calls that methods and destructors of a side have made are over. -/
def Connection.NestedEnded {Object : Type u} (connection : Connection Object)
    (nested : Nesting) (side : Side) : Prop :=
  ∀ index call, (connection.ends side).client.calls[index]? = some call →
    nested side index = true → call.ended = true

/-- A step that some thread is free to take, whatever methods wait for.  A
method may wait for a call of its own, for the export of an object, or for
another method that has a lock; it is counted on to end once all such calls
and exports of its side are over.  A destructor waits for calls only. -/
def Ready {Object : Type u} (nested : Nesting)
    (connection : Connection Object) (event : ConnectionEvent Object) :
    Prop :=
  event.event.Proceeds ∧
    match event.event with
    | .server (.finish _ _) =>
        connection.NestedEnded nested event.side ∧
          (connection.ends event.side).server.registry.registering = []
    | .server (.destroyed _) => connection.NestedEnded nested event.side
    | _ => True

/-- The end of a method or of a destructor. -/
def EndEvent.Ends {Object : Type u} : EndEvent Object → Prop
  | .server (.finish _ _) | .server (.destroyed _) => True
  | _ => False

/-- No step of the library is enabled at an end. -/
def End.Idle {Object : Type u} (config : Config) (context : End Object) :
    Prop :=
  ∀ event : EndEvent Object, event.Proceeds → ¬ event.Ends →
    context.step config event = none

section Idleness

variable {Object : Type u} {config : Config} {context : End Object}

theorem End.Idle.multiplexer_step (idle : context.Idle config)
    {event : MultiplexerEvent} (proceeds : event.Proceeds) :
    context.multiplexer.step context.serverListens context.clientListens
      event = none :=
  Option.map_eq_none_iff.mp (idle (.multiplexer event) proceeds id)

theorem End.Idle.responseChannel
    (idle : context.Idle config) (told : context.Told)
    (active : context.multiplexer.Active) (answers : context.Answers) :
    context.multiplexer.responseChannel = none := by
  have running := End.running_of_active told active
  cases waiting : context.multiplexer.responseChannel with
  | none =>
      rfl
  | some item =>
      cases item with
      | packet packet =>
          obtain ⟨client, received, _⟩ := answers packet waiting running
          have stuck :=
            Option.map_eq_none_iff.mp (idle .clientReceive trivial id)
          simp [End.clientReceive, running, waiting, received] at stuck
      | failure =>
          have untold := active.not_told.2
          rw [told.client.mpr (Or.inl waiting)] at untold
          cases untold

theorem End.Idle.requestChannel
    (idle : context.Idle config) (told : context.Told)
    (active : context.multiplexer.Active) :
    context.multiplexer.requestChannel = none := by
  have untold := active.not_told.1
  have receiving : context.server.state = .receiving := by
    by_contra stopped
    rw [told.server.mpr (Or.inr stopped)] at untold
    cases untold
  cases waiting : context.multiplexer.requestChannel with
  | none =>
      rfl
  | some item =>
      cases item with
      | packet packet =>
          have stuck :=
            Option.map_eq_none_iff.mp (idle .serverReceive trivial id)
          simp [End.serverReceive, receiving, waiting] at stuck
      | failure =>
          rw [told.server.mpr (Or.inl waiting)] at untold
          cases untold

/-- Nothing is in the hands of the thread that receives for both. -/
theorem End.Idle.packets
    (idle : context.Idle config) (told : context.Told)
    (active : context.multiplexer.Active) (answers : context.Answers)
    (type : SlotType) : context.multiplexer.packets type = 0 := by
  have noResponse := idle.responseChannel told active answers
  have noRequest := idle.requestChannel told active
  have untold := active.not_told
  have serverListens := End.serverListens_of_not_told told untold.1
  have clientListens := End.clientListens_of_not_told told untold.2
  have receiving : context.multiplexer.state = .receiving := by
    rcases active with receiving | ⟨packet, holds⟩
    · exact receiving
    · have proceeds : MultiplexerEvent.forward.Proceeds := trivial
      have stuck := idle.multiplexer_step proceeds
      cases packetType : packet.slot.getType <;>
        simp [Multiplexer.step, holds, packetType, serverListens,
          clientListens, noRequest, noResponse] at stuck
  have nothing : context.multiplexer.incoming = [] := by
    cases incoming : context.multiplexer.incoming with
    | nil =>
        rfl
    | cons packet rest =>
        have proceeds : (MultiplexerEvent.deliver 0).Proceeds := trivial
        have stuck := idle.multiplexer_step proceeds
        simp [Multiplexer.step, receiving, incoming] at stuck
  unfold Multiplexer.packets Multiplexer.undelivered
  rw [nothing, Multiplexer.held_of_receiving receiving]
  cases type with
  | request =>
      rw [Multiplexer.channel, noRequest]
      rfl
  | response =>
      rw [Multiplexer.channel, noResponse]
      rfl

end Idleness

section Completion

variable {Object : Type u} {config : Side → Config}
variable {connection : Connection Object}

def Connection.Deleting (connection : Connection Object) : Prop :=
  ∀ side, (connection.ends side).server.Deleting

variable {nested : Nesting}

end Completion

/-! ## Methods that call back -/

/-- The method that the right end runs for the left one calls the left end,
which runs a method for this call. -/
def callBack : List (ConnectionEvent Nat) :=
  oneCall.take 7 ++
    [⟨.right,
        .client (.invoke ⟨.newRequest, initialServiceObjectId, 71, []⟩)⟩,
      ⟨.right, .client (.pop 0)⟩,
      ⟨.right, .client (.send 0 .sent)⟩,
      ⟨.left, .multiplexer (.deliver 0)⟩,
      ⟨.left, .multiplexer .forward⟩,
      ⟨.left, .serverReceive⟩,
      ⟨.left, .server (.start 0)⟩]

/-- The method of the left end calls the right end in turn, which has no
thread for this call. -/
def callBackAgain : List (ConnectionEvent Nat) :=
  callBack ++
    [⟨.left,
        .client (.invoke ⟨.newRequest, initialServiceObjectId, 70, []⟩)⟩,
      ⟨.left, .client (.pop 1)⟩,
      ⟨.left, .client (.send 1 .sent)⟩,
      ⟨.right, .multiplexer (.deliver 0)⟩,
      ⟨.right, .multiplexer .forward⟩,
      ⟨.right, .serverReceive⟩]

def callingEachOther : Nesting
  | .left, 1 | .right, 0 => true
  | _, _ => false

theorem callBackAgain_replays :
    ((connectionSystem Nat fun _ => smallConfig).run freshConnection
      callBackAgain).isSome := by
  decide

def waitingConnection : Connection Nat :=
  ((connectionSystem Nat fun _ => smallConfig).run freshConnection
    callBackAgain).get callBackAgain_replays

private theorem waitingConnection_client
    {side : Side} {event : ClientEvent} (proceeds : event.Proceeds) :
    (waitingConnection.ends side).client.step smallConfig event = none := by
  cases event with
  | pop index | takeResponse index | release index =>
      cases side <;> rcases index with _ | _ | index <;> rfl
  | send index outcome =>
      cases side <;> rcases index with _ | _ | index <;> rfl
  | invoke | timeOut | disconnect =>
      exact proceeds.elim

private theorem waitingConnection_server
    {side : Side} {event : ServerEvent Nat}
    (ready :
      Ready callingEachOther waitingConnection ⟨side, .server event⟩) :
    (waitingConnection.ends side).server.step smallConfig event = none := by
  cases event with
  | start index | destroyed index | finishDelete index | account index =>
      cases side <;> rcases index with _ | _ | index <;> rfl
  | respond index outcome =>
      cases side <;> rcases index with _ | _ | index <;> rfl
  | insert index =>
      cases side <;> rfl
  | finish index result =>
      -- each end has one method that runs, and it waits for its own call
      cases side with
      | left =>
          rcases index with _ | index
          · cases ready.2.1 1 _ rfl rfl
          · rfl
      | right =>
          rcases index with _ | _ | index
          · cases ready.2.1 0 _ rfl rfl
          · rfl
          · rfl
  | crash | drained | popFront | clear =>
      exact ready.1.elim

private theorem waitingConnection_multiplexer
    {side : Side} {event : MultiplexerEvent} (proceeds : event.Proceeds) :
    (waitingConnection.ends side).multiplexer.step
      (waitingConnection.ends side).serverListens
      (waitingConnection.ends side).clientListens event = none := by
  cases event with
  | deliver | forward =>
      cases side <;> rfl
  | fail =>
      exact proceeds.elim

/-- Where the methods of both ends make calls, nothing may be left to do
although no call has returned. -/
theorem calls_of_both_sides_can_wait_for_each_other :
    (connectionSystem Nat fun _ => smallConfig).ReachableWhere Calm
        waitingConnection ∧
      (connectionSystem Nat fun _ => smallConfig).Quiescent
        (Ready callingEachOther) waitingConnection ∧
      waitingConnection.Sound ∧
      ∀ side, ∀ call ∈ (waitingConnection.ends side).client.calls,
        call.ended = false := by
  refine ⟨⟨freshConnection, freshConnection_initial, ?_⟩, ?_, ?_, ?_⟩
  · refine
      TransitionSystem.runsWhere_of_forall_mem
        (Option.some_get callBackAgain_replays).symm ?_
    simp [callBackAgain, callBack, oneCall, Calm, EndEvent.Calm]
  · rintro ⟨side, event⟩ ready
    refine Option.map_eq_none_iff.mpr ?_
    cases event with
    | client event =>
        exact Option.map_eq_none_iff.mpr (waitingConnection_client ready.1)
    | server event =>
        exact Option.map_eq_none_iff.mpr (waitingConnection_server ready)
    | multiplexer event =>
        exact
          Option.map_eq_none_iff.mpr (waitingConnection_multiplexer ready.1)
    | clientReceive | serverReceive =>
        cases side <;> rfl
  · rintro side ⟨task, member, panicked⟩
    have unanswered :
        ((waitingConnection.ends side).server.tasks.all fun task =>
          task.packet.isSome) = true := by
      cases side <;> decide
    have holds := List.all_eq_true.mp unanswered task member
    simp [Task.packet, panicked] at holds
  · intro side
    cases side <;> decide

end CloudP2P.Rpc
