import CloudP2P.Rpc.Completion

/-!
# From asking to handling

What one end has asked for is outstanding until a thread of the other end
starts to handle it: the request may still be with its call, on the way, or
in the queue of the thread pool.  No step of a connection but the start of a
call puts anything into this, and no step but the start of a task takes
anything out of it as long as nothing fails.
-/

universe u

namespace CloudP2P.Rpc

/-- What a call still has to send. -/
def Call.unsent (call : Call) : Option Content :=
  match call.state with
  | .popping | .sending _ => some call.request.content
  | .awaiting _ | .returning _ _ | .returned _ | .timedOut
  | .abandoned _ => none

def Task.unstarted {Object : Type u} (task : Task Object) :
    Option Content :=
  match task.state with
  | .queued => some task.request.content
  | .destroying | .deleting | .running _ | .responding _ | .accounting _
  | .finished _ | .panicked => none

/-- What the calls of one end still have to send. -/
def unsent (calls : List Call) : Multiset Content :=
  (calls.filterMap Call.unsent : List Content)

/-- What the queue of the thread pool holds. -/
def unstarted {Object : Type u} (tasks : List (Task Object)) :
    Multiset Content :=
  (tasks.filterMap Task.unstarted : List Content)

/-- What one end has asked for and the other has not started to handle. -/
def outstanding {Object : Type u} (caller callee : End Object) :
    Multiset Content :=
  unsent caller.client.calls +
    ((callee.multiplexer.packets .request).map Frame.content +
      unstarted callee.server.tasks)

theorem Drops.add_right {Item : Type u} {reason : Prop}
    {before after : Multiset Item} (drops : Drops reason before after)
    (others : Multiset Item) :
    Drops reason (before + others) (after + others) := by
  rcases drops with rfl | ⟨given, item, rfl⟩
  · exact Or.inl rfl
  · exact Or.inr ⟨given, item, Multiset.cons_add item after others⟩

theorem Drops.add_left {Item : Type u} {reason : Prop}
    {before after : Multiset Item} (drops : Drops reason before after)
    (others : Multiset Item) :
    Drops reason (others + before) (others + after) := by
  rw [add_comm others, add_comm others]
  exact drops.add_right others

theorem Drops.map {Item Image : Type u} {reason : Prop}
    {before after : Multiset Item} (drops : Drops reason before after)
    (image : Item → Image) :
    Drops reason (before.map image) (after.map image) := by
  rcases drops with rfl | ⟨given, item, rfl⟩
  · exact Or.inl rfl
  · exact Or.inr ⟨given, image item, Multiset.map_cons image item after⟩

theorem Drops.le {Item : Type u} {reason : Prop}
    {before after : Multiset Item} (drops : Drops reason before after) :
    after ≤ before := by
  rcases drops with rfl | ⟨_, item, rfl⟩
  · exact le_rfl
  · exact Multiset.le_cons_self after item

section Steps

variable {Object : Type u} {config : Config}

/-- A call of the end has failed. -/
def Client.Failed (client : Client) : Prop :=
  ∃ call ∈ client.calls, call.failed = true

section Sending

variable {calls : List Call} {index : Nat} {call next : Call}

private theorem unsent_set_of_eq (found : calls[index]? = some call)
    (same : next.unsent = call.unsent) :
    unsent (calls.set index next) = unsent calls := by
  unfold unsent
  rw [filterMap_set_of_eq found same]

private theorem unsent_set_erase (found : calls[index]? = some call)
    (waits : call.unsent = some call.request.content)
    (nothing : next.unsent = none) :
    unsent calls = call.request.content ::ₘ unsent (calls.set index next) :=
  filterMap_set_erase found waits nothing

private theorem failed_set (found : calls[index]? = some call)
    (fails : next.failed = true) :
    ∃ other ∈ calls.set index next, other.failed = true := by
  obtain ⟨valid, _⟩ := List.getElem?_eq_some_iff.mp found
  exact ⟨next, List.mem_set valid next, fails⟩

end Sending

/-- A call that sends hands its request over, and one that fails before
loses it. -/
theorem Client.Moves.unsent
    {client : Client} {event : ClientEvent}
    {result : Client × List Frame}
    (moves : client.Moves config event result)
    (goesOn : ∀ request, event ≠ .invoke request) :
    Drops result.1.Failed (Rpc.unsent client.calls)
      (Rpc.unsent result.1.calls +
        (result.2 : Multiset Frame).map Frame.content) := by
  cases moves with
  | invoke request =>
      exact absurd rfl (goesOn request)
  | pop _ _ _ _ found | takeResponse _ _ _ _ found
  | disconnect _ _ _ found | release _ _ _ _ found =>
      refine Or.inl ?_
      rw [Multiset.coe_nil, Multiset.map_zero, add_zero]
      exact unsent_set_of_eq found rfl
  | timeOut _ request found | sendPanics _ request _ _ found =>
      refine Or.inr ⟨failed_set found rfl, request.content, ?_⟩
      rw [Multiset.coe_nil, Multiset.map_zero, add_zero]
      exact unsent_set_erase found rfl rfl
  | send index request packet slot found written =>
      have content := (Frame.sentUnder_of_addressed written).content
      refine Or.inl ?_
      rw [Multiset.coe_singleton, Multiset.map_singleton, content, add_comm]
      exact (unsent_set_erase found rfl rfl).symm
  | sendFails index request packet slot outcome found written fails =>
      have content := (Frame.sentUnder_of_addressed written).content
      cases outcome with
      | sent =>
          exact absurd rfl fails
      | failed =>
          refine Or.inr ⟨failed_set found rfl, request.content, ?_⟩
          rw [SendOutcome.packets, Multiset.coe_nil, Multiset.map_zero,
            add_zero]
          exact unsent_set_erase found rfl rfl
      | failedAfterDelivery =>
          refine Or.inl ?_
          rw [SendOutcome.packets, Multiset.coe_singleton,
            Multiset.map_singleton, content, add_comm]
          exact (unsent_set_erase found rfl rfl).symm

section Starting

variable {server later : Server Object} {index : Nat}
variable {task next : Task Object}

private theorem unstarted_set_of_eq
    (found : server.tasks[index]? = some task)
    (tasks : later.tasks = server.tasks.set index next)
    (same : next.unstarted = task.unstarted) :
    unstarted later.tasks = unstarted server.tasks := by
  unfold unstarted
  rw [tasks, filterMap_set_of_eq found same]

private theorem unstarted_set_erase {request : Frame}
    (found : server.tasks[index]? = some ⟨request, .queued⟩)
    (tasks : later.tasks = server.tasks.set index next)
    (nothing : next.unstarted = none) :
    unstarted server.tasks = request.content ::ₘ unstarted later.tasks := by
  have waits :
      (Task.mk request (.queued : TaskState Object)).unstarted =
        some request.content :=
    rfl
  unfold unstarted
  rw [tasks]
  exact filterMap_set_erase found waits nothing

end Starting

/-- Only the start of a task takes anything out of the queue. -/
theorem Server.Moves.unstarted
    {server : Server Object} {event : ServerEvent Object}
    {result : Server Object × List Frame}
    (moves : server.Moves config event result) :
    (∃ index request, event = .start index ∧
        server.tasks[index]? = some ⟨request, .queued⟩ ∧
        Rpc.unstarted server.tasks =
          request.content ::ₘ Rpc.unstarted result.1.tasks) ∨
      (∀ index, event ≠ .start index) ∧
        Rpc.unstarted result.1.tasks = Rpc.unstarted server.tasks := by
  cases moves with
  | startDelete index request _ found
  | startCall index request _ found
  | startPanics index request found =>
      exact
        Or.inl
          ⟨index, request, rfl, found, unstarted_set_erase found rfl rfl⟩
  | destroyed _ _ found | finishDelete _ _ _ found | finish _ _ _ _ found
  | crash _ _ _ found | crashDelete _ _ found
  | respond _ _ _ _ _ found | respondPanics _ _ _ _ found
  | account _ _ _ found =>
      exact Or.inr ⟨by simp, unstarted_set_of_eq found rfl rfl⟩
  | drained | popFront | insert | clear =>
      exact Or.inr ⟨by simp, rfl⟩

variable {caller callee : End Object}

private theorem outstanding_deposit_callee (caller callee : End Object)
    (packets : List Frame) :
    outstanding caller (callee.deposit packets) =
      outstanding caller callee +
        (Multiset.filter (fun packet => packet.slot.getType = .request)
          (packets : Multiset Frame)).map Frame.content := by
  unfold outstanding End.deposit
  rw [Multiplexer.packets_append, Multiset.map_add]
  ac_rfl

theorem Client.Moves.outstanding
    {event : ClientEvent} {result : Client × List Frame}
    (moves : caller.client.Moves config event result)
    (goesOn : ∀ request, event ≠ .invoke request) :
    Drops result.1.Failed (outstanding caller callee)
      (outstanding { caller with client := result.1 }
        (callee.deposit result.2)) := by
  have all :
      Multiset.filter (fun packet => packet.slot.getType = .request)
          (result.2 : Multiset Frame) = result.2 :=
    Multiset.filter_eq_self.mpr moves.sends_requests
  have moved :=
    (moves.unsent goesOn).add_right
      ((callee.multiplexer.packets .request).map Frame.content +
        Rpc.unstarted callee.server.tasks)
  rw [outstanding_deposit_callee, all]
  rw [add_right_comm] at moved
  exact moved

/-- No step of the asking end but the start of a call adds to what is
outstanding. -/
theorem End.Moves.outstanding_caller
    {event : EndEvent Object} {result : End Object × List Frame}
    (moves : caller.Moves config event result)
    (goesOn : ∀ request, event ≠ .client (.invoke request)) :
    Drops result.1.client.Failed (outstanding caller callee)
      (outstanding result.1 (callee.deposit result.2)) := by
  cases moves with
  | client event result moves =>
      refine moves.outstanding ?_
      rintro request rfl
      exact goesOn request rfl
  | server event result moves =>
      have nothing :=
        filter_eq_zero_of_type .request (by decide) moves.sends_responses
      refine Or.inl ?_
      rw [outstanding_deposit_callee, nothing, Multiset.map_zero, add_zero]
      rfl
  | clientPacket packet client running waiting received =>
      obtain ⟨_, calls, _⟩ := Client.receive_cases received
      refine Or.inl ?_
      rw [End.deposit_nil]
      unfold outstanding
      rw [calls]
  | multiplexer | clientFailure | clientPanics | serverPacket
  | serverFailure | serverPanics =>
      refine Or.inl ?_
      rw [End.deposit_nil]
      rfl

/-- The step starts to handle a request. -/
def End.Starts (callee : End Object) (event : EndEvent Object)
    (request : Frame) : Prop :=
  ∃ index, event = .server (.start index) ∧
    callee.server.tasks[index]? = some ⟨request, .queued⟩

/-- Requests go on to the queue of the thread pool, and from there to a
thread. -/
theorem End.Moves.outstanding_callee
    (caller : End Object) {event : EndEvent Object}
    {result : End Object × List Frame}
    (moves : callee.Moves config event result) :
    (∃ request, callee.Starts event request ∧
        outstanding caller callee =
          request.content ::ₘ outstanding caller result.1) ∨
      (∀ request, ¬ callee.Starts event request) ∧
        Drops (result.1.multiplexer.state = .panicked)
          (outstanding caller callee) (outstanding caller result.1) := by
  cases moves with
  | server event result moves =>
      rcases moves.unstarted with
        ⟨index, request, rfl, found, taken⟩ | ⟨others, same⟩
      · refine Or.inl ⟨request, ⟨index, rfl, found⟩, ?_⟩
        unfold outstanding
        simp only [taken, Multiset.add_cons]
      · refine Or.inr ⟨?_, Or.inl ?_⟩
        · rintro request ⟨index, started, _⟩
          injection started with started
          exact others index started
        · unfold outstanding
          simp only [same]
  | multiplexer event multiplexer moves =>
      refine Or.inr ⟨?_, ?_⟩
      · rintro request ⟨index, started, _⟩
        cases started
      · exact
          (((moves.packets .request).map Frame.content).add_right _).add_left
            _
  | serverPacket packet receiving waiting =>
      have left :=
        (packets_setRequestChannel callee waiting).trans
          (Multiset.singleton_add packet _)
      have queued :
          Rpc.unstarted (callee.server.receive packet).tasks =
            packet.content ::ₘ Rpc.unstarted callee.server.tasks := by
        unfold Rpc.unstarted Server.receive
        rw [List.filterMap_append, ← Multiset.coe_add, add_comm]
        rfl
      refine Or.inr ⟨?_, Or.inl ?_⟩
      · rintro request ⟨index, started, _⟩
        cases started
      · unfold outstanding
        simp only [left, queued, Multiset.map_cons, Multiset.add_cons,
          Multiset.cons_add]
  | serverFailure receiving told =>
      have left := packets_setRequestChannel callee told
      refine Or.inr ⟨?_, Or.inl ?_⟩
      · rintro request ⟨index, started, _⟩
        cases started
      · unfold outstanding
        rw [left]
        simp only [channelPackets, zero_add]
  | client | clientPacket | clientFailure | clientPanics | serverPanics =>
      refine Or.inr ⟨?_, Or.inl rfl⟩
      rintro request ⟨index, started, _⟩
      cases started

end Steps

section Connections

variable {Object : Type u} {config : Side → Config}
variable {source target : Connection Object}
variable {event : ConnectionEvent Object} {packets : List Frame}

/-- What one side has asked for and the other has not started to handle. -/
def Connection.outstanding (connection : Connection Object)
    (caller : Side) : Multiset Content :=
  Rpc.outstanding (connection.ends caller) (connection.ends caller.other)

/-- The step of a connection starts to handle a request of one side. -/
def Connection.Starts (connection : Connection Object) (caller : Side)
    (event : ConnectionEvent Object) (request : Frame) : Prop :=
  event.side = caller.other ∧
    (connection.ends caller.other).Starts event.event request

/-- Only the start of a call adds to what is outstanding, only the start of
a task takes from it as long as nothing fails. -/
theorem Connection.StepsTo.outstanding
    (taken : source.StepsTo config event target packets) (caller : Side)
    (goesOn : event.side = caller →
      ∀ request, event.event ≠ .client (.invoke request)) :
    (∃ request, source.Starts caller event request ∧
        source.outstanding caller =
          request.content ::ₘ target.outstanding caller) ∨
      (∀ request, ¬ source.Starts caller event request) ∧
        Drops
          ((target.ends caller).client.Failed ∨
            (target.ends caller.other).multiplexer.state = .panicked)
          (source.outstanding caller) (target.outstanding caller) := by
  obtain ⟨side, inner⟩ := event
  rcases side.eq_or_eq_other caller with rfl | rfl
  · have drops :
        Drops (target.ends side).client.Failed (source.outstanding side)
          (Rpc.outstanding (target.ends side)
            ((source.ends side.other).deposit packets)) :=
      taken.moves.outstanding_caller (goesOn rfl)
    rw [← taken.deposited] at drops
    refine Or.inr ⟨?_, ?_⟩
    · rintro request ⟨same, _⟩
      exact side.other_ne same.symm
    · exact drops.mono Or.inl
  · have deposited := taken.deposited
    simp only [Side.other_other] at deposited
    have unchanged :
        target.outstanding caller =
          Rpc.outstanding (source.ends caller) (target.ends caller.other) := by
      unfold Connection.outstanding
      rw [deposited]
      rfl
    rw [unchanged]
    rcases taken.moves.outstanding_callee (source.ends caller) with
      ⟨request, starts, left⟩ | ⟨others, drops⟩
    · exact Or.inl ⟨request, ⟨rfl, starts⟩, left⟩
    · refine Or.inr ⟨?_, drops.mono Or.inr⟩
      rintro request ⟨_, starts⟩
      exact others request starts

/-- The objects that one side can call. -/
def Connection.objects (connection : Connection Object) (caller : Side) :
    ServiceObjectId → Option Object :=
  (connection.ends caller.other).server.registry.serviceObjects

/-- Everything that a step does for the requests of one side. -/
inductive Connection.Serves (source : Connection Object) (caller : Side)
    (event : ConnectionEvent Object) (target : Connection Object) : Prop where
  | deletes (request : Frame)
      (starts : source.Starts caller event request)
      (delete : request.method = deleteRequest)
      (registered :
        (source.objects caller request.serviceObjectId).isSome)
      (taken :
        source.outstanding caller =
          request.content ::ₘ target.outstanding caller)
      (objects :
        target.objects caller =
          Function.update (source.objects caller) request.serviceObjectId
            none)
  | calls (request : Frame) (object : Object)
      (starts : source.Starts caller event request)
      (call : request.method ≠ deleteRequest)
      (registered :
        source.objects caller request.serviceObjectId = some object)
      (taken :
        source.outstanding caller =
          request.content ::ₘ target.outstanding caller)
      (objects : target.objects caller = source.objects caller)
  | panics (request : Frame)
      (starts : source.Starts caller event request)
      (unknown : source.objects caller request.serviceObjectId = none)
      (taken :
        source.outstanding caller =
          request.content ::ₘ target.outstanding caller)
      (objects : target.objects caller = source.objects caller)
  | exports (index : Nat) (id : ServiceObjectId) (object : Object)
      (inserts : event = ⟨caller.other, .server (.insert index)⟩)
      (found :
        (source.ends caller.other).server.registry.registering[index]? =
          some (id, object))
      (drops :
        Drops
          ((target.ends caller).client.Failed ∨
            (target.ends caller.other).multiplexer.state = .panicked)
          (source.outstanding caller) (target.outstanding caller))
      (objects :
        target.objects caller =
          Function.update (source.objects caller) id (some object))
  | rests
      (others : ∀ request, ¬ source.Starts caller event request)
      (exports : ∀ index,
        event ≠ ⟨caller.other, .server (.insert index)⟩)
      (drops :
        Drops
          ((target.ends caller).client.Failed ∨
            (target.ends caller.other).multiplexer.state = .panicked)
          (source.outstanding caller) (target.outstanding caller))
      (objects : target.objects caller = source.objects caller)

private theorem serves_of_starts
    {caller : Side} {request : Frame}
    (taken : source.StepsTo config event target packets)
    (starts : source.Starts caller event request)
    (left :
      source.outstanding caller =
        request.content ::ₘ target.outstanding caller) :
    source.Serves caller event target := by
  obtain ⟨side, inner⟩ := event
  obtain ⟨rfl, index, rfl, found⟩ := starts
  have starts : source.Starts caller
      ⟨caller.other, .server (.start index)⟩ request :=
    ⟨rfl, index, rfl, found⟩
  have moves := taken.moves
  generalize after : target.ends caller.other = reached at moves
  have objects :
      target.objects caller = reached.server.registry.serviceObjects := by
    rw [Connection.objects, after]
  cases moves with
  | server _ result moves =>
      cases moves with
      | startDelete _ _ registry same free delete removed =>
          cases found.symm.trans same
          cases ServiceForwarder.moves_of_step removed with
          | remove _ registered =>
              exact .deletes request starts delete registered left objects
      | startCall _ _ object same free call registered =>
          cases found.symm.trans same
          exact .calls request object starts call registered left objects
      | startPanics _ _ same free unknown =>
          cases found.symm.trans same
          exact .panics request starts unknown left objects

private theorem objects_of_other
    {caller : Side}
    (taken : source.StepsTo config event target packets)
    (other : event.side ≠ caller.other) :
    target.objects caller = source.objects caller := by
  obtain ⟨side, inner⟩ := event
  rcases side.eq_or_eq_other caller with rfl | rfl
  · unfold Connection.objects
    rw [taken.deposited]
    rfl
  · exact absurd rfl other

/-- The objects of a server change when one is inserted or removed. -/
private theorem objects_of_server
    {callee : End Object} {config : Config} {event : EndEvent Object}
    {result : End Object × List Frame}
    (moves : callee.Moves config event result)
    (kept : event ≠ .server .clear)
    (others : ∀ request, ¬ callee.Starts event request) :
    (∃ index id object, event = .server (.insert index) ∧
        callee.server.registry.registering[index]? = some (id, object) ∧
        result.1.server.registry.serviceObjects =
          Function.update callee.server.registry.serviceObjects id
            (some object)) ∨
      (∀ index, event ≠ .server (.insert index)) ∧
        result.1.server.registry.serviceObjects =
          callee.server.registry.serviceObjects := by
  cases moves with
  | server event result moves =>
      cases moves with
      | startDelete index request _ found
      | startCall index request _ found
      | startPanics index request found =>
          exact absurd ⟨index, rfl, found⟩ (others request)
      | finishDelete index request registry found pushed =>
          cases ServiceForwarder.moves_of_step pushed with
          | pushBack =>
              exact Or.inr ⟨by simp, rfl⟩
      | popFront object registry taken =>
          cases ServiceForwarder.moves_of_step taken with
          | popFront =>
              exact Or.inr ⟨by simp, rfl⟩
      | insert index registry inserted =>
          cases ServiceForwarder.moves_of_step inserted with
          | insert _ id object found =>
              exact Or.inl ⟨index, id, object, rfl, found, rfl⟩
      | clear =>
          exact absurd rfl kept
      | destroyed | finish | crash | crashDelete | respond | respondPanics
      | account | drained =>
          exact Or.inr ⟨by simp, rfl⟩
  | client | multiplexer | clientPacket | clientFailure | clientPanics
  | serverPacket | serverFailure | serverPanics =>
      exact Or.inr ⟨by simp, rfl⟩

theorem Connection.StepsTo.serves
    (taken : source.StepsTo config event target packets) (caller : Side)
    (goesOn : event.side = caller →
      ∀ request, event.event ≠ .client (.invoke request))
    (kept : event.event ≠ .server .clear) :
    source.Serves caller event target := by
  rcases taken.outstanding caller goesOn with
    ⟨request, starts, left⟩ | ⟨others, drops⟩
  · exact serves_of_starts taken starts left
  · by_cases other : event.side = caller.other
    · obtain ⟨side, inner⟩ := event
      cases other
      have notStart (request : Frame) :
          ¬ (source.ends caller.other).Starts inner request :=
        fun starts => others request ⟨rfl, starts⟩
      rcases objects_of_server taken.moves kept notStart with
        ⟨index, id, object, rfl, found, objects⟩ | ⟨noInsert, objects⟩
      · exact .exports index id object rfl found drops objects
      · refine .rests others ?_ drops objects
        intro index same
        injection same with _ same
        exact noInsert index same
    · refine .rests others ?_ drops (objects_of_other taken other)
      rintro index rfl
      exact other rfl

/-- What the start of a call does to the requests of its side. -/
structure Connection.Invokes (source : Connection Object) (caller : Side)
    (request : Frame) (target : Connection Object) : Prop where
  calls :
    (target.ends caller).client.calls =
      (source.ends caller).client.calls ++ [⟨request, .popping⟩]
  outstanding :
    target.outstanding caller =
      request.content ::ₘ source.outstanding caller
  server :
    (target.ends caller.other).server = (source.ends caller.other).server

theorem Connection.StepsTo.invokes
    {caller : Side} {request : Frame}
    (taken :
      source.StepsTo config ⟨caller, .client (.invoke request)⟩ target
        packets) : source.Invokes caller request target := by
  have moves := taken.moves
  have deposited := taken.deposited
  simp only at moves deposited
  generalize after : target.ends caller = reached at moves
  cases moves with
  | client _ result moves =>
      cases moves with
      | invoke =>
          rw [End.deposit_nil] at deposited
          refine ⟨?_, ?_, ?_⟩
          · rw [after]
          · unfold Connection.outstanding Rpc.outstanding
            rw [after, deposited]
            unfold Rpc.unsent
            rw [List.filterMap_append, ← Multiset.coe_add, add_right_comm,
              add_comm]
            rfl
          · rw [deposited]

/-! ## What goes on while a request is handled -/

theorem Server.Moves.registry
    {config : Config} {server : Server Object} {event : ServerEvent Object}
    {result : Server Object × List Frame}
    (moves : server.Moves config event result) :
    result.1.registry = server.registry ∨
      ∃ deed, (deed = .clear → event = .clear) ∧
        server.registry.step deed = some result.1.registry := by
  cases moves with
  | startDelete _ _ _ _ _ _ stepped | finishDelete _ _ _ _ stepped
  | popFront _ _ stepped | insert _ _ stepped _ =>
      exact Or.inr ⟨_, by simp, stepped⟩
  | clear _ stepped _ =>
      exact Or.inr ⟨_, fun _ => rfl, stepped⟩
  | startCall | startPanics | destroyed | finish | crash | crashDelete
  | respond | respondPanics | account | drained =>
      exact Or.inl rfl

/-- A server works on its registry through the operations of the registry. -/
theorem Connection.StepsTo.registry
    (taken : source.StepsTo config event target packets) (side : Side) :
    (target.ends side).server.registry =
        (source.ends side).server.registry ∨
      ∃ deed, (deed = .clear → event.event = .server .clear) ∧
        (source.ends side).server.registry.step deed =
          some (target.ends side).server.registry := by
  obtain ⟨mover, inner⟩ := event
  rcases mover.eq_or_eq_other side with rfl | rfl
  · have moves := taken.moves
    simp only at moves
    generalize target.ends mover = reached at moves
    cases moves with
    | server event result moves =>
        rcases moves.registry with same | ⟨deed, clears, stepped⟩
        · exact Or.inl same
        · exact
            Or.inr ⟨deed, fun clear => congrArg _ (clears clear), stepped⟩
    | client | multiplexer | clientPacket | clientFailure | clientPanics
    | serverPacket | serverFailure | serverPanics =>
        exact Or.inl rfl
  · have deposited := taken.deposited
    simp only [Side.other_other] at deposited
    rw [deposited]
    exact Or.inl rfl

private theorem registry_initial
    {connection : Connection Object}
    (begins : (connectionSystem Object config).initial connection)
    (side : Side) :
    (forwarderSystem Object (config side).maximumServicesNum).initial
      (connection.ends side).server.registry := by
  obtain ⟨metaService, serviceObject, same⟩ := begins side
  refine ⟨metaService, serviceObject, ?_⟩
  rw [same]
  rfl

theorem Connection.reachable_registry
    {connection : Connection Object}
    (reachable : (connectionSystem Object config).Reachable connection)
    (side : Side) :
    (forwarderSystem Object (config side).maximumServicesNum).Reachable
      (connection.ends side).server.registry := by
  refine
    TransitionSystem.reachable_project
      (fun connection => (connection.ends side).server.registry)
      (fun _ begins => registry_initial begins side) ?_ reachable
  intro source event target stepped
  obtain ⟨packets, taken⟩ := Connection.stepsTo_of_step stepped
  rcases taken.registry side with same | ⟨deed, _, moved⟩
  · exact Or.inl same
  · exact Or.inr ⟨deed, moved⟩

/-- A call keeps its place and its request, and does not come back. -/
structure Call.Continues (before after : Call) : Prop where
  request : after.request = before.request
  ended : before.ended = true → after.ended = true

/-- The calls of one list go on in another. -/
structure CallsContinue (before after : List Call) : Prop where
  length : after.length = before.length
  continues : ∀ (index : Nat) call, after[index]? = some call →
    ∃ earlier, before[index]? = some earlier ∧ earlier.Continues call

theorem CallsContinue.refl (calls : List Call) : CallsContinue calls calls :=
  ⟨rfl, fun _ call found => ⟨call, found, rfl, id⟩⟩

private theorem callsContinue_set
    {calls : List Call} {index : Nat} {call next : Call}
    (found : calls[index]? = some call) (continues : call.Continues next) :
    CallsContinue calls (calls.set index next) := by
  refine ⟨List.length_set, ?_⟩
  intro other later here
  by_cases same : index = other
  · subst same
    rw [eq_of_getElem?_set_self here]
    exact ⟨call, found, continues⟩
  · rw [List.getElem?_set_ne same] at here
    exact ⟨later, here, rfl, id⟩

theorem Client.Moves.callsContinue
    {config : Config} {client : Client} {event : ClientEvent}
    {result : Client × List Frame}
    (moves : client.Moves config event result)
    (goesOn : ∀ request, event ≠ .invoke request) :
    CallsContinue client.calls result.1.calls := by
  cases moves with
  | invoke request =>
      exact absurd rfl (goesOn request)
  | pop _ _ _ _ found | timeOut _ _ found | send _ _ _ _ found
  | sendFails _ _ _ _ _ found | sendPanics _ _ _ _ found
  | takeResponse _ _ _ _ found | disconnect _ _ _ found
  | release _ _ _ _ found =>
      exact callsContinue_set found ⟨rfl, by simp [Call.ended]⟩

theorem Connection.StepsTo.callsContinue
    (taken : source.StepsTo config event target packets) (caller : Side)
    (goesOn : event.side = caller →
      ∀ request, event.event ≠ .client (.invoke request)) :
    CallsContinue (source.ends caller).client.calls
      (target.ends caller).client.calls := by
  obtain ⟨side, inner⟩ := event
  rcases side.eq_or_eq_other caller with rfl | rfl
  · have moves := taken.moves
    have own := goesOn rfl
    generalize target.ends side = reached at moves
    cases moves with
    | client event result moves =>
        refine moves.callsContinue ?_
        rintro request rfl
        exact own request rfl
    | clientPacket packet client running waiting received =>
        obtain ⟨_, calls, _⟩ := Client.receive_cases received
        simp only [calls]
        exact .refl _
    | server | multiplexer | clientFailure | clientPanics | serverPacket
    | serverFailure | serverPanics =>
        exact .refl _
  · have deposited := taken.deposited
    simp only [Side.other_other] at deposited
    rw [deposited]
    exact .refl _

/-- A method that runs was running, or has just been found. -/
theorem Server.Moves.running
    {config : Config} {server : Server Object} {event : ServerEvent Object}
    {result : Server Object × List Frame}
    (moves : server.Moves config event result) {task : Task Object}
    (member : task ∈ result.1.tasks) {object : Object}
    (runs : task.state = .running object) :
    task ∈ server.tasks ∨
      server.registry.serviceObjects task.request.serviceObjectId =
          some object ∧ ∃ index, event = .start index ∧
            server.tasks[index]? = some ⟨task.request, .queued⟩ ∧
            task.request.method ≠ deleteRequest := by
  cases moves with
  | startCall index request found_object found free call registered =>
      rcases List.mem_or_eq_of_mem_set member with earlier | rfl
      · exact Or.inl earlier
      · cases runs
        exact Or.inr ⟨registered, index, rfl, found, call⟩
  | startDelete | startPanics | destroyed | finishDelete | finish | crash
  | crashDelete | respond | respondPanics | account =>
      rcases List.mem_or_eq_of_mem_set member with earlier | rfl
      · exact Or.inl earlier
      · cases runs
  | drained | popFront | insert | clear =>
      exact Or.inl member

theorem Connection.StepsTo.running
    (taken : source.StepsTo config event target packets) (caller : Side)
    {task : Task Object}
    (member : task ∈ (target.ends caller.other).server.tasks)
    {object : Object} (runs : task.state = .running object) :
    task ∈ (source.ends caller.other).server.tasks ∨
      source.objects caller task.request.serviceObjectId = some object ∧
        source.Starts caller event task.request ∧
        task.request.method ≠ deleteRequest := by
  obtain ⟨side, inner⟩ := event
  rcases side.eq_or_eq_other caller with rfl | rfl
  · rw [taken.deposited] at member
    exact Or.inl member
  · have moves := taken.moves
    simp only at moves
    generalize target.ends caller.other = reached at moves member
    cases moves with
    | server event result moves =>
        rcases moves.running member runs with
          earlier | ⟨registered, index, rfl, found, call⟩
        · exact Or.inl earlier
        · exact Or.inr ⟨registered, ⟨rfl, index, rfl, found⟩, call⟩
    | serverPacket packet receiving waiting =>
        rcases List.mem_append.mp member with earlier | new
        · exact Or.inl earlier
        · rw [List.mem_singleton.mp new] at runs
          cases runs
    | client | multiplexer | clientPacket | clientFailure | clientPanics
    | serverFailure | serverPanics =>
        exact Or.inl member

end Connections

end CloudP2P.Rpc
