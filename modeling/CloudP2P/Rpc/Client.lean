import CloudP2P.Rpc.Packet
import Mathlib.Data.Multiset.Filter

/-!
# The calling side of a port

`Client::call` takes a slot from the queue of free slots, sends the packet
under it, waits on the channel of the slot, and gives the slot back; the
receiving thread puts each response into the channel of its slot.  A call
runs on the thread of its caller, so every point at which it blocks is a
state of its own, and a panic of a call leaves its slot behind, never to be
given back.

Calls stay in the list after they have ended.
-/

namespace CloudP2P.Rpc

/-- What a context is set up with. -/
structure Config where
  callSlots : Nat
  callTimeout : Option Nat
  maximumServicesNum : Nat
  /-- The size of the thread pool, which is never zero. -/
  threads : Nat
  threads_pos : 0 < threads

/-- `config.call_slots as u32` -/
def Config.slotCount (config : Config) : Nat := config.callSlots % 2 ^ 32

/-- The slots that `Client::new` puts into the queue, in order. -/
def Config.slots (config : Config) : List SlotId :=
  (List.range config.slotCount).map fun number => ⟨UInt32.ofNat number⟩

/-- Where the thread of a call is. -/
inductive CallState where
  | popping
  | sending (slot : SlotId)
  | awaiting (slot : SlotId)
  | returning (slot : SlotId) (response : Frame)
  | returned (response : Frame)
  /-- It panicked for want of a slot. -/
  | timedOut
  /-- It panicked and dropped its slot. -/
  | abandoned (slot : SlotId)
  deriving DecidableEq

structure Call where
  request : Frame
  state : CallState
  deriving DecidableEq

/-- A call that will not do anything any more. -/
def Call.ended (call : Call) : Bool :=
  match call.state with
  | .returned _ | .timedOut | .abandoned _ => true
  | .popping | .sending _ | .awaiting _ | .returning _ _ => false

/-- The bounded channel of a slot; `closed` once the slot is dropped. -/
inductive SlotChannel where
  | empty
  | full (response : Frame)
  | closed
  deriving DecidableEq

inductive ReceiverState where
  | running
  | ended
  | panicked
  deriving DecidableEq

/-- What `transport_send.send` reports, and whether the packet got out. -/
inductive SendOutcome where
  | sent
  | failed
  | failedAfterDelivery
  deriving DecidableEq

structure Client where
  callSlots : List SlotId
  slotChannels : List SlotChannel
  calls : List Call
  receiver : ReceiverState

inductive ClientEvent where
  | invoke (request : Frame)
  | pop (call : Nat)
  | timeOut (call : Nat)
  | send (call : Nat) (outcome : SendOutcome)
  | takeResponse (call : Nat)
  | disconnect (call : Nat)
  | release (call : Nat)
  deriving DecidableEq

/-- The packets that a send puts on the way. -/
def SendOutcome.packets (outcome : SendOutcome) (packet : Frame) :
    List Frame :=
  match outcome with
  | .sent | .failedAfterDelivery => [packet]
  | .failed => []

namespace Client

def new (config : Config) : Client where
  callSlots := config.slots
  slotChannels := List.replicate config.slotCount .empty
  calls := []
  receiver := .running

def setCall (client : Client) (index : Nat) (call : Call) : Client :=
  { client with calls := client.calls.set index call }

/-- The call panics, and unwinding drops the receiver of its slot. -/
def abandon (client : Client) (index : Nat) (request : Frame)
    (slot : SlotId) : Client :=
  { client with
    slotChannels := client.slotChannels.set slot.asUsize .closed
    calls := client.calls.set index ⟨request, .abandoned slot⟩ }

/-- The steps of `Client::call`. -/
def step (config : Config) (client : Client) :
    ClientEvent → Option (Client × List Frame)
  | .invoke request =>
      some
        ({ client with calls := client.calls ++ [⟨request, .popping⟩] }, [])
  | .pop index =>
      match client.calls[index]?, client.callSlots with
      | some ⟨request, .popping⟩, slot :: rest =>
          some
            ({ client with callSlots := rest }.setCall index
              ⟨request, .sending slot⟩, [])
      | _, _ => none
  | .timeOut index =>
      match client.calls[index]?, client.callSlots, config.callTimeout with
      | some ⟨request, .popping⟩, [], some _ =>
          some (client.setCall index ⟨request, .timedOut⟩, [])
      | _, _, _ => none
  | .send index outcome =>
      match client.calls[index]? with
      | some ⟨request, .sending slot⟩ =>
          match request.addressed slot with
          -- the assertion of `into_request` fails
          | none => some (client.abandon index request slot, [])
          | some packet =>
              match outcome with
              | .sent =>
                  some
                    (client.setCall index ⟨request, .awaiting slot⟩,
                      outcome.packets packet)
              | .failed | .failedAfterDelivery =>
                  some
                    (client.abandon index request slot,
                      outcome.packets packet)
      | _ => none
  | .takeResponse index =>
      match client.calls[index]? with
      | some ⟨request, .awaiting slot⟩ =>
          match client.slotChannels[slot.asUsize]? with
          | some (.full response) =>
              some
                ({ client with
                    slotChannels :=
                      client.slotChannels.set slot.asUsize .empty }.setCall
                  index ⟨request, .returning slot response⟩, [])
          | _ => none
      | _ => none
  -- the senders of all slots are gone and nothing is left in the channel
  | .disconnect index =>
      match client.calls[index]? with
      | some ⟨request, .awaiting slot⟩ =>
          match client.slotChannels[slot.asUsize]?, client.receiver with
          | some .empty, .ended | some .empty, .panicked =>
              some (client.abandon index request slot, [])
          | _, _ => none
      | _ => none
  | .release index =>
      match client.calls[index]? with
      | some ⟨request, .returning slot response⟩ =>
          if client.callSlots.length < config.slotCount then
            some
              ({ client with callSlots := client.callSlots ++ [slot] }.setCall
                index ⟨request, .returned response⟩, [])
          else
            none
      | _ => none

/-- `receive_loop` on a packet; it blocks while the channel is full. -/
def receive (client : Client) (packet : Frame) : Option Client :=
  match client.slotChannels[packet.slot.asUsize]? with
  | some .empty =>
      some
        { client with
          slotChannels :=
            client.slotChannels.set packet.slot.asUsize (.full packet) }
  | some (.full _) => none
  | some .closed | none => some { client with receiver := .panicked }

/-- Everything that one step of a call can do, with its guards. -/
inductive Moves (config : Config) (client : Client) :
    ClientEvent → Client × List Frame → Prop where
  | invoke (request : Frame) :
      Moves config client (.invoke request)
        ({ client with calls := client.calls ++ [⟨request, .popping⟩] }, [])
  | pop (index : Nat) (request : Frame) (slot : SlotId)
      (rest : List SlotId)
      (found : client.calls[index]? = some ⟨request, .popping⟩)
      (front : client.callSlots = slot :: rest) :
      Moves config client (.pop index)
        ({ client with callSlots := rest }.setCall index
          ⟨request, .sending slot⟩, [])
  | timeOut (index : Nat) (request : Frame)
      (found : client.calls[index]? = some ⟨request, .popping⟩)
      (exhausted : client.callSlots = [])
      (limited : config.callTimeout.isSome) :
      Moves config client (.timeOut index)
        (client.setCall index ⟨request, .timedOut⟩, [])
  | send (index : Nat) (request packet : Frame) (slot : SlotId)
      (found : client.calls[index]? = some ⟨request, .sending slot⟩)
      (written : request.addressed slot = some packet) :
      Moves config client (.send index .sent)
        (client.setCall index ⟨request, .awaiting slot⟩, [packet])
  | sendFails (index : Nat) (request packet : Frame) (slot : SlotId)
      (outcome : SendOutcome)
      (found : client.calls[index]? = some ⟨request, .sending slot⟩)
      (written : request.addressed slot = some packet)
      (fails : outcome ≠ .sent) :
      Moves config client (.send index outcome)
        (client.abandon index request slot, outcome.packets packet)
  | sendPanics (index : Nat) (request : Frame) (slot : SlotId)
      (outcome : SendOutcome)
      (found : client.calls[index]? = some ⟨request, .sending slot⟩)
      (refused : request.addressed slot = none) :
      Moves config client (.send index outcome)
        (client.abandon index request slot, [])
  | takeResponse (index : Nat) (request response : Frame) (slot : SlotId)
      (found : client.calls[index]? = some ⟨request, .awaiting slot⟩)
      (arrived :
        client.slotChannels[slot.asUsize]? = some (.full response)) :
      Moves config client (.takeResponse index)
        ({ client with
            slotChannels := client.slotChannels.set slot.asUsize .empty
          }.setCall index ⟨request, .returning slot response⟩, [])
  | disconnect (index : Nat) (request : Frame) (slot : SlotId)
      (found : client.calls[index]? = some ⟨request, .awaiting slot⟩)
      (nothing : client.slotChannels[slot.asUsize]? = some .empty)
      (stopped : client.receiver ≠ .running) :
      Moves config client (.disconnect index)
        (client.abandon index request slot, [])
  | release (index : Nat) (request response : Frame) (slot : SlotId)
      (found :
        client.calls[index]? = some ⟨request, .returning slot response⟩)
      (room : client.callSlots.length < config.slotCount) :
      Moves config client (.release index)
        ({ client with callSlots := client.callSlots ++ [slot] }.setCall
          index ⟨request, .returned response⟩, [])

theorem moves_of_step
    {config : Config} {client : Client} {event : ClientEvent}
    {result : Client × List Frame}
    (stepped : client.step config event = some result) :
    Moves config client event result := by
  cases event with
  | invoke request =>
      cases stepped
      exact .invoke request
  | pop index =>
      simp only [step] at stepped
      split at stepped
      · rename_i request slot rest found front
        cases stepped
        exact .pop index request slot rest found front
      · cases stepped
  | timeOut index =>
      simp only [step] at stepped
      split at stepped
      · rename_i request limit found exhausted limited
        cases stepped
        refine .timeOut index request found exhausted ?_
        rw [limited]
        rfl
      · cases stepped
  | send index outcome =>
      simp only [step] at stepped
      split at stepped
      · rename_i request slot found
        split at stepped
        · rename_i refused
          cases stepped
          exact .sendPanics index request slot outcome found refused
        · rename_i packet written
          split at stepped
          · cases stepped
            exact .send index request packet slot found written
          all_goals
            cases stepped
            exact
              .sendFails index request packet slot _ found written
                (by decide)
      · cases stepped
  | takeResponse index =>
      simp only [step] at stepped
      split at stepped
      · rename_i request slot found
        split at stepped
        · rename_i response arrived
          cases stepped
          exact .takeResponse index request response slot found arrived
        · cases stepped
      · cases stepped
  | disconnect index =>
      simp only [step] at stepped
      split at stepped
      · rename_i request slot found
        split at stepped
        · rename_i nothing stopped
          cases stepped
          refine .disconnect index request slot found nothing ?_
          rw [stopped]
          decide
        · rename_i nothing stopped
          cases stepped
          refine .disconnect index request slot found nothing ?_
          rw [stopped]
          decide
        · cases stepped
      · cases stepped
  | release index =>
      simp only [step] at stepped
      split at stepped
      · rename_i request slot response found
        by_cases room : client.callSlots.length < config.slotCount
        · rw [if_pos room] at stepped
          cases stepped
          exact .release index request response slot found room
        · rw [if_neg room] at stepped
          cases stepped
      · cases stepped

end Client

end CloudP2P.Rpc
