import CloudP2P.Rpc.Packet

/-!
# The receiving thread of a context

`receiver_loop` takes one packet after the other from the transport and puts
it into one of two channels that hold one item each: requests go to the
server, responses to the client.  When the transport fails, it tells the
server and then the client, and ends.

Packets on the way may overtake each other.
-/

namespace CloudP2P.Rpc

/-- What a channel holds. -/
inductive Item where
  | packet (packet : Frame)
  | failure
  deriving DecidableEq

inductive MultiplexerState where
  | receiving
  | forwarding (packet : Frame)
  | failing
  | failingResponse
  | ended
  | panicked
  deriving DecidableEq

structure Multiplexer where
  /-- What the other end has sent and `recv` has not returned yet. -/
  incoming : List Frame
  state : MultiplexerState
  requestChannel : Option Item
  responseChannel : Option Item

inductive MultiplexerEvent where
  | deliver (index : Nat)
  | fail
  | forward
  deriving DecidableEq

namespace Multiplexer

def new : Multiplexer where
  incoming := []
  state := .receiving
  requestChannel := none
  responseChannel := none

/-- `receiver_loop`; a send blocks while the channel is full and panics when
nobody listens on it any more. -/
def step (serverListens clientListens : Bool) (multiplexer : Multiplexer) :
    MultiplexerEvent → Option Multiplexer
  | .deliver index =>
      match multiplexer.state, multiplexer.incoming[index]? with
      | .receiving, some packet =>
          some
            { multiplexer with
              incoming := multiplexer.incoming.eraseIdx index
              state := .forwarding packet }
      | _, _ => none
  | .fail =>
      match multiplexer.state with
      | .receiving => some { multiplexer with state := .failing }
      | _ => none
  | .forward =>
      match multiplexer.state with
      | .forwarding packet =>
          match packet.slot.getType with
          | .request =>
              if serverListens then
                match multiplexer.requestChannel with
                | none =>
                    some
                      { multiplexer with
                        requestChannel := some (.packet packet)
                        state := .receiving }
                | some _ => none
              else
                some { multiplexer with state := .panicked }
          | .response =>
              if clientListens then
                match multiplexer.responseChannel with
                | none =>
                    some
                      { multiplexer with
                        responseChannel := some (.packet packet)
                        state := .receiving }
                | some _ => none
              else
                some { multiplexer with state := .panicked }
      | .failing =>
          if serverListens then
            match multiplexer.requestChannel with
            | none =>
                some
                  { multiplexer with
                    requestChannel := some .failure
                    state := .failingResponse }
            | some _ => none
          else
            some { multiplexer with state := .panicked }
      | .failingResponse =>
          if clientListens then
            match multiplexer.responseChannel with
            | none =>
                some
                  { multiplexer with
                    responseChannel := some .failure
                    state := .ended }
            | some _ => none
          else
            some { multiplexer with state := .panicked }
      | .receiving | .ended | .panicked => none

/-- Everything that one step of the thread can do, with its guards. -/
inductive Moves (serverListens clientListens : Bool)
    (multiplexer : Multiplexer) : MultiplexerEvent → Multiplexer → Prop where
  | deliver (index : Nat) (packet : Frame)
      (receiving : multiplexer.state = .receiving)
      (found : multiplexer.incoming[index]? = some packet) :
      Moves serverListens clientListens multiplexer (.deliver index)
        { multiplexer with
          incoming := multiplexer.incoming.eraseIdx index
          state := .forwarding packet }
  | fail (receiving : multiplexer.state = .receiving) :
      Moves serverListens clientListens multiplexer .fail
        { multiplexer with state := .failing }
  | forwardRequest (packet : Frame)
      (holds : multiplexer.state = .forwarding packet)
      (type : packet.slot.getType = .request)
      (listens : serverListens = true)
      (room : multiplexer.requestChannel = none) :
      Moves serverListens clientListens multiplexer .forward
        { multiplexer with
          requestChannel := some (.packet packet)
          state := .receiving }
  | forwardResponse (packet : Frame)
      (holds : multiplexer.state = .forwarding packet)
      (type : packet.slot.getType = .response)
      (listens : clientListens = true)
      (room : multiplexer.responseChannel = none) :
      Moves serverListens clientListens multiplexer .forward
        { multiplexer with
          responseChannel := some (.packet packet)
          state := .receiving }
  | forwardPanics (packet : Frame)
      (holds : multiplexer.state = .forwarding packet)
      (deaf :
        (packet.slot.getType = .request ∧ serverListens = false) ∨
          (packet.slot.getType = .response ∧ clientListens = false)) :
      Moves serverListens clientListens multiplexer .forward
        { multiplexer with state := .panicked }
  | tellServer (failing : multiplexer.state = .failing)
      (listens : serverListens = true)
      (room : multiplexer.requestChannel = none) :
      Moves serverListens clientListens multiplexer .forward
        { multiplexer with
          requestChannel := some .failure
          state := .failingResponse }
  | tellClient (failing : multiplexer.state = .failingResponse)
      (listens : clientListens = true)
      (room : multiplexer.responseChannel = none) :
      Moves serverListens clientListens multiplexer .forward
        { multiplexer with
          responseChannel := some .failure
          state := .ended }
  | tellPanics
      (deaf :
        (multiplexer.state = .failing ∧ serverListens = false) ∨
          (multiplexer.state = .failingResponse ∧
            clientListens = false)) :
      Moves serverListens clientListens multiplexer .forward
        { multiplexer with state := .panicked }

theorem moves_of_step
    {serverListens clientListens : Bool}
    {multiplexer target : Multiplexer} {event : MultiplexerEvent}
    (stepped :
      multiplexer.step serverListens clientListens event = some target) :
    Moves serverListens clientListens multiplexer event target := by
  cases event with
  | deliver index =>
      simp only [step] at stepped
      split at stepped
      · rename_i packet receiving found
        cases stepped
        exact .deliver index packet receiving found
      · cases stepped
  | fail =>
      simp only [step] at stepped
      split at stepped
      · rename_i receiving
        cases stepped
        exact .fail receiving
      · cases stepped
  | forward =>
      simp only [step] at stepped
      split at stepped
      · rename_i packet holds
        split at stepped
        · rename_i type
          by_cases listens : serverListens = true
          · rw [if_pos listens] at stepped
            split at stepped
            · rename_i room
              cases stepped
              exact .forwardRequest packet holds type listens room
            · cases stepped
          · rw [if_neg listens] at stepped
            cases stepped
            refine .forwardPanics packet holds (Or.inl ⟨type, ?_⟩)
            exact eq_false_of_ne_true listens
        · rename_i type
          by_cases listens : clientListens = true
          · rw [if_pos listens] at stepped
            split at stepped
            · rename_i room
              cases stepped
              exact .forwardResponse packet holds type listens room
            · cases stepped
          · rw [if_neg listens] at stepped
            cases stepped
            refine .forwardPanics packet holds (Or.inr ⟨type, ?_⟩)
            exact eq_false_of_ne_true listens
      · rename_i failing
        by_cases listens : serverListens = true
        · rw [if_pos listens] at stepped
          split at stepped
          · rename_i room
            cases stepped
            exact .tellServer failing listens room
          · cases stepped
        · rw [if_neg listens] at stepped
          cases stepped
          exact .tellPanics (Or.inl ⟨failing, eq_false_of_ne_true listens⟩)
      · rename_i failing
        by_cases listens : clientListens = true
        · rw [if_pos listens] at stepped
          split at stepped
          · rename_i room
            cases stepped
            exact .tellClient failing listens room
          · cases stepped
        · rw [if_neg listens] at stepped
          cases stepped
          exact .tellPanics (Or.inr ⟨failing, eq_false_of_ne_true listens⟩)
      all_goals cases stepped

end Multiplexer

end CloudP2P.Rpc
